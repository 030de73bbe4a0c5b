import SafeCore.Data
import SafeCore.Sequence
import SafeCore.TransferActor
import SafeCore.Client
import SafeCore.SequenceApis
import SafeCore.BalanceManagement
import SafeCore.ReplicaNetwork
import SafeCore.SendMoney
import SafeCore.ReadThrough
import SafeCore.FailedMutation
import SafeCore.PermissionGate
import SafeCore.Accessors
import SafeCore.ReplicaCoherence
import SafeCore.DuplicateValidation
import SafeCore.SendMoneyInterleaving
import SafeCore.WritePayment
import SafeCore.ReadBack
import SafeCore.ClientRuns
import SafeCore.ClientLedger
import SafeCore.CacheRuns
import SafeCore.Progress
