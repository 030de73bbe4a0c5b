import SafeCore.Data

/-!
The transfer actor of safe_transfers, modelled by its event semantics: `transfer` builds a signed
transfer on the next debit counter, and the events mark it pending, record validator shares,
and on registration debit the amount and advance the counter.
-/

namespace SafeCore

structure TransferActor where
  id : PublicKey
  balance : Money
  nextDebit : Nat
  pending : Option SignedTransfer
  validations : List TransferValidated
  deriving DecidableEq, Repr

structure TransferInitiated where
  signedTransfer : SignedTransfer
  deriving DecidableEq, Repr

structure TransferValidationReceived where
  validation : TransferValidated
  proof : Option DebitAgreementProof
  deriving DecidableEq, Repr

structure TransferRegistrationSent where
  debitProof : DebitAgreementProof
  deriving DecidableEq, Repr

inductive ActorEvent
  | transferInitiated (event : TransferInitiated)
  | transferValidationReceived (event : TransferValidationReceived)
  | transferRegistrationSent (event : TransferRegistrationSent)
  deriving DecidableEq, Repr

namespace TransferActor

def transfer (a : TransferActor) (amount : Money) (recipient : PublicKey) :
    Except SndError (Option TransferInitiated) :=
  if a.pending.isSome then .error (.transfers "Current pending transfer has not been completed")
  else if a.balance < amount then .error .insufficientBalance
  else .ok (some ⟨⟨⟨⟨a.id, a.nextDebit⟩, recipient, amount⟩⟩⟩)

def apply (a : TransferActor) : ActorEvent → Except SndError TransferActor
  | .transferInitiated e => .ok { a with pending := some e.signedTransfer }
  | .transferValidationReceived e => .ok { a with validations := a.validations ++ [e.validation] }
  | .transferRegistrationSent e =>
      match a.balance.checkedSub e.debitProof.signedTransfer.amount with
      | some balance => .ok { a with balance, nextDebit := a.nextDebit + 1, pending := none }
      | none => .error .insufficientBalance

def register (a : TransferActor) (proof : DebitAgreementProof) :
    Except SndError (Option TransferRegistrationSent) :=
  if a.pending = some proof.signedTransfer then .ok (some ⟨proof⟩)
  else .error (.transfers "Debit proof does not match the pending transfer")

theorem transfer_ok {a : TransferActor} {amount : Money} {recipient : PublicKey}
    {r : Option TransferInitiated} (h : a.transfer amount recipient = .ok r) :
    a.pending = none ∧ ¬ a.balance < amount ∧
      r = some ⟨⟨⟨⟨a.id, a.nextDebit⟩, recipient, amount⟩⟩⟩ := by
  unfold transfer at h
  split at h
  · cases h
  · split at h
    · cases h
    · cases h
      exact ⟨Option.not_isSome_iff_eq_none.mp ‹_›, ‹_›, rfl⟩

theorem register_ok {a : TransferActor} {proof : DebitAgreementProof}
    {r : Option TransferRegistrationSent} (h : a.register proof = .ok r) :
    a.pending = some proof.signedTransfer ∧ r = some ⟨proof⟩ := by
  unfold register at h
  split at h
  · cases h
    exact ⟨‹_›, rfl⟩
  · cases h

@[simp] theorem apply_transferInitiated (a : TransferActor) (e : TransferInitiated) :
    a.apply (.transferInitiated e) = .ok { a with pending := some e.signedTransfer } := rfl

theorem apply_transferRegistrationSent_ok {a a' : TransferActor}
    {e : TransferRegistrationSent} (h : a.apply (.transferRegistrationSent e) = .ok a') :
    a.balance.checkedSub e.debitProof.signedTransfer.amount = some a'.balance ∧
      a'.nextDebit = a.nextDebit + 1 ∧ a'.pending = none := by
  simp only [apply] at h
  split at h
  · cases h
    exact ⟨‹_›, rfl, rfl⟩
  · cases h

end TransferActor
end SafeCore
