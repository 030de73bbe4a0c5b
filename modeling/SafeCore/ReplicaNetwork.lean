import SafeCore.SequenceApis

/-!
The network as one map from addresses to sequences that applies exactly the commands it
receives (`Delete` removes a private sequence and keeps a public one). Transfers are validated
as sent and `get_history` finds nothing new.
-/

namespace SafeCore

/-- The network's store. -/
abbrev DataMap := SequenceAddress → Option Sequence

/-- Apply `edit` to the sequence at `address`, if there is one. -/
def editAt (m : DataMap) (address : SequenceAddress) (edit : Sequence → Sequence) : DataMap :=
  Function.update m address ((m address).map edit)

def applyWrite : SequenceWrite → DataMap → DataMap
  | .new data, m => Function.update m data.address (some data)
  | .edit op, m => editAt m op.address (·.applyEdit op.crdtOp)
  | .delete address, m => match m address with
    | some (.priv _) => Function.update m address none
    | _ => m
  | .setOwner op, m => editAt m op.address (·.applyOwner op.crdtOp)
  | .setPublicPermissions op, m => editAt m op.address (·.applyPublicPermissions op.crdtOp)
  | .setPrivatePermissions op, m => editAt m op.address (·.applyPrivatePermissions op.crdtOp)

/-- The address a write targets. -/
def SequenceWrite.address : SequenceWrite → SequenceAddress
  | .new data => data.address
  | .edit op => op.address
  | .delete address => address
  | .setOwner op => op.address
  | .setPublicPermissions op => op.address
  | .setPrivatePermissions op => op.address

/-- A write leaves every other address alone. -/
theorem applyWrite_of_ne {m : DataMap} {b : SequenceAddress} :
    ∀ {w : SequenceWrite}, b ≠ w.address → applyWrite w m b = m b
  | .new _, h | .edit _, h | .setOwner _, h | .setPublicPermissions _, h
  | .setPrivatePermissions _, h => Function.update_noteq h _ _
  | .delete address, h => by
      simp only [applyWrite]
      cases m address with
      | none => rfl
      | some s => cases s with
        | pub d => rfl
        | priv d => exact Function.update_noteq h _ _

theorem editAt_of_some {m : DataMap} {address : SequenceAddress} {s : Sequence}
    (h : m address = some s) (edit : Sequence → Sequence) :
    editAt m address edit = Function.update m address (some (edit s)) := by
  rw [editAt, h]; rfl

/-- The answer to a read of `address`. -/
def readAt (m : DataMap) (address : SequenceAddress) : QueryResponse :=
  .getSequence (match m address with
    | some s => .ok s
    | none => .error .noSuchData)

def replicaNetwork (writeCost : Money) (payee : PublicKey) : Network DataMap where
  query q m := match q with
    | .data (.sequence (.get address)) => .ok (readAt m address)
    | .transfer _ => .ok .other
  command cmd m := match cmd with
    | .data (.sequence write) _ => .ok (applyWrite write m)
    | .transfer _ => .ok m
  validation message _ _ := match message with
    | .transfer (.validateTransfer t) => .ok ⟨t⟩
    | _ => .error .receivedUnexpectedEvent
  history _ a := .ok a
  writeCost := writeCost
  payee := payee

/-- A client with nothing cached, nothing sent, and `balance` on an idle actor. -/
def freshClient (key : PublicKey) (balance : Money) (network : DataMap) : Client DataMap where
  publicKey := key
  sequenceCache := fun _ => none
  transferActor := ⟨key, balance, 0, none, []⟩
  network := network
  queries := []
  commands := []

/-- A fresh client on the empty map whose cache holds `s`, filed under its own address. -/
def cachedClient (key : PublicKey) (balance : Money) (s : Sequence) : Client DataMap :=
  { freshClient key balance (fun _ => none) with
    sequenceCache := fun a => if a = s.address then some s else none }

variable {writeCost : Money} {payee : PublicKey}

/-- `get_sequence` against the map: a hit, or the map's object at the address, filed under its
own address. -/
theorem getSequence_replica (address : SequenceAddress) (c : Client DataMap) :
    getSequence (replicaNetwork writeCost payee) address c = match c.sequenceCache address with
      | some s => .ok s c
      | none => match c.network address with
        | some s => .ok s
            { c with
              queries := c.queries ++ [wrapSeqRead (.get address)]
              sequenceCache := Function.update c.sequenceCache s.address (some s) }
        | none => .error (.error (.dataError .noSuchData))
            { c with queries := c.queries ++ [wrapSeqRead (.get address)] } := by
  rw [getSequence_apply]
  cases c.sequenceCache address with
  | some s => rfl
  | none =>
      simp only [replicaNetwork, readAt, wrapSeqRead]
      cases c.network address <;> rfl

theorem network_sendCmd_transfer (cmd : TransferCmd) :
    Preserves (·.network) (sendCmd (replicaNetwork writeCost payee) (.transfer cmd)) :=
  fun _ => rfl

/-- Paying for a write is a transfer, which the map ignores. -/
theorem network_createWritePaymentProof :
    Preserves (·.network) (createWritePaymentProof (replicaNetwork writeCost payee)) :=
  preserves_createWritePaymentProof _ (·.network) (fun _ _ => rfl) fun _ =>
    (network_sendCmd_transfer _).bind fun _ => Preserves.get.bind fun _ => Preserves.ofCore _

/-- A paid write that returned has applied exactly its write to the map, and cached nothing. -/
theorem payAndSend_replica {write : SequenceWrite} {c c' : Client DataMap}
    (h : payAndSend (replicaNetwork writeCost payee) write c = .ok () c') :
    c'.network = applyWrite write c.network ∧ c'.sequenceCache = c.sequenceCache := by
  refine ⟨?_, (keepsReplica_payAndSend _ write).1.of_ok h⟩
  obtain ⟨proof, c₁, hPay, hRest⟩ := bind_eq_ok h
  obtain ⟨u, c₂, hSend, hBook⟩ := bind_eq_ok hRest
  have h₁ : c₁.network = c.network := network_createWritePaymentProof.of_ok hPay
  have h₂ : c₂.network = applyWrite write c₁.network := by cases hSend; rfl
  have h₃ : c'.network = c₂.network :=
    (preserves_registerDebit (·.network) (fun _ _ => rfl) proof).of_ok hBook
  rw [h₃, h₂, h₁]

/-- Every sequence is filed under its own address. -/
def WellKeyed (m : DataMap) : Prop := ∀ a s, m a = some s → s.address = a

theorem wellKeyed_update {m : DataMap} (hm : WellKeyed m) (s : Sequence) :
    WellKeyed (Function.update m s.address (some s)) := by
  intro a t h
  by_cases ha : a = s.address
  · subst ha
    simp only [Function.update_same, Option.some.injEq] at h
    rw [h]
  · rw [Function.update_noteq ha] at h
    exact hm a t h

theorem wellKeyed_editAt {m : DataMap} (hm : WellKeyed m) (address : SequenceAddress)
    {edit : Sequence → Sequence} (hedit : ∀ s, (edit s).address = s.address) :
    WellKeyed (editAt m address edit) := by
  intro a t h
  by_cases ha : a = address
  · subst ha
    simp only [editAt, Function.update_same, Option.map_eq_some'] at h
    obtain ⟨s, hs, rfl⟩ := h
    rw [hedit, hm a s hs]
  · rw [editAt, Function.update_noteq ha] at h
    exact hm a t h

theorem wellKeyed_applyWrite {m : DataMap} (hm : WellKeyed m) :
    ∀ w, WellKeyed (applyWrite w m)
  | .new data => wellKeyed_update hm data
  | .edit op => wellKeyed_editAt hm _ fun s => Sequence.address_applyEdit s _
  | .delete address => by
      simp only [applyWrite]
      split
      · intro a t h
        by_cases ha : a = address
        · subst ha; simp at h
        · rw [Function.update_noteq ha] at h; exact hm a t h
      · exact hm
  | .setOwner op => wellKeyed_editAt hm _ fun s => Sequence.address_applyOwner s _
  | .setPublicPermissions op =>
      wellKeyed_editAt hm _ fun s => Sequence.address_applyPublicPermissions s _
  | .setPrivatePermissions op =>
      wellKeyed_editAt hm _ fun s => Sequence.address_applyPrivatePermissions s _

end SafeCore
