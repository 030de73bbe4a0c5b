import SafeCore.Client

/-!
The client's sequence APIs. The six paid writes share one body, `payAndSend`; the four mutations
of an existing sequence share `mutateChecked`; the owner and permission accessors share
`readCurrent`. Each API keeps its own definition, that body applied to its own values.
-/

namespace SafeCore

variable {N α : Type} (net : Network N)

def wrapSeqRead (read : SequenceRead) : Query := .data (.sequence read)

def wrapSeqWrite (write : SequenceWrite) (payment : DebitAgreementProof) : Cmd :=
  .data (.sequence write) payment

/-! ### Paid writes -/

/-- The body the six paid writes share. -/
def payAndSend (write : SequenceWrite) : ClientM N Unit := do
  let paymentProof ← createWritePaymentProof net
  sendCmd net (wrapSeqWrite write paymentProof)
  applyWritePaymentToLocalActor paymentProof

def deleteSequence (address : SequenceAddress) : ClientM N Unit :=
  payAndSend net (.delete address)

def payAndWriteAppendToSequenceToNetwork (op : SequenceWriteOp SequenceEntry) : ClientM N Unit :=
  payAndSend net (.edit op)

def payAndWriteSequenceToNetwork (data : Sequence) : ClientM N Unit :=
  payAndSend net (.new data)

def setSequenceOwner (op : SequenceWriteOp SequenceOwner) : ClientM N Unit :=
  payAndSend net (.setOwner op)

def editSequencePrivatePerms (op : SequenceWriteOp SequencePrivatePermissions) :
    ClientM N Unit :=
  payAndSend net (.setPrivatePermissions op)

def editSequencePublicPerms (op : SequenceWriteOp SequencePublicPermissions) :
    ClientM N Unit :=
  payAndSend net (.setPublicPermissions op)

theorem keepsReplica_payAndSend (write : SequenceWrite) : KeepsReplica (payAndSend net write) :=
  (keepsReplica_createWritePaymentProof net).bind fun proof =>
    (keepsReplica_sendCmd net _).bind fun _ => keepsReplica_registerDebit proof

/-! ### Reading through the cache -/

/-- What `get_sequence` makes of the network's answer. -/
def sequenceOfResponse : QueryResponse → Except CoreError Sequence
  | .getSequence res => res.mapError .dataError
  | _ => .error .receivedUnexpectedEvent

def getSequence (address : SequenceAddress) : ClientM N Sequence := do
  if let some sequence := (← get).sequenceCache address then
    return sequence
  let sequence ← ofCore (sequenceOfResponse (← sendQuery net (wrapSeqRead (.get address))))
  putSequence sequence
  return sequence

theorem getSequence_apply (address : SequenceAddress) (c : Client N) :
    getSequence net address c = match c.sequenceCache address with
      | some s => .ok s c
      | none =>
        match net.query (wrapSeqRead (.get address)) c.network >>= sequenceOfResponse with
        | .ok s => .ok s
            { c with
              queries := c.queries ++ [wrapSeqRead (.get address)]
              sequenceCache := Function.update c.sequenceCache s.address (some s) }
        | .error e => .error (.error e)
            { c with queries := c.queries ++ [wrapSeqRead (.get address)] } := by
  unfold getSequence
  cases h : c.sequenceCache address with
  | some s => simp [bind_apply, h]
  | none =>
      simp only [bind_apply, get_apply, pure_apply, h, sendQuery_apply]
      cases net.query (wrapSeqRead (.get address)) c.network with
      | error e => rfl
      | ok r => cases hr : sequenceOfResponse r <;> simp [hr, bind_apply, Except.bind, bind]

/-- `get_sequence` touches nothing but the cache and the record of queries. -/
theorem preserves_getSequence {γ : Type} (f : Client N → γ)
    (hf : ∀ c qs m, f { c with queries := qs, sequenceCache := m } = f c)
    (address : SequenceAddress) : Preserves f (getSequence net address) := by
  intro c
  rw [getSequence_apply]
  split
  · rfl
  · split
    · exact hf _ _ _
    · exact hf _ _ _

/-- `get_sequence` changes the cache and the record of queries, and nothing else. -/
theorem getSequence_frame (address : SequenceAddress) (c : Client N) :
    (stateAfter (getSequence net address c)).publicKey = c.publicKey ∧
    (stateAfter (getSequence net address c)).transferActor = c.transferActor ∧
    (stateAfter (getSequence net address c)).network = c.network ∧
    (stateAfter (getSequence net address c)).commands = c.commands :=
  ⟨preserves_getSequence net (·.publicKey) (fun _ _ _ => rfl) address c,
    preserves_getSequence net (·.transferActor) (fun _ _ _ => rfl) address c,
    preserves_getSequence net (·.network) (fun _ _ _ => rfl) address c,
    preserves_getSequence net (·.commands) (fun _ _ _ => rfl) address c⟩

theorem getSequence_error_cache {address : SequenceAddress} {c c' : Client N} {f : Failure}
    (h : getSequence net address c = .error f c') : c'.sequenceCache = c.sequenceCache := by
  rw [getSequence_apply] at h
  split at h
  · cases h
  · split at h
    · cases h
    · cases h; rfl

/-- A fetch caches at most the snapshot it returns, filed under its own address. -/
theorem getSequence_ok_cache {address : SequenceAddress} {c c' : Client N} {s : Sequence}
    (h : getSequence net address c = .ok s c') :
    c'.sequenceCache = c.sequenceCache ∨
      c'.sequenceCache = Function.update c.sequenceCache s.address (some s) := by
  rw [getSequence_apply] at h
  split at h
  · cases h; exact .inl rfl
  · split at h
    · cases h; exact .inr rfl
    · cases h

/-! ### Creating a sequence -/

/-- The body `store_private_sequence` and `store_public_sequence` share once the permissions
are set: set the owner, append the initial entries, pay and send, then cache. -/
def storeSequence (address : SequenceAddress) (data : Sequence) (owner : PublicKey)
    (sequence : Option (List SequenceEntry)) : ClientM N SequenceAddress := do
  let data := (data.setOwner owner).1
  let data := (sequence.getD []).foldl (fun d entry => (d.append entry).1) data
  payAndWriteSequenceToNetwork net data
  putSequence data
  return address

theorem storeSequence_apply (address : SequenceAddress) (data : Sequence) (owner : PublicKey)
    (sequence : Option (List SequenceEntry)) (c : Client N) :
    storeSequence net address data owner sequence c =
      let data := (sequence.getD []).foldl (fun d entry => (d.append entry).1)
        (data.setOwner owner).1
      match payAndSend net (.new data) c with
      | .ok () c₁ => .ok address
          { c₁ with sequenceCache := Function.update c₁.sequenceCache data.address (some data) }
      | .error f c₁ => .error f c₁ := by
  simp only [storeSequence, payAndWriteSequenceToNetwork, bind_apply]
  cases payAndSend net _ c <;> rfl

def storePrivateSequence (sequence : Option (List SequenceEntry)) (name : XorName) (tag : UInt64)
    (owner : PublicKey) (permissions : List (PublicKey × SequencePrivUserPermissions)) :
    ClientM N SequenceAddress := do
  let data := Sequence.newPrivate (← get).publicKey name tag
  let (withPermissions, _) ← ofSnd (data.setPrivatePermissions permissions)
  storeSequence net data.address withPermissions owner sequence

def storePublicSequence (sequence : Option (List SequenceEntry)) (name : XorName) (tag : UInt64)
    (owner : PublicKey) (permissions : List (SequenceUser × SequencePubUserPermissions)) :
    ClientM N SequenceAddress := do
  let data := Sequence.newPub (← get).publicKey name tag
  let (withPermissions, _) ← ofSnd (data.setPubPermissions permissions)
  storeSequence net data.address withPermissions owner sequence

theorem storePrivateSequence_apply (sequence : Option (List SequenceEntry)) (name : XorName)
    (tag : UInt64) (owner : PublicKey) (permissions : List (PublicKey × SequencePrivUserPermissions))
    (c : Client N) :
    storePrivateSequence net sequence name tag owner permissions c =
      match (Sequence.newPrivate c.publicKey name tag).setPrivatePermissions permissions with
      | .ok (withPermissions, _) => storeSequence net
          (Sequence.newPrivate c.publicKey name tag).address withPermissions owner sequence c
      | .error e => .error (.error (.dataError e)) c := by
  simp only [storePrivateSequence, bind_apply, get_apply]
  cases (Sequence.newPrivate c.publicKey name tag).setPrivatePermissions permissions <;> rfl

theorem storePublicSequence_apply (sequence : Option (List SequenceEntry)) (name : XorName)
    (tag : UInt64) (owner : PublicKey) (permissions : List (SequenceUser × SequencePubUserPermissions))
    (c : Client N) :
    storePublicSequence net sequence name tag owner permissions c =
      match (Sequence.newPub c.publicKey name tag).setPubPermissions permissions with
      | .ok (withPermissions, _) => storeSequence net
          (Sequence.newPub c.publicKey name tag).address withPermissions owner sequence c
      | .error e => .error (.error (.dataError e)) c := by
  simp only [storePublicSequence, bind_apply, get_apply]
  cases (Sequence.newPub c.publicKey name tag).setPubPermissions permissions <;> rfl

/-! ### Mutating an existing sequence -/

/-- The body the four mutations of an existing sequence share. -/
def mutateChecked (address : SequenceAddress) (action : SequenceAction)
    (mutate : Sequence → Except SndError (Sequence × α)) (send : α → ClientM N Unit) :
    ClientM N Unit := do
  let sequence ← getSequence net address
  ofSnd (sequence.checkPermission action (← get).publicKey)
  let (sequence, op) ← ofSnd (mutate sequence)
  putSequence sequence
  send op

def appendToSequence (address : SequenceAddress) (entry : SequenceEntry) : ClientM N Unit :=
  mutateChecked net address .append (fun s => .ok (s.append entry))
    (payAndWriteAppendToSequenceToNetwork net)

def sequenceSetOwner (address : SequenceAddress) (owner : PublicKey) : ClientM N Unit :=
  mutateChecked net address .managePermissions (fun s => .ok (s.setOwner owner))
    (setSequenceOwner net)

def sequenceSetPubPermissions (address : SequenceAddress)
    (permissions : List (SequenceUser × SequencePubUserPermissions)) : ClientM N Unit :=
  mutateChecked net address .managePermissions (·.setPubPermissions permissions)
    (editSequencePublicPerms net)

def sequenceSetPrivatePermissions (address : SequenceAddress)
    (permissions : List (PublicKey × SequencePrivUserPermissions)) : ClientM N Unit :=
  mutateChecked net address .managePermissions (·.setPrivatePermissions permissions)
    (editSequencePrivatePerms net)

theorem mutateChecked_apply (address : SequenceAddress) (action : SequenceAction)
    (mutate : Sequence → Except SndError (Sequence × α)) (send : α → ClientM N Unit)
    (c : Client N) :
    mutateChecked net address action mutate send c = match getSequence net address c with
      | .error f c₁ => .error f c₁
      | .ok s c₁ => match s.checkPermission action c₁.publicKey, mutate s with
        | .error e, _ => .error (.error (.dataError e)) c₁
        | .ok (), .error e => .error (.error (.dataError e)) c₁
        | .ok (), .ok (s', op) => send op
            { c₁ with sequenceCache := Function.update c₁.sequenceCache s'.address (some s') } := by
  unfold mutateChecked
  simp only [bind_apply]
  cases getSequence net address c with
  | error f c₁ => rfl
  | ok s c₁ =>
      simp only [get_apply]
      cases s.checkPermission action c₁.publicKey with
      | error e => simp
      | ok u => cases mutate s with
        | error e => simp
        | ok r => simp [bind_apply]

/-! ### Accessors -/

/-- `u64` subtraction as a debug build runs it: going below zero panics. -/
def subU64 (a b : Nat) : ClientM N Nat :=
  if b ≤ a then pure (a - b) else throw (.panic "attempt to subtract with overflow")

def getSequenceLastEntry (address : SequenceAddress) : ClientM N (Nat × SequenceEntry) := do
  let sequence ← getSequence net address
  match sequence.lastEntry with
  | some entry => return (← subU64 sequence.entriesIndex 1, entry)
  | none => throw (.error (.dataError .noSuchEntry))

def getSequenceRange (address : SequenceAddress) (range : SequenceIndex × SequenceIndex) :
    ClientM N (List SequenceEntry) := do
  let sequence ← getSequence net address
  match sequence.inRange range.1 range.2 with
  | some entries => return entries
  | none => throw (.error (.dataError .noSuchEntry))

/-- The body the owner and permission accessors share: read the current version, at the
history's length less one. -/
def readCurrent (address : SequenceAddress) (index : Sequence → Nat)
    (read : Sequence → Nat → Except CoreError α) : ClientM N α := do
  let sequence ← getSequence net address
  let current ← subU64 (index sequence) 1
  ofCore (read sequence current)

def getSequenceOwner (address : SequenceAddress) : ClientM N SequenceOwner :=
  readCurrent net address Sequence.ownersIndex fun s i =>
    match s.owner i with
    | some owner => .ok owner
    | none => .error (.unexpected "Unexpectedly failed to obtain current owner of Sequence")

def getSequencePubPermissions (address : SequenceAddress) :
    ClientM N SequencePublicPermissions :=
  readCurrent net address Sequence.permissionsIndex fun s i =>
    (s.pubPermissions i).mapError .dataError

def getSequencePrivatePermissions (address : SequenceAddress) :
    ClientM N SequencePrivatePermissions :=
  readCurrent net address Sequence.permissionsIndex fun s i =>
    (s.privatePermissions i).mapError .dataError

def getSequenceUserPermissions (address : SequenceAddress) (user : SequenceUser) :
    ClientM N SequenceUserPermissions :=
  readCurrent net address Sequence.permissionsIndex fun s i =>
    (s.userPermissions user i).mapError .dataError

end SafeCore
