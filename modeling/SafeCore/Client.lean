import SafeCore.Sequence
import SafeCore.TransferActor
import Mathlib.Logic.Function.Basic

/-!
The client as its APIs see it: key, sequence cache, transfer actor, and the network with every
query and command on record. A call runs in `ClientM`, where, as with Rust's `?`, what a call
did before it failed stays done; the network's answers are a parameter.
-/

namespace SafeCore

structure Client (N : Type) where
  publicKey : PublicKey
  sequenceCache : SequenceAddress → Option Sequence
  transferActor : TransferActor
  network : N
  queries : List Query
  commands : List Cmd

abbrev ClientM (N : Type) := EStateM Failure (Client N)

/-- What the network does for one client. `validation` is the proof the validators' shares for
a broadcast transfer combine into; `writeCost` and `payee` are the write price and the key it
is paid to, both network parameters. -/
structure Network (N : Type) where
  query : Query → N → Except CoreError QueryResponse
  command : Cmd → N → Except CoreError N
  validation : Cmd → TransferId → N → Except CoreError DebitAgreementProof
  history : N → TransferActor → Except CoreError TransferActor
  writeCost : Money
  payee : PublicKey

/-- The state a call leaves, whether it returned or failed. -/
def stateAfter {ε σ α : Type} : EStateM.Result ε σ α → σ
  | .ok _ s => s
  | .error _ s => s

/-- What a call returned, its state dropped. -/
def outcome {ε σ α : Type} : EStateM.Result ε σ α → Except ε α
  | .ok a _ => .ok a
  | .error e _ => .error e

variable {N α β γ : Type}

/-! ### The monad, evaluated -/

theorem bind_apply (x : ClientM N α) (f : α → ClientM N β) (c : Client N) :
    (x >>= f) c = match x c with
      | .ok a c' => f a c'
      | .error e c' => .error e c' := by
  simp only [bind, EStateM.bind]; cases x c <;> rfl

theorem bind_ok {x : ClientM N α} {f : α → ClientM N β} {c c' : Client N} {a : α}
    (h : x c = .ok a c') : (x >>= f) c = f a c' := by
  simp only [bind, EStateM.bind, h]

/-- The inversion of a bind that returned. -/
theorem bind_eq_ok {x : ClientM N α} {f : α → ClientM N β} {c c' : Client N} {b : β}
    (h : (x >>= f) c = .ok b c') : ∃ a c₁, x c = .ok a c₁ ∧ f a c₁ = .ok b c' := by
  rw [bind_apply] at h
  cases hx : x c with
  | ok a c₁ => rw [hx] at h; exact ⟨a, c₁, rfl, h⟩
  | error e c₁ => rw [hx] at h; cases h

theorem discard_apply (x : ClientM N α) (c : Client N) :
    (discard x : ClientM N Unit) c = match x c with
      | .ok _ c' => .ok () c'
      | .error e c' => .error e c' := by
  simp only [discard, Functor.mapConst, Function.comp, Functor.map, EStateM.map]
  cases x c <;> rfl

theorem discard_eq_ok {x : ClientM N α} {c c' : Client N}
    (h : (discard x : ClientM N Unit) c = .ok () c') : ∃ a, x c = .ok a c' := by
  rw [discard_apply] at h
  split at h
  · next a c₁ hx => cases h; exact ⟨a, hx⟩
  · cases h

theorem stateAfter_discard (x : ClientM N α) (c : Client N) :
    stateAfter ((discard x : ClientM N Unit) c) = stateAfter (x c) := by
  rw [discard_apply]
  cases x c <;> rfl

@[simp] theorem pure_apply (a : α) (c : Client N) : (pure a : ClientM N α) c = .ok a c := rfl

@[simp] theorem get_apply (c : Client N) : (get : ClientM N (Client N)) c = .ok c c := rfl

@[simp] theorem throw_apply (f : Failure) (c : Client N) :
    (throw f : ClientM N α) c = .error f c := rfl

@[simp] theorem modifyGet_apply (g : Client N → α × Client N) (c : Client N) :
    (modifyGet g : ClientM N α) c = .ok (g c).1 (g c).2 := rfl

@[simp] theorem stateAfter_ok {a : α} {c : Client N} :
    stateAfter (.ok a c : EStateM.Result Failure (Client N) α) = c := rfl

@[simp] theorem stateAfter_error {f : Failure} {c : Client N} :
    stateAfter (.error f c : EStateM.Result Failure (Client N) α) = c := rfl

/-! ### Primitive effects -/

/-- `?` on a `Result<_, CoreError>`. -/
def ofCore : Except CoreError α → ClientM N α
  | .ok a => pure a
  | .error e => throw (.error e)

/-- `?` on a safe_nd result, through `CoreError::from`. -/
def ofSnd (r : Except SndError α) : ClientM N α := ofCore (r.mapError .dataError)

/-- `CoreError::from(msg)`, returned. -/
def fail (msg : String) : ClientM N α := throw (.error (.unexpected msg))

@[simp] theorem ofCore_ok (a : α) (c : Client N) : (ofCore (.ok a) : ClientM N α) c = .ok a c := rfl

@[simp] theorem ofCore_error (e : CoreError) (c : Client N) :
    (ofCore (.error e) : ClientM N α) c = .error (.error e) c := rfl

@[simp] theorem ofSnd_ok (a : α) (c : Client N) : (ofSnd (.ok a) : ClientM N α) c = .ok a c := rfl

@[simp] theorem ofSnd_error (e : SndError) (c : Client N) :
    (ofSnd (.error e) : ClientM N α) c = .error (.error (.dataError e)) c := rfl

@[simp] theorem fail_apply (msg : String) (c : Client N) :
    (fail msg : ClientM N α) c = .error (.error (.unexpected msg)) c := rfl

section Effects
variable (net : Network N)

def sendQuery (q : Query) : ClientM N QueryResponse := fun c =>
  let c := { c with queries := c.queries ++ [q] }
  match net.query q c.network with
  | .ok r => .ok r c
  | .error e => .error (.error e) c

def sendCmd (cmd : Cmd) : ClientM N Unit := fun c =>
  let c := { c with commands := c.commands ++ [cmd] }
  match net.command cmd c.network with
  | .ok n => .ok () { c with network := n }
  | .error e => .error (.error e) c

/-- `sequence_cache.put(*s.address(), s)`: the snapshot is filed under its own address. -/
def putSequence (s : Sequence) : ClientM N Unit :=
  modify fun c => { c with sequenceCache := Function.update c.sequenceCache s.address (some s) }

@[simp] theorem putSequence_apply (s : Sequence) (c : Client N) :
    putSequence s c = .ok ()
      { c with sequenceCache := Function.update c.sequenceCache s.address (some s) } := rfl

/-- The actor as `transfer_actor.lock().await` finds it. -/
def actor : ClientM N TransferActor := return (← get).transferActor

def setActor (a : TransferActor) : ClientM N Unit := modify fun c => { c with transferActor := a }

/-- `actor.apply(event)?`, under one acquisition of the lock. -/
def applyEvent (e : ActorEvent) : ClientM N Unit := do
  setActor (← ofSnd ((← actor).apply e))

/-- Modelled from the spec: `get_history` (in the transfer actor module, outside these sources)
brings the actor up to date with the network's record of its transfers. -/
def getHistory : ClientM N Unit := do
  let c ← get
  setActor (← ofCore (net.history c.network c.transferActor))

/-- Modelled from the spec: `await_validation` (outside these sources) broadcasts the transfer
for validation and waits until the validators' shares combine into a proof. -/
def awaitValidation (message : Cmd) (id : TransferId) : ClientM N DebitAgreementProof := do
  sendCmd net message
  ofCore (net.validation message id (← get).network)

/-- Modelled from the spec: `create_write_payment_proof` (outside these sources) pays the write
price as a transfer: it builds the transfer, marks it initiated and waits for its proof. -/
def createWritePaymentProof : ClientM N DebitAgreementProof := do
  let some initiated ← ofSnd ((← actor).transfer net.writeCost net.payee)
    | fail "No transfer generated by the actor."
  applyEvent (.transferInitiated initiated)
  awaitValidation net (.transfer (.validateTransfer initiated.signedTransfer))
    initiated.signedTransfer.id

/-- The last lock of `send_money`: register the proof with the actor, then apply the
registration, which debits it. -/
def registerDebit (proof : DebitAgreementProof) : ClientM N Unit := do
  let some event ← ofSnd ((← actor).register proof)
    | fail "No transfer event to register locally"
  applyEvent (.transferRegistrationSent event)

/-- Modelled from the spec: `apply_write_payment_to_local_actor` (outside these sources)
registers the payment's proof with the actor as a send does. -/
def applyWritePaymentToLocalActor (proof : DebitAgreementProof) : ClientM N Unit :=
  registerDebit proof

end Effects

/-! ### Frames

`Preserves f x`: whichever way `x` ends, it leaves the part `f` of the client as it was. -/

def Preserves (f : Client N → γ) (x : ClientM N α) : Prop :=
  ∀ c, f (stateAfter (x c)) = f c

namespace Preserves

variable {f : Client N → γ}

theorem pure (a : α) : Preserves f (pure a : ClientM N α) := fun _ => rfl

theorem throw (e : Failure) : Preserves f (throw e : ClientM N α) := fun _ => rfl

theorem get : Preserves f (get : ClientM N (Client N)) := fun _ => rfl

theorem bind {x : ClientM N α} {g : α → ClientM N β} (hx : Preserves f x)
    (hg : ∀ a, Preserves f (g a)) : Preserves f (x >>= g) := by
  intro c
  rw [bind_apply]
  cases h : x c with
  | ok a c' => rw [hg a c', ← hx c, h]; rfl
  | error e c' => rw [← hx c, h]; rfl

theorem ofCore (r : Except CoreError α) : Preserves f (SafeCore.ofCore r : ClientM N α) := by
  cases r <;> exact fun _ => rfl

theorem ofSnd (r : Except SndError α) : Preserves f (SafeCore.ofSnd r : ClientM N α) :=
  ofCore _

theorem fail (msg : String) : Preserves f (SafeCore.fail msg : ClientM N α) := throw _

theorem actor : Preserves f (SafeCore.actor : ClientM N TransferActor) := fun _ => rfl

theorem of_ok {x : ClientM N α} {c c' : Client N} {a : α} (h : Preserves f x)
    (hx : x c = .ok a c') : f c' = f c := by
  simpa only [hx, stateAfter_ok] using h c

theorem of_error {x : ClientM N α} {c c' : Client N} {e : Failure} (h : Preserves f x)
    (hx : x c = .error e c') : f c' = f c := by
  simpa only [hx, stateAfter_error] using h c

end Preserves

section Frames
variable (net : Network N)

theorem sendQuery_apply (q : Query) (c : Client N) :
    sendQuery net q c = match net.query q c.network with
      | .ok r => .ok r { c with queries := c.queries ++ [q] }
      | .error e => .error (.error e) { c with queries := c.queries ++ [q] } := rfl

/-- Payment and booking touch the actor, the network and the command record, never the
cache or the key. -/
def KeepsReplica (x : ClientM N α) : Prop :=
  Preserves (·.sequenceCache) x ∧ Preserves (·.publicKey) x

theorem KeepsReplica.bind {x : ClientM N α} {g : α → ClientM N β} (hx : KeepsReplica x)
    (hg : ∀ a, KeepsReplica (g a)) : KeepsReplica (x >>= g) :=
  ⟨Preserves.bind hx.1 fun a => (hg a).1, Preserves.bind hx.2 fun a => (hg a).2⟩

theorem keepsReplica_of_preserves {x : ClientM N α}
    (h : ∀ {γ} (f : Client N → γ), Preserves f x) : KeepsReplica x := ⟨h _, h _⟩

theorem keepsReplica_sendCmd (cmd : Cmd) : KeepsReplica (sendCmd net cmd) := by
  constructor <;> intro c <;> simp only [sendCmd] <;> split <;> rfl

theorem preserves_setActor {γ : Type} (f : Client N → γ)
    (hf : ∀ c a, f { c with transferActor := a } = f c) (a : TransferActor) :
    Preserves f (setActor a : ClientM N Unit) := fun c => hf c a

theorem preserves_applyEvent {γ : Type} (f : Client N → γ)
    (hf : ∀ c a, f { c with transferActor := a } = f c) (e : ActorEvent) :
    Preserves f (applyEvent e : ClientM N Unit) :=
  Preserves.actor.bind fun _ => (Preserves.ofSnd _).bind fun a => preserves_setActor f hf a

theorem preserves_registerDebit {γ : Type} (f : Client N → γ)
    (hf : ∀ c a, f { c with transferActor := a } = f c) (proof : DebitAgreementProof) :
    Preserves f (registerDebit proof : ClientM N Unit) := by
  refine Preserves.actor.bind fun _ => (Preserves.ofSnd _).bind fun r => ?_
  cases r with
  | none => exact Preserves.fail _
  | some e => exact preserves_applyEvent f hf _

/-- Paying touches the actor, and whatever validating a transfer touches. -/
theorem preserves_createWritePaymentProof {γ : Type} (f : Client N → γ)
    (hf : ∀ c a, f { c with transferActor := a } = f c)
    (hv : ∀ t : SignedTransfer, Preserves f (awaitValidation net (.transfer (.validateTransfer t)) t.id)) :
    Preserves f (createWritePaymentProof net) := by
  refine Preserves.actor.bind fun _ => (Preserves.ofSnd _).bind fun r => ?_
  cases r with
  | none => exact Preserves.fail _
  | some i => exact (preserves_applyEvent f hf _).bind fun _ => hv _

theorem keepsReplica_awaitValidation (message : Cmd) (id : TransferId) :
    KeepsReplica (awaitValidation net message id) :=
  (keepsReplica_sendCmd net message).bind fun _ =>
    (keepsReplica_of_preserves fun _ => Preserves.get).bind fun _ =>
      keepsReplica_of_preserves fun _ => Preserves.ofCore _

theorem keepsReplica_createWritePaymentProof : KeepsReplica (createWritePaymentProof net) :=
  ⟨preserves_createWritePaymentProof net (·.sequenceCache) (fun _ _ => rfl)
      fun _ => (keepsReplica_awaitValidation net _ _).1,
    preserves_createWritePaymentProof net (·.publicKey) (fun _ _ => rfl)
      fun _ => (keepsReplica_awaitValidation net _ _).2⟩

theorem keepsReplica_registerDebit (proof : DebitAgreementProof) :
    KeepsReplica (registerDebit proof : ClientM N Unit) :=
  ⟨preserves_registerDebit (·.sequenceCache) (fun _ _ => rfl) proof,
    preserves_registerDebit (·.publicKey) (fun _ _ => rfl) proof⟩

theorem getHistory_apply (c : Client N) :
    getHistory net c = match net.history c.network c.transferActor with
      | .ok a => .ok () { c with transferActor := a }
      | .error e => .error (.error e) c := by
  simp only [getHistory, bind_apply, get_apply]
  cases net.history c.network c.transferActor <;> rfl

theorem registerDebit_apply (proof : DebitAgreementProof) (c : Client N) :
    registerDebit proof c = match c.transferActor.register proof with
      | .ok (some e) => match c.transferActor.apply (.transferRegistrationSent e) with
        | .ok a => .ok () { c with transferActor := a }
        | .error e => .error (.error (.dataError e)) c
      | .ok none => .error (.error (.unexpected "No transfer event to register locally")) c
      | .error e => .error (.error (.dataError e)) c := by
  simp only [registerDebit, bind_apply, actor, get_apply, pure_apply]
  cases c.transferActor.register proof with
  | error e => rfl
  | ok r => cases r with
    | none => rfl
    | some e =>
        simp only [applyEvent, actor, bind_apply, get_apply, pure_apply, ofSnd_ok]
        cases c.transferActor.apply (.transferRegistrationSent e) <;> rfl

theorem preserves_sendCmd {γ : Type} (f : Client N → γ)
    (hf : ∀ c cs n, f { c with commands := cs, network := n } = f c) (cmd : Cmd) :
    Preserves f (sendCmd net cmd) := by
  intro c
  simp only [sendCmd]
  split
  · exact hf c _ _
  · exact hf c _ c.network

theorem preserves_awaitValidation {γ : Type} (f : Client N → γ)
    (hf : ∀ c cs n, f { c with commands := cs, network := n } = f c) (message : Cmd)
    (id : TransferId) : Preserves f (awaitValidation net message id) :=
  (preserves_sendCmd net f hf message).bind fun _ =>
    Preserves.get.bind fun _ => Preserves.ofCore _

theorem commands_sendCmd (cmd : Cmd) (c : Client N) :
    (stateAfter (sendCmd net cmd c)).commands = c.commands ++ [cmd] := by
  simp only [sendCmd]
  split <;> rfl

theorem commands_awaitValidation (message : Cmd) (id : TransferId) (c : Client N) :
    (stateAfter (awaitValidation net message id c)).commands = c.commands ++ [message] := by
  rw [awaitValidation, bind_apply]
  have h := commands_sendCmd net message c
  cases hs : sendCmd net message c with
  | error e c' => rw [hs] at h; exact h
  | ok u c' =>
      rw [hs] at h
      rw [← h]
      exact Preserves.get.bind (fun _ => Preserves.ofCore _) c'

end Frames

end SafeCore
