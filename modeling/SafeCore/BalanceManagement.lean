import SafeCore.Client

/-!
The client's money APIs: the balances, the handling of one validation event, and `send_money`,
written as the phases its code runs (each one lock of the actor or one round trip) so that
concurrent calls can be interleaved. The actor's `receive` is a parameter.
-/

namespace SafeCore

variable {N : Type} (net : Network N)

def getLocalBalance : ClientM N Money := return (← actor).balance

def getBalanceFromNetwork (pk : Option PublicKey) : ClientM N Money := do
  let publicKey := pk.getD (← get).publicKey
  match ← sendQuery net (.transfer (.getBalance publicKey)) with
  | .getBalance balance => ofSnd balance
  | _ => fail "Unexpected response when querying balance"

/-! ### Validation events -/

/-- The actor's aggregation of validation shares (safe_transfers). -/
abbrev Receive := TransferActor → TransferValidated → Except SndError (Option TransferValidationReceived)

/-- The duplicate-share error, recognised by its text. -/
def isAlreadyReceived (error : SndError) : Bool :=
  textContains error.text "Already received validation"

def handleValidationEvent (receive : Receive) (event : Event) :
    ClientM N (Option DebitAgreementProof) := do
  let validation ← match event with
    | .transferValidated validation => pure validation
    | .other debug => fail ("Unexpected event received at TransferActor, " ++ debug)
  match receive (← actor) validation with
  | .ok (some transferValidation) =>
      applyEvent (.transferValidationReceived transferValidation)
      return transferValidation.proof
  | .ok none => return none
  | .error error =>
      if !isAlreadyReceived error then
        throw (.error (.dataError error))
      return none

theorem handleValidationEvent_apply (receive : Receive) (validation : TransferValidated)
    (c : Client N) :
    handleValidationEvent receive (.transferValidated validation) c =
      match receive c.transferActor validation with
      | .ok (some v) => match c.transferActor.apply (.transferValidationReceived v) with
        | .ok a => .ok v.proof { c with transferActor := a }
        | .error e => .error (.error (.dataError e)) c
      | .ok none => .ok none c
      | .error e => if isAlreadyReceived e then .ok none c else .error (.error (.dataError e)) c := by
  simp only [handleValidationEvent, bind_apply, pure_apply, actor, get_apply]
  cases receive c.transferActor validation with
  | error e => by_cases h : isAlreadyReceived e <;> simp [h, bind_apply]
  | ok r => cases r with
    | none => rfl
    | some v =>
        simp only [applyEvent, actor, bind_apply, get_apply, pure_apply]
        cases c.transferActor.apply (.transferValidationReceived v) <;> rfl

/-! ### Sending money -/

/-- The lock taken for `transfer()`: the signed transfer, the actor left as it was. -/
def sendMoneyTransfer (recipient : PublicKey) (amount : Money) : ClientM N SignedTransfer := do
  let some initiated ← ofSnd ((← actor).transfer amount recipient)
    | fail "No transfer generated by the actor."
  return initiated.signedTransfer

/-- The lock taken again for `apply(TransferInitiated)`. -/
def sendMoneyInitiate (signedTransfer : SignedTransfer) : ClientM N Unit :=
  applyEvent (.transferInitiated ⟨signedTransfer⟩)

def sendMoneyValidate (signedTransfer : SignedTransfer) : ClientM N DebitAgreementProof :=
  awaitValidation net (.transfer (.validateTransfer signedTransfer)) signedTransfer.id

def sendMoneyRegister (debitProof : DebitAgreementProof) : ClientM N Unit :=
  sendCmd net (.transfer (.registerTransfer debitProof))

theorem sendMoneyTransfer_apply (recipient : PublicKey) (amount : Money) (c : Client N) :
    sendMoneyTransfer recipient amount c = match c.transferActor.transfer amount recipient with
      | .ok (some i) => .ok i.signedTransfer c
      | .ok none => .error (.error (.unexpected "No transfer generated by the actor.")) c
      | .error e => .error (.error (.dataError e)) c := by
  simp only [sendMoneyTransfer, bind_apply, actor, get_apply, pure_apply]
  cases c.transferActor.transfer amount recipient with
  | error e => rfl
  | ok r => cases r <;> rfl

theorem sendMoneyInitiate_apply (t : SignedTransfer) (c : Client N) :
    sendMoneyInitiate t c =
      .ok () { c with transferActor := { c.transferActor with pending := some t } } := rfl

def sendMoney (recipient : PublicKey) (amount : Money) : ClientM N Unit := do
  getHistory net
  let signedTransfer ← sendMoneyTransfer recipient amount
  sendMoneyInitiate signedTransfer
  let debitProof ← sendMoneyValidate net signedTransfer
  sendMoneyRegister net debitProof
  registerDebit debitProof

end SafeCore
