import SafeCore.BalanceManagement
import SafeCore.ReplicaNetwork

/-!
One `send_money` call against the actor's event semantics: a call that returns debits the amount
and advances the counter once; one that fails leaves both as they were. Racing calls are in
`SendMoneyInterleaving`.
-/

namespace SafeCore

variable {N : Type} (net : Network N)

/-- The transfer a send builds from an idle ledger. -/
def outgoingTransfer (ledger : TransferActor) (recipient : PublicKey) (amount : Money) :
    SignedTransfer :=
  ⟨⟨⟨ledger.id, ledger.nextDebit⟩, recipient, amount⟩⟩

theorem sendMoney_insufficient (recipient : PublicKey) (amount : Money) (c : Client N)
    (synced : TransferActor) (hHistory : net.history c.network c.transferActor = .ok synced)
    (hIdle : synced.pending = none) (hShort : synced.balance < amount) :
    sendMoney net recipient amount c =
      .error (.error (.dataError .insufficientBalance)) { c with transferActor := synced } := by
  have hSynced : getHistory net c = .ok () { c with transferActor := synced } := by
    rw [getHistory_apply, hHistory]
  have hTransfer : synced.transfer amount recipient = .error .insufficientBalance := by
    simp [TransferActor.transfer, hIdle, hShort]
  rw [sendMoney, bind_ok hSynced, bind_apply, sendMoneyTransfer_apply, hTransfer]

/-- What the last lock of a send leaves, from the actor its first locks left. -/
theorem registerDebit_after_initiate (synced : TransferActor) (st : SignedTransfer)
    (proof : DebitAgreementProof) (c : Client N)
    (hc : c.transferActor = { synced with pending := some st }) :
    match registerDebit proof c with
    | .ok () c' => proof.signedTransfer = st ∧
        synced.balance.checkedSub st.amount = some c'.transferActor.balance ∧
        c'.transferActor.nextDebit = synced.nextDebit + 1 ∧ c'.commands = c.commands
    | .error _ c' => c'.transferActor.balance = synced.balance ∧
        c'.transferActor.nextDebit = synced.nextDebit := by
  rw [registerDebit_apply, hc]
  by_cases hp : proof.signedTransfer = st
  · have hr : ({ synced with pending := some st } : TransferActor).register proof =
        .ok (some ⟨proof⟩) := by
      simp [TransferActor.register, hp]
    rw [hr]
    dsimp only
    cases ha : ({ synced with pending := some st } : TransferActor).apply
        (.transferRegistrationSent ⟨proof⟩) with
    | error e => exact ⟨by rw [hc], by rw [hc]⟩
    | ok a =>
        obtain ⟨hb, hn, -⟩ := TransferActor.apply_transferRegistrationSent_ok ha
        exact ⟨hp, by rwa [hp] at hb, hn, rfl⟩
  · have hr : ({ synced with pending := some st } : TransferActor).register proof =
        .error (.transfers "Debit proof does not match the pending transfer") := by
      simp [TransferActor.register, Ne.symm hp]
    rw [hr]
    exact ⟨by rw [hc], by rw [hc]⟩

theorem sendMoney_debits_exactly_once (recipient : PublicKey) (amount : Money) (c : Client N)
    (synced : TransferActor) (hHistory : net.history c.network c.transferActor = .ok synced)
    (hIdle : synced.pending = none) :
    (synced.balance < amount →
      sendMoney net recipient amount c =
        .error (.error (.dataError .insufficientBalance)) { c with transferActor := synced }) ∧
    match sendMoney net recipient amount c with
    | .ok () c' => synced.balance.checkedSub amount = some c'.transferActor.balance ∧
        c'.transferActor.nextDebit = synced.nextDebit + 1 ∧
        ∃ proof : DebitAgreementProof,
          proof.signedTransfer = outgoingTransfer synced recipient amount ∧
          c'.commands = c.commands ++
            [.transfer (.validateTransfer proof.signedTransfer), .transfer (.registerTransfer proof)]
    | .error _ c' => c'.transferActor.balance = synced.balance ∧
        c'.transferActor.nextDebit = synced.nextDebit := by
  refine ⟨sendMoney_insufficient net recipient amount c synced hHistory hIdle, ?_⟩
  have hSynced : getHistory net c = .ok () { c with transferActor := synced } := by
    rw [getHistory_apply, hHistory]
  rw [sendMoney, bind_ok hSynced, bind_apply, sendMoneyTransfer_apply]
  cases hTransfer : synced.transfer amount recipient with
  | error e => exact ⟨rfl, rfl⟩
  | ok r =>
    obtain ⟨-, -, rfl⟩ := TransferActor.transfer_ok hTransfer
    simp only [bind_apply, sendMoneyInitiate_apply]
    set st : SignedTransfer := ⟨⟨⟨synced.id, synced.nextDebit⟩, recipient, amount⟩⟩
    set c₂ : Client N := { c with transferActor := { synced with pending := some st } }
    have hPa := preserves_awaitValidation net (·.transferActor) (fun _ _ _ => rfl)
      (.transfer (.validateTransfer st)) st.id
    have hvc := commands_awaitValidation net (.transfer (.validateTransfer st)) st.id c₂
    cases hValidate : sendMoneyValidate net st c₂ with
    | error f c₃ =>
        have hv : c₃.transferActor = c₂.transferActor := hPa.of_error hValidate
        exact ⟨by rw [hv], by rw [hv]⟩
    | ok proof c₃ =>
        have hv : c₃.transferActor = c₂.transferActor := hPa.of_ok hValidate
        rw [sendMoneyValidate] at hValidate
        rw [hValidate] at hvc
        simp only [bind_apply]
        have hPr := preserves_sendCmd net (·.transferActor) (fun _ _ _ => rfl)
          (.transfer (.registerTransfer proof))
        have hrc := commands_sendCmd net (.transfer (.registerTransfer proof)) c₃
        cases hRegister : sendMoneyRegister net proof c₃ with
        | error f c₄ =>
            have hr : c₄.transferActor = c₃.transferActor := hPr.of_error hRegister
            exact ⟨by rw [hr, hv], by rw [hr, hv]⟩
        | ok u c₄ =>
            have hr : c₄.transferActor = c₃.transferActor := hPr.of_ok hRegister
            rw [sendMoneyRegister] at hRegister
            rw [hRegister] at hrc
            have hc₄ : c₄.transferActor = { synced with pending := some st } := hr.trans hv
            have hd := registerDebit_after_initiate synced st proof c₄ hc₄
            dsimp only
            revert hd
            cases registerDebit proof c₄ with
            | error f c' => exact id
            | ok u' c' =>
                rintro ⟨hp, hb, hn, hcmd⟩
                refine ⟨hb, hn, proof, hp, ?_⟩
                simp only [stateAfter_ok] at hvc hrc
                rw [hcmd, hrc, hvc, hp]
                simp [c₂]

theorem sendMoney_debits_exactly_once_fresh :
    (replicaNetwork ⟨1⟩ ⟨0⟩).history (fun _ => none) ⟨⟨1⟩, ⟨10⟩, 0, none, []⟩ =
      .ok ⟨⟨1⟩, ⟨10⟩, 0, none, []⟩ ∧
    (⟨⟨1⟩, ⟨10⟩, 0, none, []⟩ : TransferActor).pending = none ∧
    (((⟨10⟩ : Money) < ⟨3⟩ →
      sendMoney (replicaNetwork ⟨1⟩ ⟨0⟩) ⟨2⟩ ⟨3⟩ (freshClient ⟨1⟩ ⟨10⟩ fun _ => none) =
        .error (.error (.dataError .insufficientBalance))
          { freshClient ⟨1⟩ ⟨10⟩ (fun _ => none) with
            transferActor := ⟨⟨1⟩, ⟨10⟩, 0, none, []⟩ }) ∧
    match sendMoney (replicaNetwork ⟨1⟩ ⟨0⟩) ⟨2⟩ ⟨3⟩ (freshClient ⟨1⟩ ⟨10⟩ fun _ => none) with
    | .ok () c' => (⟨10⟩ : Money).checkedSub ⟨3⟩ = some c'.transferActor.balance ∧
        c'.transferActor.nextDebit = 0 + 1 ∧
        ∃ proof : DebitAgreementProof,
          proof.signedTransfer = outgoingTransfer ⟨⟨1⟩, ⟨10⟩, 0, none, []⟩ ⟨2⟩ ⟨3⟩ ∧
          c'.commands = [] ++
            [.transfer (.validateTransfer proof.signedTransfer), .transfer (.registerTransfer proof)]
    | .error _ c' => c'.transferActor.balance = ⟨10⟩ ∧ c'.transferActor.nextDebit = 0) :=
  ⟨rfl, rfl, sendMoney_debits_exactly_once (replicaNetwork ⟨1⟩ ⟨0⟩) ⟨2⟩ ⟨3⟩
    (freshClient ⟨1⟩ ⟨10⟩ fun _ => none) ⟨⟨1⟩, ⟨10⟩, 0, none, []⟩ rfl rfl⟩

end SafeCore
