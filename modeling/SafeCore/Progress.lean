import SafeCore.ClientRuns
import SafeCore.ReadBack
import Mathlib

/-!
Progress on a network that answers: there sends, paid writes, appends, management and the
documented session all return, and another client reads what the session wrote. A write the
network rejects after its payment is validated strands that payment.
-/

namespace SafeCore

variable {N : Type}

/-- A network that does what it is asked: `get_history` finds nothing new, every command is
taken, and validating a transfer ends with the proof of that transfer. -/
structure Cooperative (net : Network N) : Prop where
  history : ∀ n a, net.history n a = .ok a
  command : ∀ cmd n, ∃ n', net.command cmd n = .ok n'
  validation : ∀ t n, net.validation (.transfer (.validateTransfer t)) t.id n = .ok ⟨t⟩

/-- The replica network answers every request. -/
theorem cooperative_replicaNetwork {writeCost : Money} {payee : PublicKey} :
    Cooperative (replicaNetwork writeCost payee) :=
  ⟨fun _ _ => rfl, fun cmd _ => by cases cmd <;> exact ⟨_, rfl⟩, fun _ _ => rfl⟩

/-! ### Sends complete on a cooperative network -/

/-- On a cooperative network a send from an idle actor whose balance covers the amount returns,
the amount debited once and the counter advanced once. -/
theorem sendMoney_returns {net : Network N} (hCoop : Cooperative net) (recipient : PublicKey)
    (amount : Money) {c : Client N} (hIdle : c.transferActor.pending = none)
    (hFunds : ¬ c.transferActor.balance < amount) :
    ∃ c', sendMoney net recipient amount c = .ok () c' ∧
      c.transferActor.balance.checkedSub amount = some c'.transferActor.balance ∧
      c'.transferActor.nextDebit = c.transferActor.nextDebit + 1 ∧
      c'.transferActor.pending = none := by
  obtain ⟨n₁, h₁⟩ := hCoop.command
    (.transfer (.validateTransfer (outgoingTransfer c.transferActor recipient amount))) c.network
  obtain ⟨n₂, h₂⟩ := hCoop.command
    (.transfer (.registerTransfer ⟨outgoingTransfer c.transferActor recipient amount⟩)) n₁
  have hTransfer : c.transferActor.transfer amount recipient =
      .ok (some ⟨outgoingTransfer c.transferActor recipient amount⟩) := by
    simp [TransferActor.transfer, hIdle, hFunds, outgoingTransfer]
  have hAmount : (outgoingTransfer c.transferActor recipient amount).amount = amount := rfl
  rw [sendMoney, bind_apply, getHistory_apply, hCoop.history]
  simp only [bind_apply, sendMoneyTransfer_apply, hTransfer, sendMoneyInitiate_apply]
  rw [show sendMoneyValidate net _ _ = awaitValidation net _ _ _ from rfl, awaitValidation_apply]
  simp only [h₁, hCoop.validation, ofCore_ok, bind_apply]
  rw [show sendMoneyRegister net _ = sendCmd net _ from rfl, sendCmd_apply, h₂]
  dsimp only
  rw [registerDebit_apply]
  simp only [TransferActor.register, ↓reduceIte, TransferActor.apply, hAmount,
    Money.checkedSub_of_not_lt hFunds]
  exact ⟨_, rfl, rfl, rfl, rfl⟩

/-- From an idle actor whose balance covers them, `send_money` calls on a cooperative network all
return, each debited once and none left pending. -/
theorem cooperative_sends_complete {net : Network N} (hCoop : Cooperative net)
    (sends : List (PublicKey × Money)) (c : Client N) (hIdle : c.transferActor.pending = none)
    (hFunds : (sends.map (·.2.nanos.toNat)).sum ≤ c.transferActor.balance.nanos.toNat) :
    ∃ c', sends.forM (fun send => sendMoney net send.1 send.2) c = .ok () c' ∧
      c'.transferActor.balance.nanos.toNat + (sends.map (·.2.nanos.toNat)).sum =
        c.transferActor.balance.nanos.toNat ∧
      c'.transferActor.nextDebit = c.transferActor.nextDebit + sends.length ∧
      c'.transferActor.pending = none := by
  induction sends generalizing c with
  | nil => exact ⟨c, rfl, rfl, rfl, hIdle⟩
  | cons send sends ih =>
      simp only [List.map_cons, List.sum_cons] at hFunds
      obtain ⟨c₁, h₁, hb₁, hn₁, hp₁⟩ :=
        sendMoney_returns hCoop send.1 send.2 hIdle (Money.not_lt_of_toNat_le (by omega))
      have hb := Money.checkedSub_toNat hb₁
      obtain ⟨c', h', hb', hn', hp'⟩ := ih c₁ hp₁ (by omega)
      refine ⟨c', by rw [List.forM_cons']; exact (bind_ok h₁).trans h', ?_, ?_, hp'⟩
      · simp only [List.map_cons, List.sum_cons]
        omega
      · rw [hn', hn₁, List.length_cons]
        omega

theorem cooperative_sends_complete_five_of_110 :
    Cooperative (replicaNetwork ⟨1⟩ ⟨0⟩) ∧
    (freshClient ⟨1⟩ ⟨110⟩ fun _ => none).transferActor.pending = none ∧
    ([(PublicKey.mk 2, Money.mk 5)].map (·.2.nanos.toNat)).sum ≤
      (freshClient ⟨1⟩ ⟨110⟩ fun _ => none).transferActor.balance.nanos.toNat ∧
    ∃ c', [(PublicKey.mk 2, Money.mk 5)].forM
        (fun send => sendMoney (replicaNetwork ⟨1⟩ ⟨0⟩) send.1 send.2)
        (freshClient ⟨1⟩ ⟨110⟩ fun _ => none) = .ok () c' ∧
      c'.transferActor.balance.nanos.toNat +
          ([(PublicKey.mk 2, Money.mk 5)].map (·.2.nanos.toNat)).sum =
        (freshClient ⟨1⟩ ⟨110⟩ fun _ => none).transferActor.balance.nanos.toNat ∧
      c'.transferActor.nextDebit =
        (freshClient ⟨1⟩ ⟨110⟩ fun _ => none).transferActor.nextDebit +
          [(PublicKey.mk 2, Money.mk 5)].length ∧
      c'.transferActor.pending = none :=
  ⟨cooperative_replicaNetwork, rfl, by decide,
    cooperative_sends_complete cooperative_replicaNetwork _ _ rfl (by decide)⟩

/- The spec's scenario: 5 sent from a balance of 110 leaves 105, and a send of 5000 after it is
refused for the balance and leaves 105. -/
example : ∃ c', sendMoney (replicaNetwork ⟨1⟩ ⟨0⟩) ⟨2⟩ ⟨5⟩
    (freshClient ⟨1⟩ ⟨110⟩ fun _ => none) = .ok () c' ∧ c'.transferActor.balance = ⟨105⟩ ∧
    ∃ c'', sendMoney (replicaNetwork ⟨1⟩ ⟨0⟩) ⟨2⟩ ⟨5000⟩ c' =
      .error (.error (.dataError .insufficientBalance)) c'' ∧ c''.transferActor.balance = ⟨105⟩ :=
  ⟨_, rfl, rfl, _, rfl, rfl⟩

/- A send of nothing is not refused: it goes out and takes a debit counter. -/
example : ∃ c', sendMoney (replicaNetwork ⟨1⟩ ⟨0⟩) ⟨2⟩ ⟨0⟩
    (freshClient ⟨1⟩ ⟨110⟩ fun _ => none) = .ok () c' ∧ c'.transferActor.balance = ⟨110⟩ ∧
    c'.transferActor.nextDebit = 1 :=
  ⟨_, rfl, rfl, rfl⟩

/-! ### Paid writes complete on a cooperative network -/

/-- The sequence write a command carries, if it is one. -/
def sentWrite : Cmd → Option SequenceWrite
  | .data (.sequence write) _ => some write
  | .transfer _ => none

/-- The sequence writes among the commands sent, in the order sent. -/
def sentWrites (commands : List Cmd) : List SequenceWrite := commands.filterMap sentWrite

theorem sentWrites_append (l₁ l₂ : List Cmd) :
    sentWrites (l₁ ++ l₂) = sentWrites l₁ ++ sentWrites l₂ :=
  List.filterMap_append ..

/-- A paid write sends its payment for validation, then the write. -/
theorem sentWrites_paidWrite (payment : SignedTransfer) (write : SequenceWrite)
    (proof : DebitAgreementProof) :
    sentWrites [.transfer (.validateTransfer payment), wrapSeqWrite write proof] = [write] := rfl

/-- An idle actor whose balance covers the write price builds the write's payment. -/
theorem transfer_writePayment {net : Network N} {a : TransferActor} (hIdle : a.pending = none)
    (hFunds : ¬ a.balance < net.writeCost) :
    a.transfer net.writeCost net.payee = .ok (some ⟨writePayment net a⟩) := by
  simp [TransferActor.transfer, hIdle, hFunds, writePayment, outgoingTransfer]

/-- On a cooperative network a paid write from an idle actor whose balance covers the write
price returns: the price is debited once, and the write goes out once, after its payment. -/
theorem payAndSend_returns {net : Network N} (hCoop : Cooperative net) (write : SequenceWrite)
    {c : Client N} (hIdle : c.transferActor.pending = none)
    (hFunds : ¬ c.transferActor.balance < net.writeCost) :
    ∃ c', payAndSend net write c = .ok () c' ∧
      c.transferActor.balance.checkedSub net.writeCost = some c'.transferActor.balance ∧
      c'.transferActor.nextDebit = c.transferActor.nextDebit + 1 ∧
      c'.transferActor.pending = none ∧
      c'.commands = c.commands ++ [.transfer (.validateTransfer (writePayment net c.transferActor)),
        wrapSeqWrite write ⟨writePayment net c.transferActor⟩] ∧
      c'.sequenceCache = c.sequenceCache ∧ c'.publicKey = c.publicKey := by
  obtain ⟨n₁, h₁⟩ :=
    hCoop.command (.transfer (.validateTransfer (writePayment net c.transferActor))) c.network
  obtain ⟨n₂, h₂⟩ := hCoop.command (wrapSeqWrite write ⟨writePayment net c.transferActor⟩) n₁
  have hAmount : (writePayment net c.transferActor).amount = net.writeCost := rfl
  rw [payAndSend, bind_apply, createWritePaymentProof_apply, transfer_writePayment hIdle hFunds]
  dsimp only
  rw [awaitValidation_apply, h₁]
  simp only [hCoop.validation, ofCore_ok, bind_apply, sendCmd_apply, h₂]
  rw [applyWritePaymentToLocalActor, registerDebit_apply]
  simp only [TransferActor.register, ↓reduceIte, TransferActor.apply, hAmount,
    Money.checkedSub_of_not_lt hFunds]
  exact ⟨_, rfl, rfl, rfl, rfl, by simp, rfl, rfl⟩

/-- Paid writes covered by an idle actor's balance all return on a cooperative network, each
paid once and sent once, in order. -/
theorem cooperative_writes_complete {net : Network N} (hCoop : Cooperative net)
    (writes : List SequenceWrite) (c : Client N) (hIdle : c.transferActor.pending = none)
    (hFunds : net.writeCost.nanos.toNat * writes.length ≤ c.transferActor.balance.nanos.toNat) :
    ∃ c', writes.forM (payAndSend net) c = .ok () c' ∧
      c'.transferActor.balance.nanos.toNat + net.writeCost.nanos.toNat * writes.length =
        c.transferActor.balance.nanos.toNat ∧
      c'.transferActor.nextDebit = c.transferActor.nextDebit + writes.length ∧
      c'.transferActor.pending = none ∧
      sentWrites c'.commands = sentWrites c.commands ++ writes := by
  induction writes generalizing c with
  | nil => exact ⟨c, rfl, rfl, rfl, hIdle, (List.append_nil _).symm⟩
  | cons write writes ih =>
      rw [List.length_cons, Nat.mul_succ] at hFunds
      obtain ⟨c₁, h₁, hb₁, hn₁, hp₁, hc₁, -⟩ :=
        payAndSend_returns hCoop write hIdle (Money.not_lt_of_toNat_le (by omega))
      have hb := Money.checkedSub_toNat hb₁
      obtain ⟨c', h', hb', hn', hp', hc'⟩ := ih c₁ hp₁ (by omega)
      refine ⟨c', by rw [List.forM_cons']; exact (bind_ok h₁).trans h', ?_, ?_, hp', ?_⟩
      · rw [List.length_cons, Nat.mul_succ]
        omega
      · rw [hn', hn₁, List.length_cons]
        omega
      · rw [hc', hc₁, sentWrites_append, sentWrites_paidWrite, List.append_assoc,
          List.singleton_append]

theorem cooperative_writes_complete_delete_then_owner :
    Cooperative (replicaNetwork ⟨1⟩ ⟨0⟩) ∧
    (freshClient ⟨1⟩ ⟨10⟩ fun _ => none).transferActor.pending = none ∧
    (replicaNetwork ⟨1⟩ ⟨0⟩).writeCost.nanos.toNat *
        [SequenceWrite.delete ⟨.priv, ⟨7⟩, 0⟩, .setOwner ⟨⟨.pub, ⟨8⟩, 0⟩, ⟨⟨2⟩, 0, 0⟩⟩].length ≤
      (freshClient ⟨1⟩ ⟨10⟩ fun _ => none).transferActor.balance.nanos.toNat ∧
    ∃ c', [SequenceWrite.delete ⟨.priv, ⟨7⟩, 0⟩, .setOwner ⟨⟨.pub, ⟨8⟩, 0⟩, ⟨⟨2⟩, 0, 0⟩⟩].forM
        (payAndSend (replicaNetwork ⟨1⟩ ⟨0⟩)) (freshClient ⟨1⟩ ⟨10⟩ fun _ => none) = .ok () c' ∧
      c'.transferActor.balance.nanos.toNat + (replicaNetwork ⟨1⟩ ⟨0⟩).writeCost.nanos.toNat *
          [SequenceWrite.delete ⟨.priv, ⟨7⟩, 0⟩, .setOwner ⟨⟨.pub, ⟨8⟩, 0⟩, ⟨⟨2⟩, 0, 0⟩⟩].length =
        (freshClient ⟨1⟩ ⟨10⟩ fun _ => none).transferActor.balance.nanos.toNat ∧
      c'.transferActor.nextDebit = (freshClient ⟨1⟩ ⟨10⟩ fun _ => none).transferActor.nextDebit +
          [SequenceWrite.delete ⟨.priv, ⟨7⟩, 0⟩, .setOwner ⟨⟨.pub, ⟨8⟩, 0⟩, ⟨⟨2⟩, 0, 0⟩⟩].length ∧
      c'.transferActor.pending = none ∧
      sentWrites c'.commands = sentWrites (freshClient ⟨1⟩ ⟨10⟩ fun _ => none).commands ++
        [SequenceWrite.delete ⟨.priv, ⟨7⟩, 0⟩, .setOwner ⟨⟨.pub, ⟨8⟩, 0⟩, ⟨⟨2⟩, 0, 0⟩⟩] :=
  ⟨cooperative_replicaNetwork, rfl, by decide,
    cooperative_writes_complete cooperative_replicaNetwork _ _ rfl (by decide)⟩

/-! ### A rejected write strands its payment -/

/-- A write rejected after its payment was validated fails before the payment is registered:
the payment stays pending, and every later paid write is refused at `transfer`. -/
theorem rejected_write_strands_payment {net : Network N} (write : SequenceWrite) {c : Client N}
    (hIdle : c.transferActor.pending = none) (hFunds : ¬ c.transferActor.balance < net.writeCost)
    {n : N} {proof : DebitAgreementProof} {e : CoreError}
    (hSent : net.command (.transfer (.validateTransfer (writePayment net c.transferActor)))
      c.network = .ok n)
    (hProof : net.validation (.transfer (.validateTransfer (writePayment net c.transferActor)))
      (writePayment net c.transferActor).id n = .ok proof)
    (hRejected : net.command (wrapSeqWrite write proof) n = .error e) :
    ∃ c', payAndSend net write c = .error (.error e) c' ∧
      c'.transferActor =
        { c.transferActor with pending := some (writePayment net c.transferActor) } ∧
      c'.commands = c.commands ++
        [.transfer (.validateTransfer (writePayment net c.transferActor)),
          wrapSeqWrite write proof] ∧
      ∀ write', payAndSend net write' c' = .error (.error (.dataError
        (.transfers "Current pending transfer has not been completed"))) c' := by
  rw [payAndSend, bind_apply, createWritePaymentProof_apply, transfer_writePayment hIdle hFunds]
  dsimp only
  rw [awaitValidation_apply, hSent]
  simp only [hProof, ofCore_ok, bind_apply, sendCmd_apply, hRejected]
  exact ⟨_, rfl, rfl, by simp, fun write' => payAndSend_pending net write' (by simp)⟩

/-- The map network rejecting, as the spec has the network do, the deletion of a public
sequence with `InvalidOperation`. -/
def publicDeleteRejecting (writeCost : Money) (payee : PublicKey) : Network DataMap :=
  { replicaNetwork writeCost payee with
    command := fun cmd m => match cmd with
      | .data (.sequence (.delete ⟨.pub, _, _⟩)) _ => .error (.dataError .invalidOperation)
      | cmd => (replicaNetwork writeCost payee).command cmd m }

/- A fresh client deletes a public sequence and the network refuses: the payment stays pending
and the next write is refused. -/
theorem rejected_write_strands_payment_public_delete :
    (freshClient ⟨1⟩ ⟨10⟩ fun _ => none).transferActor.pending = none ∧
    ¬ (freshClient ⟨1⟩ ⟨10⟩ fun _ => none).transferActor.balance <
      (publicDeleteRejecting ⟨1⟩ ⟨0⟩).writeCost ∧
    ∃ c', payAndSend (publicDeleteRejecting ⟨1⟩ ⟨0⟩) (.delete ⟨.pub, ⟨7⟩, 0⟩)
        (freshClient ⟨1⟩ ⟨10⟩ fun _ => none) = .error (.error (.dataError .invalidOperation)) c' ∧
      c'.transferActor.balance = ⟨10⟩ ∧ c'.transferActor.nextDebit = 0 ∧
      c'.transferActor.pending = some ⟨⟨⟨⟨1⟩, 0⟩, ⟨0⟩, ⟨1⟩⟩⟩ ∧
      ∀ write', payAndSend (publicDeleteRejecting ⟨1⟩ ⟨0⟩) write' c' = .error (.error (.dataError
        (.transfers "Current pending transfer has not been completed"))) c' := by
  obtain ⟨c', h, ha, -, hNext⟩ := @rejected_write_strands_payment _ (publicDeleteRejecting ⟨1⟩ ⟨0⟩)
    (.delete ⟨.pub, ⟨7⟩, 0⟩) (freshClient ⟨1⟩ ⟨10⟩ fun _ => none) rfl (by decide) _ _ _ rfl rfl rfl
  exact ⟨rfl, by decide, c', h, by rw [ha]; rfl, by rw [ha]; rfl, by rw [ha]; rfl, hNext⟩

/-! ### Checked mutations complete on a cooperative network -/

/-- On a cooperative network a checked mutation that passes the check returns when the write
price is covered: debited once, the mutated snapshot cached, its write sent once. -/
theorem mutateChecked_returns {net : Network N} (hCoop : Cooperative net) {α : Type}
    {address : SequenceAddress} {action : SequenceAction}
    (mutate : Sequence → Except SndError (Sequence × α)) (write : α → SequenceWrite)
    {s s' : Sequence} {op : α} {c : Client N} (hs : c.sequenceCache address = some s)
    (hAllowed : s.checkPermission action c.publicKey = .ok ()) (hm : mutate s = .ok (s', op))
    (hIdle : c.transferActor.pending = none)
    (hFunds : ¬ c.transferActor.balance < net.writeCost) :
    ∃ c', mutateChecked net address action mutate (fun op => payAndSend net (write op)) c =
        .ok () c' ∧
      c.transferActor.balance.checkedSub net.writeCost = some c'.transferActor.balance ∧
      c'.transferActor.nextDebit = c.transferActor.nextDebit + 1 ∧
      c'.transferActor.pending = none ∧
      c'.sequenceCache = Function.update c.sequenceCache s'.address (some s') ∧
      c'.publicKey = c.publicKey ∧
      sentWrites c'.commands = sentWrites c.commands ++ [write op] := by
  obtain ⟨c', h, hb, hn, hp, hc, hCache, hKey⟩ := payAndSend_returns hCoop (write op)
    (c := { c with sequenceCache := Function.update c.sequenceCache s'.address (some s') })
    hIdle hFunds
  refine ⟨c', ?_, hb, hn, hp, hCache, hKey, by rw [hc, sentWrites_append, sentWrites_paidWrite]⟩
  rw [mutateChecked_apply, getSequence_hit net hs]
  simp only [hAllowed, hm]
  exact h

/-- An append the key may make to a cached sequence returns on a cooperative network when the
price is covered: debited once, the entry appended in the cache, the edit sent once. -/
theorem appendToSequence_returns {net : Network N} (hCoop : Cooperative net)
    {address : SequenceAddress} {s : Sequence} (entry : SequenceEntry) {c : Client N}
    (hs : c.sequenceCache address = some s) (hKeyed : s.address = address)
    (hAllowed : s.checkPermission .append c.publicKey = .ok ())
    (hIdle : c.transferActor.pending = none)
    (hFunds : ¬ c.transferActor.balance < net.writeCost) :
    ∃ c', appendToSequence net address entry c = .ok () c' ∧
      c.transferActor.balance.checkedSub net.writeCost = some c'.transferActor.balance ∧
      c'.transferActor.nextDebit = c.transferActor.nextDebit + 1 ∧
      c'.transferActor.pending = none ∧
      c'.sequenceCache address = some (s.applyEdit entry) ∧ c'.publicKey = c.publicKey ∧
      sentWrites c'.commands = sentWrites c.commands ++ [.edit ⟨address, entry⟩] := by
  obtain ⟨c', h, hb, hn, hp, hCache, hKey, hc⟩ := mutateChecked_returns hCoop
    (fun s => .ok (s.append entry)) SequenceWrite.edit hs hAllowed rfl hIdle hFunds
  refine ⟨c', h, hb, hn, hp, ?_, hKey, ?_⟩
  · rw [hCache, Sequence.address_applyEdit, hKeyed, Function.update_same]
  · rw [hc, hKeyed]

/-- A loop of appends on a cooperative network returns, each append as `appendToSequence_returns`
says. -/
theorem forM_appendToSequence_returns {net : Network N} (hCoop : Cooperative net)
    {address : SequenceAddress} (entries : List SequenceEntry) (s : Sequence) (c : Client N)
    (hs : c.sequenceCache address = some s) (hKeyed : s.address = address)
    (hAllowed : s.checkPermission .append c.publicKey = .ok ())
    (hIdle : c.transferActor.pending = none)
    (hFunds : net.writeCost.nanos.toNat * entries.length ≤ c.transferActor.balance.nanos.toNat) :
    ∃ c', entries.forM (appendToSequence net address) c = .ok () c' ∧
      c'.transferActor.balance.nanos.toNat + net.writeCost.nanos.toNat * entries.length =
        c.transferActor.balance.nanos.toNat ∧
      c'.transferActor.nextDebit = c.transferActor.nextDebit + entries.length ∧
      c'.transferActor.pending = none ∧
      c'.sequenceCache address = some (entries.foldl Sequence.applyEdit s) ∧
      sentWrites c'.commands =
        sentWrites c.commands ++ entries.map fun entry => .edit ⟨address, entry⟩ := by
  induction entries generalizing s c with
  | nil => exact ⟨c, rfl, rfl, rfl, hIdle, hs, (List.append_nil _).symm⟩
  | cons entry entries ih =>
      rw [List.length_cons, Nat.mul_succ] at hFunds
      obtain ⟨c₁, h₁, hb₁, hn₁, hp₁, hs₁, hKey₁, hc₁⟩ := appendToSequence_returns hCoop entry hs
        hKeyed hAllowed hIdle (Money.not_lt_of_toNat_le (by omega))
      have hb := Money.checkedSub_toNat hb₁
      obtain ⟨c', h', hb', hn', hp', hs', hc'⟩ := ih (s.applyEdit entry) c₁ hs₁
        (by rw [Sequence.address_applyEdit, hKeyed])
        (by rw [Sequence.checkPermission_applyEdit, hKey₁, hAllowed]) hp₁ (by omega)
      refine ⟨c', by rw [List.forM_cons']; exact (bind_ok h₁).trans h', ?_, ?_, hp', hs', ?_⟩
      · rw [List.length_cons, Nat.mul_succ]
        omega
      · rw [hn', hn₁, List.length_cons]
        omega
      · rw [hc', hc₁, List.map_cons, List.append_assoc, List.singleton_append]

/-- Appends the key may make to a cached snapshot, covered by an idle actor, all return on a
cooperative network; each is paid and sent once, and the range then reads them in order. -/
theorem cooperative_appends_complete {net : Network N} (hCoop : Cooperative net)
    {address : SequenceAddress} (entries : List SequenceEntry) (s : Sequence) (c : Client N)
    (hs : c.sequenceCache address = some s) (hKeyed : s.address = address)
    (hAllowed : s.checkPermission .append c.publicKey = .ok ())
    (hIdle : c.transferActor.pending = none)
    (hFunds : net.writeCost.nanos.toNat * entries.length ≤ c.transferActor.balance.nanos.toNat) :
    ∃ c', entries.forM (appendToSequence net address) c = .ok () c' ∧
      c'.transferActor.balance.nanos.toNat + net.writeCost.nanos.toNat * entries.length =
        c.transferActor.balance.nanos.toNat ∧
      c'.transferActor.nextDebit = c.transferActor.nextDebit + entries.length ∧
      c'.transferActor.pending = none ∧
      (∀ i, getSequenceRange net address (.fromStart i, .fromEnd 0) c' =
        if i < (s.entries ++ entries).length then .ok ((s.entries ++ entries).drop i) c'
        else .error (.error (.dataError .noSuchEntry)) c') ∧
      sentWrites c'.commands =
        sentWrites c.commands ++ entries.map fun entry => .edit ⟨address, entry⟩ := by
  obtain ⟨c', h, hb, hn, hp, hs', hc⟩ :=
    forM_appendToSequence_returns hCoop entries s c hs hKeyed hAllowed hIdle hFunds
  refine ⟨c', h, hb, hn, hp, fun i => ?_, hc⟩
  rw [getSequenceRange_fromStart_cached net hs', Sequence.entries_foldl_applyEdit]

/- A private sequence its creator owns, two entries appended at the write price 1 from a
balance of 10. -/
theorem cooperative_appends_complete_owner_two :
    (cachedClient ⟨1⟩ ⟨10⟩ ((Sequence.newPrivate ⟨1⟩ ⟨7⟩ 0).setOwner ⟨1⟩).1).sequenceCache
        ⟨.priv, ⟨7⟩, 0⟩ = some ((Sequence.newPrivate ⟨1⟩ ⟨7⟩ 0).setOwner ⟨1⟩).1 ∧
    ((Sequence.newPrivate ⟨1⟩ ⟨7⟩ 0).setOwner ⟨1⟩).1.address = ⟨.priv, ⟨7⟩, 0⟩ ∧
    ((Sequence.newPrivate ⟨1⟩ ⟨7⟩ 0).setOwner ⟨1⟩).1.checkPermission .append
        (cachedClient ⟨1⟩ ⟨10⟩ ((Sequence.newPrivate ⟨1⟩ ⟨7⟩ 0).setOwner ⟨1⟩).1).publicKey =
      .ok () ∧
    (cachedClient ⟨1⟩ ⟨10⟩ ((Sequence.newPrivate ⟨1⟩ ⟨7⟩ 0).setOwner ⟨1⟩).1).transferActor.pending =
      none ∧
    (replicaNetwork ⟨1⟩ ⟨0⟩).writeCost.nanos.toNat * [[1], [2]].length ≤
      (cachedClient ⟨1⟩ ⟨10⟩
        ((Sequence.newPrivate ⟨1⟩ ⟨7⟩ 0).setOwner ⟨1⟩).1).transferActor.balance.nanos.toNat ∧
    ∃ c', [[1], [2]].forM (appendToSequence (replicaNetwork ⟨1⟩ ⟨0⟩) ⟨.priv, ⟨7⟩, 0⟩)
        (cachedClient ⟨1⟩ ⟨10⟩ ((Sequence.newPrivate ⟨1⟩ ⟨7⟩ 0).setOwner ⟨1⟩).1) = .ok () c' ∧
      c'.transferActor.balance.nanos.toNat +
          (replicaNetwork ⟨1⟩ ⟨0⟩).writeCost.nanos.toNat * [[1], [2]].length =
        (cachedClient ⟨1⟩ ⟨10⟩
          ((Sequence.newPrivate ⟨1⟩ ⟨7⟩ 0).setOwner ⟨1⟩).1).transferActor.balance.nanos.toNat ∧
      c'.transferActor.nextDebit =
        (cachedClient ⟨1⟩ ⟨10⟩
          ((Sequence.newPrivate ⟨1⟩ ⟨7⟩ 0).setOwner ⟨1⟩).1).transferActor.nextDebit +
          [[1], [2]].length ∧
      c'.transferActor.pending = none ∧
      getSequenceRange (replicaNetwork ⟨1⟩ ⟨0⟩) ⟨.priv, ⟨7⟩, 0⟩ (.fromStart 0, .fromEnd 0) c' =
        .ok (((Sequence.newPrivate ⟨1⟩ ⟨7⟩ 0).setOwner ⟨1⟩).1.entries ++ [[1], [2]]) c' ∧
      sentWrites c'.commands =
        sentWrites (cachedClient ⟨1⟩ ⟨10⟩
          ((Sequence.newPrivate ⟨1⟩ ⟨7⟩ 0).setOwner ⟨1⟩).1).commands ++
        [[1], [2]].map fun entry => .edit ⟨⟨.priv, ⟨7⟩, 0⟩, entry⟩ :=
  have ⟨c', h, hb, hn, hp, hr, hc⟩ := @cooperative_appends_complete _ (replicaNetwork ⟨1⟩ ⟨0⟩)
    cooperative_replicaNetwork ⟨.priv, ⟨7⟩, 0⟩ [[1], [2]] ((Sequence.newPrivate ⟨1⟩ ⟨7⟩ 0).setOwner ⟨1⟩).1
    (cachedClient ⟨1⟩ ⟨10⟩ ((Sequence.newPrivate ⟨1⟩ ⟨7⟩ 0).setOwner ⟨1⟩).1) rfl rfl rfl rfl
    (by decide)
  ⟨rfl, rfl, rfl, rfl, by decide, c', h, hb, hn, hp, (hr 0).trans (if_pos (by decide)), hc⟩

/-- On a cached snapshot the key may manage, with the write price covered, the owner and
permission changes return on a cooperative network and read back at the snapshot's indices. -/
theorem cooperative_management_completes {net : Network N} (hCoop : Cooperative net)
    {address : SequenceAddress} {s : Sequence} {c : Client N}
    (hs : c.sequenceCache address = some s) (hKeyed : s.address = address)
    (hAllowed : s.checkPermission .managePermissions c.publicKey = .ok ())
    (hIdle : c.transferActor.pending = none)
    (hFunds : ¬ c.transferActor.balance < net.writeCost) :
    (∀ owner, ∃ c', sequenceSetOwner net address owner c = .ok () c' ∧
      getSequenceOwner net address c' = .ok ⟨owner, s.entriesIndex, s.permissionsIndex⟩ c') ∧
    (s.isPrivate = false → ∀ permissions, ∃ c',
      sequenceSetPubPermissions net address permissions c = .ok () c' ∧
      getSequencePubPermissions net address c' =
        .ok ⟨permissions, s.entriesIndex, s.ownersIndex⟩ c') ∧
    (s.isPrivate = true → ∀ permissions, ∃ c',
      sequenceSetPrivatePermissions net address permissions c = .ok () c' ∧
      getSequencePrivatePermissions net address c' =
        .ok ⟨permissions, s.entriesIndex, s.ownersIndex⟩ c') := by
  refine ⟨fun owner => ?_, fun hPub permissions => ?_, fun hPriv permissions => ?_⟩
  · obtain ⟨c', h, -, -, -, hCache, -⟩ := mutateChecked_returns hCoop
      (fun s => .ok (s.setOwner owner)) SequenceWrite.setOwner hs hAllowed rfl hIdle hFunds
    have hc : c'.sequenceCache address = some (s.setOwner owner).1 := by
      rw [hCache, Sequence.setOwner, Sequence.address_applyOwner, hKeyed, Function.update_same]
    refine ⟨c', h, ?_⟩
    rw [getSequenceOwner, readCurrent_apply, getSequence_hit net hc]
    simp [Sequence.setOwner, Sequence.ownersIndex, Sequence.owner]
  · cases s with
    | priv d => cases hPub
    | pub d =>
        obtain ⟨c', h, -, -, -, hCache, -⟩ := mutateChecked_returns hCoop
          (·.setPubPermissions permissions) SequenceWrite.setPublicPermissions hs hAllowed rfl
          hIdle hFunds
        rw [Sequence.address_applyPublicPermissions, hKeyed] at hCache
        refine ⟨c', h, ?_⟩
        rw [getSequencePubPermissions, readCurrent_apply,
          getSequence_hit net (by rw [hCache, Function.update_same])]
        simp [Sequence.permissionsIndex, Sequence.pubPermissions,
          Sequence.applyPublicPermissions, Except.mapError]
  · cases s with
    | pub d => cases hPriv
    | priv d =>
        obtain ⟨c', h, -, -, -, hCache, -⟩ := mutateChecked_returns hCoop
          (·.setPrivatePermissions permissions) SequenceWrite.setPrivatePermissions hs hAllowed rfl
          hIdle hFunds
        rw [Sequence.address_applyPrivatePermissions, hKeyed] at hCache
        refine ⟨c', h, ?_⟩
        rw [getSequencePrivatePermissions, readCurrent_apply,
          getSequence_hit net (by rw [hCache, Function.update_same])]
        simp [Sequence.permissionsIndex, Sequence.privatePermissions,
          Sequence.applyPrivatePermissions, Except.mapError]

/- The owner of a cached private sequence hands it to key 2 and sets private permissions. -/
theorem cooperative_management_completes_owner :
    (cachedClient ⟨1⟩ ⟨10⟩ ((Sequence.newPrivate ⟨1⟩ ⟨7⟩ 0).setOwner ⟨1⟩).1).sequenceCache
        ⟨.priv, ⟨7⟩, 0⟩ = some ((Sequence.newPrivate ⟨1⟩ ⟨7⟩ 0).setOwner ⟨1⟩).1 ∧
    ((Sequence.newPrivate ⟨1⟩ ⟨7⟩ 0).setOwner ⟨1⟩).1.address = ⟨.priv, ⟨7⟩, 0⟩ ∧
    ((Sequence.newPrivate ⟨1⟩ ⟨7⟩ 0).setOwner ⟨1⟩).1.checkPermission .managePermissions
        (cachedClient ⟨1⟩ ⟨10⟩ ((Sequence.newPrivate ⟨1⟩ ⟨7⟩ 0).setOwner ⟨1⟩).1).publicKey =
      .ok () ∧
    (cachedClient ⟨1⟩ ⟨10⟩ ((Sequence.newPrivate ⟨1⟩ ⟨7⟩ 0).setOwner ⟨1⟩).1).transferActor.pending =
      none ∧
    ¬ (cachedClient ⟨1⟩ ⟨10⟩
        ((Sequence.newPrivate ⟨1⟩ ⟨7⟩ 0).setOwner ⟨1⟩).1).transferActor.balance <
      (replicaNetwork ⟨1⟩ ⟨0⟩).writeCost ∧
    (∀ owner, ∃ c', sequenceSetOwner (replicaNetwork ⟨1⟩ ⟨0⟩) ⟨.priv, ⟨7⟩, 0⟩ owner
        (cachedClient ⟨1⟩ ⟨10⟩ ((Sequence.newPrivate ⟨1⟩ ⟨7⟩ 0).setOwner ⟨1⟩).1) = .ok () c' ∧
      getSequenceOwner (replicaNetwork ⟨1⟩ ⟨0⟩) ⟨.priv, ⟨7⟩, 0⟩ c' = .ok ⟨owner, 0, 0⟩ c') ∧
    ∀ permissions, ∃ c', sequenceSetPrivatePermissions (replicaNetwork ⟨1⟩ ⟨0⟩) ⟨.priv, ⟨7⟩, 0⟩
        permissions (cachedClient ⟨1⟩ ⟨10⟩ ((Sequence.newPrivate ⟨1⟩ ⟨7⟩ 0).setOwner ⟨1⟩).1) =
        .ok () c' ∧
      getSequencePrivatePermissions (replicaNetwork ⟨1⟩ ⟨0⟩) ⟨.priv, ⟨7⟩, 0⟩ c' =
        .ok ⟨permissions, 0, 1⟩ c' := by
  have h := cooperative_management_completes
    (cooperative_replicaNetwork : Cooperative (replicaNetwork ⟨1⟩ ⟨0⟩))
    (show (cachedClient ⟨1⟩ ⟨10⟩ ((Sequence.newPrivate ⟨1⟩ ⟨7⟩ 0).setOwner ⟨1⟩).1).sequenceCache
      ⟨.priv, ⟨7⟩, 0⟩ = some ((Sequence.newPrivate ⟨1⟩ ⟨7⟩ 0).setOwner ⟨1⟩).1 from rfl)
    rfl rfl rfl (by decide)
  exact ⟨rfl, rfl, rfl, rfl, by decide, h.1, h.2.2 rfl⟩

/-! ### The documented session: store, then append -/

/-- On a cooperative network the body the two stores share returns from an idle actor whose
balance covers the write price, the price debited once. -/
theorem storeSequence_returns {net : Network N} (hCoop : Cooperative net)
    (address : SequenceAddress) (data : Sequence) (owner : PublicKey)
    (sequence : Option (List SequenceEntry)) {c : Client N}
    (hIdle : c.transferActor.pending = none)
    (hFunds : ¬ c.transferActor.balance < net.writeCost) :
    ∃ c', storeSequence net address data owner sequence c = .ok address c' ∧
      c.transferActor.balance.checkedSub net.writeCost = some c'.transferActor.balance ∧
      c'.transferActor.nextDebit = c.transferActor.nextDebit + 1 ∧
      c'.transferActor.pending = none ∧ c'.publicKey = c.publicKey := by
  obtain ⟨c', h, hb, hn, hp, -, -, hKey⟩ := payAndSend_returns hCoop
    (.new ((sequence.getD []).foldl (fun d entry => (d.append entry).1) (data.setOwner owner).1))
    hIdle hFunds
  rw [storeSequence_apply]
  dsimp only
  rw [h]
  exact ⟨_, rfl, hb, hn, hp, hKey⟩

/-- On a cooperative network `store_private_sequence` from an idle actor whose balance covers
the write price returns: setting the permissions of the new sequence cannot fail. -/
theorem storePrivateSequence_returns {net : Network N} (hCoop : Cooperative net)
    (sequence : Option (List SequenceEntry)) (name : XorName) (tag : UInt64) (owner : PublicKey)
    (permissions : List (PublicKey × SequencePrivUserPermissions)) {c : Client N}
    (hIdle : c.transferActor.pending = none)
    (hFunds : ¬ c.transferActor.balance < net.writeCost) :
    ∃ address c', storePrivateSequence net sequence name tag owner permissions c = .ok address c' ∧
      c.transferActor.balance.checkedSub net.writeCost = some c'.transferActor.balance ∧
      c'.transferActor.nextDebit = c.transferActor.nextDebit + 1 ∧
      c'.transferActor.pending = none ∧ c'.publicKey = c.publicKey := by
  rw [storePrivateSequence_apply]
  exact ⟨_, storeSequence_returns hCoop _ _ owner sequence hIdle hFunds⟩

/-- The session's run: the store and every append return, the cache then holds at the address
the stored sequence with the entries appended, and the ledger moved once for each write. -/
theorem storeThenAppends_returns {net : Network N} (hCoop : Cooperative net)
    (name : XorName) (tag : UInt64) (permissions : List (PublicKey × SequencePrivUserPermissions))
    (entries : List SequenceEntry) (c : Client N) (hIdle : c.transferActor.pending = none)
    (hFunds : net.writeCost.nanos.toNat * (entries.length + 1) ≤
      c.transferActor.balance.nanos.toNat) :
    ∃ c₁ c', storePrivateSequence net none name tag c.publicKey permissions c =
        .ok ⟨.priv, name, tag⟩ c₁ ∧
      entries.forM (appendToSequence net ⟨.priv, name, tag⟩) c₁ = .ok () c' ∧
      c'.sequenceCache ⟨.priv, name, tag⟩ = some (entries.foldl Sequence.applyEdit
        (.priv ⟨name, tag, c.publicKey, [], [⟨c.publicKey, 0, 1⟩], [⟨permissions, 0, 0⟩]⟩)) ∧
      c'.transferActor.balance.nanos.toNat + net.writeCost.nanos.toNat * (entries.length + 1) =
        c.transferActor.balance.nanos.toNat ∧
      c'.transferActor.nextDebit = c.transferActor.nextDebit + (entries.length + 1) ∧
      c'.transferActor.pending = none := by
  rw [Nat.mul_succ] at hFunds
  obtain ⟨address, c₁, h₁, hb₁, hn₁, hp₁, hKey₁⟩ := storePrivateSequence_returns hCoop none name
    tag c.publicKey permissions hIdle (Money.not_lt_of_toNat_le (by omega))
  obtain ⟨rfl, hs₁⟩ := storePrivateSequence_ok net h₁
  have hb := Money.checkedSub_toNat hb₁
  obtain ⟨c', h', hb', hn', hp', hs', -⟩ := forM_appendToSequence_returns hCoop entries _ c₁ hs₁
    rfl (by simp [Sequence.checkPermission, Sequence.isLastOwner, Sequence.owners, hKey₁]) hp₁
    (by omega)
  refine ⟨c₁, c', h₁, h', hs', ?_, ?_, hp'⟩
  · rw [Nat.mul_succ]
    omega
  · rw [hn', hn₁]
    omega

/-- The documented session (store a private sequence, append to it, read back) completes on a
cooperative network, each write paid once; the range from an index below the number of entries
reads them from there on, and from any other index fails with `NoSuchEntry`. -/
theorem cooperative_store_then_appends {net : Network N} (hCoop : Cooperative net)
    (name : XorName) (tag : UInt64) (permissions : List (PublicKey × SequencePrivUserPermissions))
    (entries : List SequenceEntry) (c : Client N) (hIdle : c.transferActor.pending = none)
    (hFunds : net.writeCost.nanos.toNat * (entries.length + 1) ≤
      c.transferActor.balance.nanos.toNat) :
    ∃ c₁ c', storePrivateSequence net none name tag c.publicKey permissions c =
        .ok ⟨.priv, name, tag⟩ c₁ ∧
      entries.forM (appendToSequence net ⟨.priv, name, tag⟩) c₁ = .ok () c' ∧
      (∀ i, getSequenceRange net ⟨.priv, name, tag⟩ (.fromStart i, .fromEnd 0) c' =
        if i < entries.length then .ok (entries.drop i) c'
        else .error (.error (.dataError .noSuchEntry)) c') ∧
      (∀ e ∈ entries.getLast?,
        getSequenceLastEntry net ⟨.priv, name, tag⟩ c' = .ok (entries.length - 1, e) c') ∧
      c'.transferActor.balance.nanos.toNat + net.writeCost.nanos.toNat * (entries.length + 1) =
        c.transferActor.balance.nanos.toNat ∧
      c'.transferActor.nextDebit = c.transferActor.nextDebit + (entries.length + 1) ∧
      c'.transferActor.pending = none := by
  obtain ⟨c₁, c', h₁, h', hs', hb, hn, hp⟩ :=
    storeThenAppends_returns hCoop name tag permissions entries c hIdle hFunds
  have hEntries : (entries.foldl Sequence.applyEdit (.priv ⟨name, tag, c.publicKey, [],
      [⟨c.publicKey, 0, 1⟩], [⟨permissions, 0, 0⟩]⟩)).entries = entries :=
    Sequence.entries_foldl_applyEdit _ _
  refine ⟨c₁, c', h₁, h', fun i => ?_, fun e he => ?_, hb, hn, hp⟩
  · rw [getSequenceRange_fromStart_cached net hs', hEntries]
  · rw [getSequenceLastEntry_cached net hs', hEntries, Option.mem_def.1 he]

/- The documented session: key 1 stores a private sequence and appends two entries, at the
write price 1 from a balance of 10. -/
theorem cooperative_store_then_appends_two :
    (freshClient ⟨1⟩ ⟨10⟩ fun _ => none).transferActor.pending = none ∧
    (replicaNetwork ⟨1⟩ ⟨0⟩).writeCost.nanos.toNat * ([[1], [2]].length + 1) ≤
      (freshClient ⟨1⟩ ⟨10⟩ fun _ => none).transferActor.balance.nanos.toNat ∧
    ∃ c₁ c', storePrivateSequence (replicaNetwork ⟨1⟩ ⟨0⟩) none ⟨7⟩ 0
        (freshClient ⟨1⟩ ⟨10⟩ fun _ => none).publicKey [] (freshClient ⟨1⟩ ⟨10⟩ fun _ => none) =
        .ok ⟨.priv, ⟨7⟩, 0⟩ c₁ ∧
      [[1], [2]].forM (appendToSequence (replicaNetwork ⟨1⟩ ⟨0⟩) ⟨.priv, ⟨7⟩, 0⟩) c₁ = .ok () c' ∧
      (∀ i, getSequenceRange (replicaNetwork ⟨1⟩ ⟨0⟩) ⟨.priv, ⟨7⟩, 0⟩ (.fromStart i, .fromEnd 0) c' =
        if i < [[1], [2]].length then .ok ([[1], [2]].drop i) c'
        else .error (.error (.dataError .noSuchEntry)) c') ∧
      (∀ e ∈ [[1], [2]].getLast?, getSequenceLastEntry (replicaNetwork ⟨1⟩ ⟨0⟩) ⟨.priv, ⟨7⟩, 0⟩ c' =
        .ok ([[1], [2]].length - 1, e) c') ∧
      c'.transferActor.balance.nanos.toNat +
          (replicaNetwork ⟨1⟩ ⟨0⟩).writeCost.nanos.toNat * ([[1], [2]].length + 1) =
        (freshClient ⟨1⟩ ⟨10⟩ fun _ => none).transferActor.balance.nanos.toNat ∧
      c'.transferActor.nextDebit =
        (freshClient ⟨1⟩ ⟨10⟩ fun _ => none).transferActor.nextDebit + ([[1], [2]].length + 1) ∧
      c'.transferActor.pending = none :=
  ⟨rfl, by decide,
    cooperative_store_then_appends cooperative_replicaNetwork _ _ _ _ _ rfl (by decide)⟩

/- The spec's scenario: owner 1 holds read, append and manage on a new private sequence and
appends two entries; the last entry is the second, at index 1, and the range from index 1 to
the end holds only it. -/
example : outcome ((do
      let address ← storePrivateSequence (replicaNetwork ⟨1⟩ ⟨0⟩) none ⟨7⟩ 0 ⟨1⟩
        [(⟨1⟩, ⟨true, true, true⟩)]
      appendToSequence (replicaNetwork ⟨1⟩ ⟨0⟩) address [1]
      appendToSequence (replicaNetwork ⟨1⟩ ⟨0⟩) address [2]
      let last ← getSequenceLastEntry (replicaNetwork ⟨1⟩ ⟨0⟩) address
      let range ← getSequenceRange (replicaNetwork ⟨1⟩ ⟨0⟩) address (.fromStart 1, .fromEnd 0)
      return (last, range) : ClientM DataMap _) (freshClient ⟨1⟩ ⟨10⟩ fun _ => none)) =
    .ok ((1, [2]), [[2]]) := rfl

/-! ### Another client reads what the session wrote -/

/-- Appends that return keep the replica invariant. -/
theorem mirrors_forM_appendToSequence {writeCost : Money} {payee : PublicKey}
    {address : SequenceAddress} :
    ∀ {entries : List SequenceEntry} {c c' : Client DataMap}, Mirrors c →
      entries.forM (appendToSequence (replicaNetwork writeCost payee) address) c = .ok () c' →
      Mirrors c'
  | [], _, _, hInv, h => by
      cases h
      exact hInv
  | e :: _, _, _, hInv, h => by
      rw [List.forM_cons'] at h
      obtain ⟨_, _, h₁, h₂⟩ := bind_eq_ok h
      exact mirrors_forM_appendToSequence (mirrors_mutateChecked hInv (mirrorsWrite_append e) h₁) h₂

/-- A client that has cached nothing reads the range from the map's object. -/
theorem getSequenceRange_fresh {writeCost : Money} {payee : PublicKey} {m : DataMap}
    {address : SequenceAddress} {s : Sequence} (hm : m address = some s) (key : PublicKey)
    (balance : Money) (i : Nat) :
    ∃ c, getSequenceRange (replicaNetwork writeCost payee) address (.fromStart i, .fromEnd 0)
      (freshClient key balance m) = if i < s.entries.length then .ok (s.entries.drop i) c
        else .error (.error (.dataError .noSuchEntry)) c := by
  by_cases hi : i < s.entries.length <;>
    simp [getSequenceRange, bind_apply, getSequence_replica, freshClient, hm, hi]

/-- A client that has cached nothing mirrors the empty map. -/
theorem mirrors_freshClient (key : PublicKey) (balance : Money) :
    Mirrors (freshClient key balance fun _ => none) :=
  ⟨(fun _ _ h => by cases h), fun _ _ h => by cases h⟩

/-- Over the map network the documented session leaves the map holding the snapshot the client
cached, so any client that has cached nothing reads the appended entries from the network. -/
theorem replica_session_visible_to_others {writeCost : Money} {payee : PublicKey}
    (name : XorName) (tag : UInt64) (permissions : List (PublicKey × SequencePrivUserPermissions))
    (entries : List SequenceEntry) (c : Client DataMap) (hInv : Mirrors c)
    (hIdle : c.transferActor.pending = none)
    (hFunds : writeCost.nanos.toNat * (entries.length + 1) ≤ c.transferActor.balance.nanos.toNat) :
    ∃ c₁ c' s, storePrivateSequence (replicaNetwork writeCost payee) none name tag c.publicKey
        permissions c = .ok ⟨.priv, name, tag⟩ c₁ ∧
      entries.forM (appendToSequence (replicaNetwork writeCost payee) ⟨.priv, name, tag⟩) c₁ =
        .ok () c' ∧
      c'.sequenceCache ⟨.priv, name, tag⟩ = some s ∧ c'.network ⟨.priv, name, tag⟩ = some s ∧
      s.entries = entries ∧
      ∀ key balance i, ∃ c₂, getSequenceRange (replicaNetwork writeCost payee) ⟨.priv, name, tag⟩
        (.fromStart i, .fromEnd 0) (freshClient key balance c'.network) =
          if i < entries.length then .ok (entries.drop i) c₂
          else .error (.error (.dataError .noSuchEntry)) c₂ := by
  obtain ⟨c₁, c', h₁, h', hs', -, -, -⟩ :=
    storeThenAppends_returns cooperative_replicaNetwork name tag permissions entries c hIdle hFunds
  have hNet :=
    (mirrors_forM_appendToSequence (mirrors_storePrivateSequence hInv h₁) h').coherent _ _ hs'
  have hEntries : (entries.foldl Sequence.applyEdit (.priv ⟨name, tag, c.publicKey, [],
      [⟨c.publicKey, 0, 1⟩], [⟨permissions, 0, 0⟩]⟩)).entries = entries :=
    Sequence.entries_foldl_applyEdit _ _
  refine ⟨c₁, c', _, h₁, h', hs', hNet, hEntries, fun key balance i => ?_⟩
  rw [← hEntries]
  exact getSequenceRange_fresh hNet key balance i

/- Key 1 stores a private sequence over the empty map and appends two entries; any client that
has cached nothing reads them from the network. -/
theorem replica_session_visible_to_others_two :
    Mirrors (freshClient ⟨1⟩ ⟨10⟩ fun _ => none) ∧
    (freshClient ⟨1⟩ ⟨10⟩ fun _ => none).transferActor.pending = none ∧
    (⟨1⟩ : Money).nanos.toNat * ([[1], [2]].length + 1) ≤
      (freshClient ⟨1⟩ ⟨10⟩ fun _ => none).transferActor.balance.nanos.toNat ∧
    ∃ c₁ c' s, storePrivateSequence (replicaNetwork ⟨1⟩ ⟨0⟩) none ⟨7⟩ 0
        (freshClient ⟨1⟩ ⟨10⟩ fun _ => none).publicKey [] (freshClient ⟨1⟩ ⟨10⟩ fun _ => none) =
        .ok ⟨.priv, ⟨7⟩, 0⟩ c₁ ∧
      [[1], [2]].forM (appendToSequence (replicaNetwork ⟨1⟩ ⟨0⟩) ⟨.priv, ⟨7⟩, 0⟩) c₁ = .ok () c' ∧
      c'.sequenceCache ⟨.priv, ⟨7⟩, 0⟩ = some s ∧ c'.network ⟨.priv, ⟨7⟩, 0⟩ = some s ∧
      s.entries = [[1], [2]] ∧
      ∀ key balance, ∃ c₂, getSequenceRange (replicaNetwork ⟨1⟩ ⟨0⟩) ⟨.priv, ⟨7⟩, 0⟩
        (.fromStart 0, .fromEnd 0) (freshClient key balance c'.network) = .ok [[1], [2]] c₂ :=
  have ⟨c₁, c', s, h₁, h', hs, hn, he, hr⟩ := @replica_session_visible_to_others ⟨1⟩ ⟨0⟩ ⟨7⟩ 0 []
    [[1], [2]] _ (mirrors_freshClient _ _) rfl (by decide)
  ⟨mirrors_freshClient _ _, rfl, by decide, c₁, c', s, h₁, h', hs, hn, he,
    fun key balance => (hr key balance 0).imp fun _ h => h.trans (if_pos (by decide))⟩

end SafeCore
