import SafeCore.ReplicaCoherence
import SafeCore.SendMoneyInterleaving

/-!
The write price. A paid write pays before it sends; `payAndSend_cases` says once what it can do,
and along any run of the sequence APIs the balance drops by the price for each write that
returned, while a payment left pending blocks every later write.
-/

namespace SafeCore

/-- Whether a call returned. -/
def returned {ε σ α : Type} : EStateM.Result ε σ α → Bool
  | .ok _ _ => true
  | .error _ _ => false

theorem Money.checkedSub_toNat {a b r : Money} (h : a.checkedSub b = some r) :
    r.nanos.toNat + b.nanos.toNat = a.nanos.toNat := by
  unfold Money.checkedSub at h
  split at h
  · next hle =>
      cases h
      have : b.nanos.toNat ≤ a.nanos.toNat := BitVec.le_def.mp (UInt64.le_def.mp hle)
      rw [UInt64.toNat_sub_of_le _ _ hle]
      omega
  · cases h

theorem Money.checkedSub_of_not_lt {a b : Money} (h : ¬ a < b) :
    a.checkedSub b = some ⟨a.nanos - b.nanos⟩ := by
  have hle : b.nanos ≤ a.nanos := by
    change ¬ a.nanos < b.nanos at h
    rw [UInt64.lt_def, BitVec.lt_def] at h
    rw [UInt64.le_def, BitVec.le_def]
    omega
  simp only [Money.checkedSub, if_pos hle]

theorem Money.not_lt_of_toNat_le {a b : Money} (h : b.nanos.toNat ≤ a.nanos.toNat) : ¬ a < b :=
  fun hlt => Nat.not_le.mpr (show a.nanos.toNat < b.nanos.toNat from hlt) h

variable {N α β : Type} (net : Network N)

/-! ### One paid write -/

theorem sendCmd_apply (cmd : Cmd) (c : Client N) :
    sendCmd net cmd c = match net.command cmd c.network with
      | .ok n => .ok () { c with commands := c.commands ++ [cmd], network := n }
      | .error e => .error (.error e) { c with commands := c.commands ++ [cmd] } := rfl

theorem awaitValidation_apply (message : Cmd) (id : TransferId) (c : Client N) :
    awaitValidation net message id c = match net.command message c.network with
      | .ok n => (ofCore (net.validation message id n) : ClientM N DebitAgreementProof)
          { c with commands := c.commands ++ [message], network := n }
      | .error e => .error (.error e) { c with commands := c.commands ++ [message] } := by
  rw [awaitValidation, bind_apply, sendCmd_apply]
  cases net.command message c.network <;> rfl

theorem createWritePaymentProof_apply (c : Client N) :
    createWritePaymentProof net c = match c.transferActor.transfer net.writeCost net.payee with
      | .ok (some initiated) =>
          awaitValidation net (.transfer (.validateTransfer initiated.signedTransfer))
            initiated.signedTransfer.id
            { c with transferActor := { c.transferActor with pending := some initiated.signedTransfer } }
      | .ok none => .error (.error (.unexpected "No transfer generated by the actor.")) c
      | .error e => .error (.error (.dataError e)) c := by
  simp only [createWritePaymentProof, bind_apply, actor, get_apply, pure_apply]
  cases c.transferActor.transfer net.writeCost net.payee with
  | error e => rfl
  | ok r => cases r with
    | none => rfl
    | some i => rfl

/-- The payment a paid write makes from the actor: the write price, to the payee, at the next
debit counter. -/
def writePayment (a : TransferActor) : SignedTransfer := outgoingTransfer a net.payee net.writeCost

/-- `proof` is what the validators returned for the transfer `t` broadcast for validation. -/
def Validated (t : SignedTransfer) (proof : DebitAgreementProof) : Prop :=
  ∃ n, net.validation (.transfer (.validateTransfer t)) t.id n = .ok proof

/-- What a paid write can do, whatever the network answers; a write goes out only with the proof
the validators returned for its payment. -/
theorem payAndSend_cases (write : SequenceWrite) (c : Client N) :
    -- refused before paying (a payment pending, or the balance short): nothing changes
    (∃ f, payAndSend net write c = .error f c) ∨
    -- failed once its payment was broadcast: the payment stays pending
    (c.transferActor.pending = none ∧ ∃ f c', payAndSend net write c = .error f c' ∧
      c'.transferActor =
        { c.transferActor with pending := some (writePayment net c.transferActor) } ∧
      (c'.commands = c.commands ++ [.transfer (.validateTransfer (writePayment net c.transferActor))] ∨
        ∃ proof, Validated net (writePayment net c.transferActor) proof ∧ c'.commands =
          c.commands ++
            [.transfer (.validateTransfer (writePayment net c.transferActor)), wrapSeqWrite write proof])) ∨
    -- returned: paid once, the write carrying the proof of its own payment
    (c.transferActor.pending = none ∧ ∃ b c' proof, payAndSend net write c = .ok () c' ∧
      c.transferActor.balance.checkedSub net.writeCost = some b ∧
      c'.transferActor = { c.transferActor with
        balance := b, nextDebit := c.transferActor.nextDebit + 1, pending := none } ∧
      proof.signedTransfer = writePayment net c.transferActor ∧
      Validated net (writePayment net c.transferActor) proof ∧
      c'.commands = c.commands ++
        [.transfer (.validateTransfer proof.signedTransfer), wrapSeqWrite write proof]) := by
  rw [payAndSend, bind_apply, createWritePaymentProof_apply]
  cases hT : c.transferActor.transfer net.writeCost net.payee with
  | error e => exact .inl ⟨_, rfl⟩
  | ok r =>
    obtain ⟨hIdle, hFunds, hr⟩ := TransferActor.transfer_ok hT
    obtain rfl : r = some ⟨writePayment net c.transferActor⟩ := hr
    dsimp only
    rw [awaitValidation_apply]
    dsimp only
    cases net.command (.transfer (.validateTransfer (writePayment net c.transferActor))) c.network with
    | error e => exact .inr (.inl ⟨hIdle, _, _, rfl, rfl, .inl rfl⟩)
    | ok n =>
      dsimp only
      cases hv : net.validation (.transfer (.validateTransfer (writePayment net c.transferActor)))
        (writePayment net c.transferActor).id n with
      | error e => exact .inr (.inl ⟨hIdle, _, _, rfl, rfl, .inl rfl⟩)
      | ok proof =>
        simp only [ofCore_ok, bind_apply, sendCmd_apply]
        cases net.command (wrapSeqWrite write proof) n with
        | error e =>
            exact .inr (.inl ⟨hIdle, _, _, rfl, rfl, .inr ⟨proof, ⟨n, hv⟩, by simp⟩⟩)
        | ok n' =>
          dsimp only
          rw [applyWritePaymentToLocalActor, registerDebit_apply]
          by_cases hp : proof.signedTransfer = writePayment net c.transferActor
          · have hr : ({ c.transferActor with pending := some (writePayment net c.transferActor) } :
                TransferActor).register proof = .ok (some ⟨proof⟩) := by
              simp [TransferActor.register, hp]
            have hb := Money.checkedSub_of_not_lt hFunds
            simp only [hr, TransferActor.apply, hp]
            rw [show (writePayment net c.transferActor).amount = net.writeCost from rfl, hb]
            exact .inr (.inr ⟨hIdle, _, _, proof, rfl, rfl, rfl, hp, ⟨n, hv⟩, by simp [hp]⟩)
          · have hr : ({ c.transferActor with pending := some (writePayment net c.transferActor) } :
                TransferActor).register proof =
                  .error (.transfers "Debit proof does not match the pending transfer") := by
              simp [TransferActor.register, Ne.symm hp]
            rw [hr]
            exact .inr (.inl ⟨hIdle, _, _, rfl, rfl, .inr ⟨proof, ⟨n, hv⟩, by simp⟩⟩)

/-- While a payment is pending a paid write is refused at `transfer`, before it sends anything
or touches the client. -/
theorem payAndSend_pending (write : SequenceWrite) {c : Client N}
    (hp : c.transferActor.pending ≠ none) :
    payAndSend net write c =
      .error (.error (.dataError (.transfers "Current pending transfer has not been completed"))) c := by
  obtain ⟨t, ht⟩ := Option.ne_none_iff_exists'.mp hp
  have hT : c.transferActor.transfer net.writeCost net.payee =
      .error (.transfers "Current pending transfer has not been completed") := by
    simp [TransferActor.transfer, ht]
  rw [payAndSend, bind_apply, createWritePaymentProof_apply, hT]

/-! ### What a call does to the actor and to the counters sent -/

/-- The actor, and the debit counters of the transfers sent for validation. -/
def paymentLedger (c : Client N) : TransferActor × List Nat :=
  (c.transferActor, validatedCounters c.commands)

theorem paymentLedger_eq {c c' : Client N} (ha : c'.transferActor = c.transferActor)
    (hc : c'.commands = c.commands) : paymentLedger c' = paymentLedger c := by
  rw [paymentLedger, ha, hc]
  rfl

theorem validatedCounters_append (l₁ l₂ : List Cmd) :
    validatedCounters (l₁ ++ l₂) = validatedCounters l₁ ++ validatedCounters l₂ :=
  List.filterMap_append ..

/-- A paid write's commands: its payment sent for validation, then the write itself, which
carries no counter. -/
theorem validatedCounters_append_payment (commands : List Cmd) (payment : SignedTransfer)
    (writes : List Cmd) (hWrites : ∀ cmd ∈ writes, ∃ write proof, cmd = wrapSeqWrite write proof) :
    validatedCounters (commands ++ .transfer (.validateTransfer payment) :: writes) =
      validatedCounters commands ++ [payment.id.counter] := by
  have hNone : validatedCounters writes = [] := by
    simp only [validatedCounters, List.filterMap_eq_nil_iff]
    intro cmd hcmd
    obtain ⟨write, proof, rfl⟩ := hWrites cmd hcmd
    rfl
  rw [← List.singleton_append, ← List.append_assoc, validatedCounters_append, hNone,
    List.append_nil, validatedCounters_append_validate]

/-- What one call can do to the actor and to the counters sent for validation, `paid` telling
whether it paid for a write: nothing; send a payment of the price at the next counter and leave
it pending; or send it and debit it once. -/
inductive WriteCharge (price : Money) (payee : PublicKey) :
    Bool → TransferActor × List Nat → TransferActor × List Nat → Prop
  | unchanged (ledger : TransferActor × List Nat) : WriteCharge price payee false ledger ledger
  | leftPending {a : TransferActor} (sent : List Nat) : a.pending = none →
      WriteCharge price payee false (a, sent)
        ({ a with pending := some (outgoingTransfer a payee price) }, sent ++ [a.nextDebit])
  | debited {a : TransferActor} {b : Money} (sent : List Nat) : a.pending = none →
      a.balance.checkedSub price = some b →
      WriteCharge price payee true (a, sent)
        ({ a with balance := b, nextDebit := a.nextDebit + 1, pending := none }, sent ++ [a.nextDebit])

namespace WriteCharge

variable {price : Money} {payee : PublicKey} {paid : Bool} {l l' : TransferActor × List Nat}

theorem nextDebit_eq (h : WriteCharge price payee paid l l') :
    l'.1.nextDebit = l.1.nextDebit + if paid then 1 else 0 := by
  cases h <;> rfl

theorem balance_toNat (h : WriteCharge price payee paid l l') :
    l'.1.balance.nanos.toNat + (if paid then price.nanos.toNat else 0) = l.1.balance.nanos.toNat := by
  cases h with
  | unchanged => rfl
  | leftPending => rfl
  | debited _ _ hb => exact Money.checkedSub_toNat hb

end WriteCharge

/-- What one call can add to the command record: nothing, a validation, a validation and its
registration, or a payment's validation and then a write carrying its proof. -/
inductive CommandBlock : List Cmd → Prop
  | empty : CommandBlock []
  | validation (t : SignedTransfer) : CommandBlock [.transfer (.validateTransfer t)]
  | registration (t : SignedTransfer) (proof : DebitAgreementProof) : Validated net t proof →
      CommandBlock [.transfer (.validateTransfer t), .transfer (.registerTransfer proof)]
  | write (t : SignedTransfer) (write : SequenceWrite) (proof : DebitAgreementProof) :
      t.transfer.amount = net.writeCost → t.transfer.recipient = net.payee → Validated net t proof →
      CommandBlock [.transfer (.validateTransfer t), wrapSeqWrite write proof]

/-- A computation that charges as a paid write does: the write price once if it returns, nothing
otherwise, and nothing at all while a payment is pending. -/
structure PaidWrite (x : ClientM N α) : Prop where
  charge : ∀ c, WriteCharge net.writeCost net.payee (returned (x c)) (paymentLedger c)
    (paymentLedger (stateAfter (x c)))
  record : ∀ c, ∃ block, (stateAfter (x c)).commands = c.commands ++ block ∧
    CommandBlock net block
  blocked : ∀ c, c.transferActor.pending ≠ none → ∃ f c', x c = .error f c' ∧
    c'.transferActor = c.transferActor ∧ c'.commands = c.commands

theorem PaidWrite.charge_of_eq {x : ClientM N α} (hx : PaidWrite net x) {c : Client N}
    {r : EStateM.Result Failure (Client N) α} (h : x c = r) :
    WriteCharge net.writeCost net.payee (returned r) (paymentLedger c) (paymentLedger (stateAfter r)) :=
  h ▸ hx.charge c

theorem PaidWrite.record_of_eq {x : ClientM N α} (hx : PaidWrite net x) {c : Client N}
    {r : EStateM.Result Failure (Client N) α} (h : x c = r) :
    ∃ block, (stateAfter r).commands = c.commands ++ block ∧ CommandBlock net block :=
  h ▸ hx.record c

/-- Nothing added to the record. -/
theorem CommandBlock.unchanged {net : Network N} {c c' : Client N}
    (h : c'.commands = c.commands) :
    ∃ block, c'.commands = c.commands ++ block ∧ CommandBlock net block :=
  ⟨[], by rw [h, List.append_nil], .empty⟩

theorem PaidWrite.discard {x : ClientM N α} (hx : PaidWrite net x) :
    PaidWrite net (discard x : ClientM N Unit) where
  charge c := by
    rw [discard_apply]
    split
    · next heq => exact hx.charge_of_eq net heq
    · next heq => exact hx.charge_of_eq net heq
  record c := by
    rw [stateAfter_discard]
    exact hx.record c
  blocked c hp := by
    obtain ⟨f, c', h, ha, hc⟩ := hx.blocked c hp
    exact ⟨f, c', by rw [discard_apply, h], ha, hc⟩

theorem paidWrite_payAndSend (write : SequenceWrite) : PaidWrite net (payAndSend net write) where
  charge c := by
    rcases payAndSend_cases net write c with
      ⟨f, h⟩ | ⟨hIdle, f, c', h, ha, hc⟩ | ⟨hIdle, b, c', proof, h, hb, ha, hp, -, hc⟩ <;> rw [h]
    · exact .unchanged _
    · have hs : validatedCounters c'.commands =
          validatedCounters c.commands ++ [c.transferActor.nextDebit] := by
        rcases hc with hc | ⟨proof, -, hc⟩ <;> rw [hc]
        · exact validatedCounters_append_validate c.commands (writePayment net c.transferActor)
        · exact validatedCounters_append_payment c.commands (writePayment net c.transferActor) [_]
            fun _ h => ⟨_, _, List.mem_singleton.1 h⟩
      unfold paymentLedger
      rw [stateAfter_error, ha, hs]
      exact .leftPending _ hIdle
    · have hs : validatedCounters c'.commands =
          validatedCounters c.commands ++ [c.transferActor.nextDebit] := by
        rw [hc, validatedCounters_append_payment _ _ [_] fun _ h => ⟨_, _, List.mem_singleton.1 h⟩, hp]
        rfl
      unfold paymentLedger
      rw [stateAfter_ok, ha, hs]
      exact .debited _ hIdle hb
  record c := by
    rcases payAndSend_cases net write c with
      ⟨f, h⟩ | ⟨-, f, c', h, -, hc⟩ | ⟨-, b, c', proof, h, -, -, hp, hv, hc⟩ <;> rw [h]
    · exact CommandBlock.unchanged rfl
    · rcases hc with hc | ⟨proof, hv, hc⟩
      · exact ⟨_, hc, .validation _⟩
      · exact ⟨_, hc, .write _ _ _ rfl rfl hv⟩
    · rw [← hp] at hv
      exact ⟨_, hc, .write _ _ _ (by rw [hp]; rfl) (by rw [hp]; rfl) hv⟩
  blocked c hp := ⟨_, c, payAndSend_pending net write hp, rfl, rfl⟩

theorem paidWrite_storeSequence (address : SequenceAddress) (data : Sequence) (owner : PublicKey)
    (sequence : Option (List SequenceEntry)) :
    PaidWrite net (storeSequence net address data owner sequence) where
  charge c := by
    rw [storeSequence_apply]
    dsimp only
    split
    · next heq => exact (paidWrite_payAndSend net _).charge_of_eq net heq
    · next heq => exact (paidWrite_payAndSend net _).charge_of_eq net heq
  record c := by
    rw [storeSequence_apply]
    dsimp only
    split
    · next heq => exact (paidWrite_payAndSend net _).record_of_eq net heq
    · next heq => exact (paidWrite_payAndSend net _).record_of_eq net heq
  blocked c hp := by
    rw [storeSequence_apply]
    dsimp only
    rw [payAndSend_pending net _ hp]
    exact ⟨_, c, rfl, rfl, rfl⟩

theorem paidWrite_storePrivateSequence (sequence : Option (List SequenceEntry)) (name : XorName)
    (tag : UInt64) (owner : PublicKey) (permissions : List (PublicKey × SequencePrivUserPermissions)) :
    PaidWrite net (storePrivateSequence net sequence name tag owner permissions) where
  charge c := by
    rw [storePrivateSequence_apply]
    split
    · exact (paidWrite_storeSequence net ..).charge c
    · exact .unchanged _
  record c := by
    rw [storePrivateSequence_apply]
    split
    · exact (paidWrite_storeSequence net ..).record c
    · exact CommandBlock.unchanged rfl
  blocked c hp := by
    rw [storePrivateSequence_apply]
    split
    · exact (paidWrite_storeSequence net ..).blocked c hp
    · exact ⟨_, c, rfl, rfl, rfl⟩

theorem paidWrite_storePublicSequence (sequence : Option (List SequenceEntry)) (name : XorName)
    (tag : UInt64) (owner : PublicKey) (permissions : List (SequenceUser × SequencePubUserPermissions)) :
    PaidWrite net (storePublicSequence net sequence name tag owner permissions) where
  charge c := by
    rw [storePublicSequence_apply]
    split
    · exact (paidWrite_storeSequence net ..).charge c
    · exact .unchanged _
  record c := by
    rw [storePublicSequence_apply]
    split
    · exact (paidWrite_storeSequence net ..).record c
    · exact CommandBlock.unchanged rfl
  blocked c hp := by
    rw [storePublicSequence_apply]
    split
    · exact (paidWrite_storeSequence net ..).blocked c hp
    · exact ⟨_, c, rfl, rfl, rfl⟩

/-- A checked mutation charges as the paid write it ends with: the fetch, the check and the
cached snapshot touch neither the actor nor the command record. -/
theorem paidWrite_mutateChecked (address : SequenceAddress) (action : SequenceAction)
    (mutate : Sequence → Except SndError (Sequence × β)) {send : β → ClientM N Unit}
    (hSend : ∀ op, PaidWrite net (send op)) :
    PaidWrite net (mutateChecked net address action mutate send) where
  charge c := by
    obtain ⟨-, ha, -, hc⟩ := getSequence_frame net address c
    rw [mutateChecked_apply]
    split
    · next heq =>
        rw [heq, stateAfter_error] at ha hc
        rw [← paymentLedger_eq ha hc]
        exact .unchanged _
    · next heq =>
        rw [heq, stateAfter_ok] at ha hc
        rw [← paymentLedger_eq ha hc]
        split
        · exact .unchanged _
        · exact .unchanged _
        · exact (hSend _).charge _
  record c := by
    obtain ⟨-, -, -, hc⟩ := getSequence_frame net address c
    rw [mutateChecked_apply]
    split
    · next heq =>
        rw [heq, stateAfter_error] at hc
        exact CommandBlock.unchanged hc
    · next heq =>
        rw [heq, stateAfter_ok] at hc
        split
        · exact CommandBlock.unchanged hc
        · exact CommandBlock.unchanged hc
        · rw [← hc]
          exact (hSend _).record _
  blocked c hp := by
    obtain ⟨-, ha, -, hc⟩ := getSequence_frame net address c
    rw [mutateChecked_apply]
    split
    · next heq =>
        rw [heq, stateAfter_error] at ha hc
        exact ⟨_, _, rfl, ha, hc⟩
    · next heq =>
        rw [heq, stateAfter_ok] at ha hc
        split
        · exact ⟨_, _, rfl, ha, hc⟩
        · exact ⟨_, _, rfl, ha, hc⟩
        · rw [← ha, ← hc]
          exact (hSend _).blocked _ (by rwa [← ha] at hp)

namespace Call

/-- Whether a call paid for a write: a write that returned. -/
def paid (call : Call) (r : EStateM.Result Failure (Client N) Unit) : Bool :=
  !call.isRead && returned r

theorem isRead_eq_true {call : Call} (h : call.isRead = true) : ∃ address, call = getSequence address := by
  cases call <;> simp_all [isRead]

/-- Every sequence API other than `get_sequence` is a paid write. -/
theorem paidWrite_run : ∀ call : Call, call.isRead = false → PaidWrite net (call.run net)
  | storePrivateSequence .., _ => (paidWrite_storePrivateSequence net ..).discard net
  | storePublicSequence .., _ => (paidWrite_storePublicSequence net ..).discard net
  | appendToSequence .., _ => paidWrite_mutateChecked net _ _ _ fun _ => paidWrite_payAndSend net _
  | deleteSequence _, _ => paidWrite_payAndSend net _
  | setSequenceOwner _, _ => paidWrite_payAndSend net _
  | sequenceSetOwner .., _ => paidWrite_mutateChecked net _ _ _ fun _ => paidWrite_payAndSend net _
  | editSequencePrivatePerms _, _ => paidWrite_payAndSend net _
  | editSequencePublicPerms _, _ => paidWrite_payAndSend net _
  | sequenceSetPubPermissions .., _ =>
      paidWrite_mutateChecked net _ _ _ fun _ => paidWrite_payAndSend net _
  | sequenceSetPrivatePermissions .., _ =>
      paidWrite_mutateChecked net _ _ _ fun _ => paidWrite_payAndSend net _

/-- What any call does to the actor: a read nothing, a write what a paid write does. -/
theorem writeCharge_run (call : Call) (c : Client N) :
    WriteCharge net.writeCost net.payee (call.paid (call.run net c)) (paymentLedger c)
      (paymentLedger (stateAfter (call.run net c))) := by
  cases hr : call.isRead with
  | false => simpa only [paid, hr, Bool.not_false, Bool.true_and] using (paidWrite_run net call hr).charge c
  | true =>
      obtain ⟨address, rfl⟩ := isRead_eq_true hr
      obtain ⟨-, ha, -, hc⟩ := getSequence_frame net address c
      rw [show (getSequence address).paid ((getSequence address).run net c) = false from rfl, run,
        stateAfter_discard, paymentLedger_eq ha hc]
      exact .unchanged _

/-- What any call adds to the command record: a read nothing, a write what a paid write adds. -/
theorem record_run (call : Call) (c : Client N) :
    ∃ block, (stateAfter (call.run net c)).commands = c.commands ++ block ∧
      CommandBlock net block := by
  cases hr : call.isRead with
  | false => exact (paidWrite_run net call hr).record c
  | true =>
      obtain ⟨address, rfl⟩ := isRead_eq_true hr
      rw [run, stateAfter_discard]
      exact CommandBlock.unchanged (getSequence_frame net address c).2.2.2

/-- While a payment is pending no call touches the actor or sends a command. -/
theorem run_blocked (call : Call) {c : Client N} (hp : c.transferActor.pending ≠ none) :
    call.paid (call.run net c) = false ∧
    (stateAfter (call.run net c)).transferActor = c.transferActor ∧
    (stateAfter (call.run net c)).commands = c.commands := by
  cases hr : call.isRead with
  | false =>
      obtain ⟨f, c', h, ha, hc⟩ := (paidWrite_run net call hr).blocked c hp
      rw [h]
      exact ⟨by simp [paid, returned], ha, hc⟩
  | true =>
      obtain ⟨address, rfl⟩ := isRead_eq_true hr
      obtain ⟨-, ha, -, hc⟩ := getSequence_frame net address c
      rw [run, stateAfter_discard]
      exact ⟨rfl, ha, hc⟩

end Call

/-! ### Runs -/

/-- The client after the calls, made one after another, whatever each returned. -/
def runCalls : List Call → Client N → Client N
  | [], c => c
  | call :: calls, c => runCalls calls (stateAfter (call.run net c))

/-- The writes of a run that returned, each of which paid. -/
def paidWrites : List Call → Client N → Nat
  | [], _ => 0
  | call :: calls, c =>
      (if call.paid (call.run net c) then 1 else 0) + paidWrites calls (stateAfter (call.run net c))

/-- Along any run of the sequence APIs the balance drops by the write price for each write that
returned and by nothing else, and the counter advances once for each. -/
theorem write_price_charged_per_write (calls : List Call) (c : Client N) :
    (runCalls net calls c).transferActor.nextDebit =
      c.transferActor.nextDebit + paidWrites net calls c ∧
    (runCalls net calls c).transferActor.balance.nanos.toNat +
      net.writeCost.nanos.toNat * paidWrites net calls c = c.transferActor.balance.nanos.toNat := by
  induction calls generalizing c with
  | nil => exact ⟨rfl, rfl⟩
  | cons call calls ih =>
      obtain ⟨hn, hb⟩ := ih (stateAfter (call.run net c))
      have h := Call.writeCharge_run net call c
      have hn₁ := h.nextDebit_eq
      have hb₁ := h.balance_toNat
      simp only [runCalls, paidWrites, Nat.mul_add]
      generalize call.paid (call.run net c) = paid at hn₁ hb₁ ⊢
      cases paid <;> simp only [↓reduceIte, Bool.false_eq_true, paymentLedger] at hn₁ hb₁ ⊢ <;> omega

/-- Once a payment is left pending, no later call touches the actor or sends a command, and no
write returns. -/
theorem pending_payment_blocks_writes (calls : List Call) (c : Client N)
    (hp : c.transferActor.pending ≠ none) :
    (runCalls net calls c).transferActor = c.transferActor ∧
    (runCalls net calls c).commands = c.commands ∧ paidWrites net calls c = 0 := by
  induction calls generalizing c with
  | nil => exact ⟨rfl, rfl, rfl⟩
  | cons call calls ih =>
      obtain ⟨hPaid, ha, hc⟩ := Call.run_blocked net call hp
      obtain ⟨ha', hc', hw⟩ := ih (stateAfter (call.run net c)) (by rwa [ha])
      exact ⟨ha'.trans ha, hc'.trans hc, by simp [paidWrites, hPaid, hw]⟩

theorem pending_payment_blocks_writes_store_read :
    ({ freshClient ⟨1⟩ ⟨10⟩ (fun _ => none) with
        transferActor := ⟨⟨1⟩, ⟨10⟩, 0, some ⟨⟨⟨⟨1⟩, 0⟩, ⟨0⟩, ⟨1⟩⟩⟩, []⟩ } :
      Client DataMap).transferActor.pending ≠ none ∧
    (runCalls (replicaNetwork ⟨1⟩ ⟨0⟩)
        [.storePrivateSequence none ⟨7⟩ 0 ⟨1⟩ [], .getSequence ⟨.priv, ⟨7⟩, 0⟩]
        { freshClient ⟨1⟩ ⟨10⟩ (fun _ => none) with
          transferActor := ⟨⟨1⟩, ⟨10⟩, 0, some ⟨⟨⟨⟨1⟩, 0⟩, ⟨0⟩, ⟨1⟩⟩⟩, []⟩ }).transferActor =
      ⟨⟨1⟩, ⟨10⟩, 0, some ⟨⟨⟨⟨1⟩, 0⟩, ⟨0⟩, ⟨1⟩⟩⟩, []⟩ ∧
    (runCalls (replicaNetwork ⟨1⟩ ⟨0⟩)
        [.storePrivateSequence none ⟨7⟩ 0 ⟨1⟩ [], .getSequence ⟨.priv, ⟨7⟩, 0⟩]
        { freshClient ⟨1⟩ ⟨10⟩ (fun _ => none) with
          transferActor := ⟨⟨1⟩, ⟨10⟩, 0, some ⟨⟨⟨⟨1⟩, 0⟩, ⟨0⟩, ⟨1⟩⟩⟩, []⟩ }).commands = [] ∧
    paidWrites (replicaNetwork ⟨1⟩ ⟨0⟩)
        [.storePrivateSequence none ⟨7⟩ 0 ⟨1⟩ [], .getSequence ⟨.priv, ⟨7⟩, 0⟩]
        { freshClient ⟨1⟩ ⟨10⟩ (fun _ => none) with
          transferActor := ⟨⟨1⟩, ⟨10⟩, 0, some ⟨⟨⟨⟨1⟩, 0⟩, ⟨0⟩, ⟨1⟩⟩⟩, []⟩ } = 0 :=
  ⟨by simp, pending_payment_blocks_writes _ _ _ (by simp)⟩

end SafeCore
