import SafeCore.WritePayment

/-!
The client as a whole, its calls made one after another, whatever each returns and whatever the
network answers. Each call does one of three things to the debit ledger, so the counters sent
for validation only grow.
-/

namespace SafeCore

/-- The accessors of the sequence APIs, each a read of the snapshot `get_sequence` returns. -/
inductive Read
  | getSequenceLastEntry (address : SequenceAddress)
  | getSequenceRange (address : SequenceAddress) (range : SequenceIndex × SequenceIndex)
  | getSequenceOwner (address : SequenceAddress)
  | getSequencePubPermissions (address : SequenceAddress)
  | getSequencePrivatePermissions (address : SequenceAddress)
  | getSequenceUserPermissions (address : SequenceAddress) (user : SequenceUser)

/-- The client's calls: the sequence APIs a run is made of, their accessors, `send_money`, the
handling of a validation event and the two balance queries. -/
inductive ClientCall
  | sequence (call : Call)
  | read (read : Read)
  | sendMoney (recipient : PublicKey) (amount : Money)
  | handleValidationEvent (event : Event)
  | getBalanceFromNetwork (publicKey : Option PublicKey)
  | getLocalBalance

variable {N : Type} (net : Network N) (receive : Receive)

namespace Read

def address : Read → SequenceAddress
  | getSequenceLastEntry address | getSequenceRange address _ | getSequenceOwner address
  | getSequencePubPermissions address | getSequencePrivatePermissions address
  | getSequenceUserPermissions address _ => address

/-- The accessor called by the client, its result dropped. -/
def run : Read → ClientM N Unit
  | getSequenceLastEntry address => discard (SafeCore.getSequenceLastEntry net address)
  | getSequenceRange address range => discard (SafeCore.getSequenceRange net address range)
  | getSequenceOwner address => discard (SafeCore.getSequenceOwner net address)
  | getSequencePubPermissions address => discard (SafeCore.getSequencePubPermissions net address)
  | getSequencePrivatePermissions address =>
      discard (SafeCore.getSequencePrivatePermissions net address)
  | getSequenceUserPermissions address user =>
      discard (SafeCore.getSequenceUserPermissions net address user)

end Read

/-- What a call does after a step that leaves the state as it is leaves what the step left. -/
theorem stateAfter_bind_of_preserves {α β : Type} (x : ClientM N α) {k : α → ClientM N β}
    (hk : ∀ a, Preserves id (k a)) (c : Client N) :
    stateAfter ((x >>= k) c) = stateAfter (x c) := by
  rw [bind_apply]
  cases x c with
  | ok a c' => exact hk a c'
  | error e c' => rfl

theorem preserves_subU64 {γ : Type} (f : Client N → γ) (a b : Nat) :
    Preserves f (subU64 a b : ClientM N Nat) := by
  unfold subU64
  split
  · exact Preserves.pure _
  · exact Preserves.throw _

/-- An accessor leaves what its `get_sequence` leaves: the snapshot is only read. -/
theorem Read.stateAfter_run : ∀ (r : Read) (c : Client N),
    stateAfter (r.run net c) = stateAfter (getSequence net r.address c)
  | .getSequenceLastEntry address, c => by
      rw [run, stateAfter_discard]
      refine stateAfter_bind_of_preserves _ (fun s => ?_) c
      split
      · exact (preserves_subU64 _ _ _).bind fun _ => Preserves.pure _
      · exact Preserves.throw _
  | .getSequenceRange address range, c => by
      rw [run, stateAfter_discard]
      refine stateAfter_bind_of_preserves _ (fun s => ?_) c
      split
      · exact Preserves.pure _
      · exact Preserves.throw _
  | .getSequenceOwner _, c | .getSequencePubPermissions _, c
  | .getSequencePrivatePermissions _, c | .getSequenceUserPermissions _ _, c => by
      rw [run, stateAfter_discard]
      exact stateAfter_bind_of_preserves _
        (fun _ => (preserves_subU64 _ _ _).bind fun _ => Preserves.ofCore _) c

/-- An accessor touches nothing but the cache and the record of queries. -/
theorem Read.frame (r : Read) (c : Client N) :
    (stateAfter (r.run net c)).transferActor = c.transferActor ∧
    (stateAfter (r.run net c)).commands = c.commands := by
  obtain ⟨-, ha, -, hc⟩ := getSequence_frame net r.address c
  rw [Read.stateAfter_run]
  exact ⟨ha, hc⟩

/-- The call made by the client, its result dropped. -/
def ClientCall.run : ClientCall → ClientM N Unit
  | sequence call => call.run net
  | read r => r.run net
  | sendMoney recipient amount => SafeCore.sendMoney net recipient amount
  | handleValidationEvent event => discard (SafeCore.handleValidationEvent receive event)
  | getBalanceFromNetwork publicKey => discard (SafeCore.getBalanceFromNetwork net publicKey)
  | getLocalBalance => discard (SafeCore.getLocalBalance : ClientM N Money)

/-- The client after the calls, made one after another, whatever each returned. -/
def runClient : List ClientCall → Client N → Client N
  | [], c => c
  | call :: calls, c => runClient calls (stateAfter (call.run net receive c))

/-! ### What one call does to the debit ledger -/

/-- What one whole call can do to the debit view: nothing; or, from an idle ledger, send the
next counter for validation and either leave its transfer pending or register it. -/
inductive DebitStep : DebitView → DebitView → Prop
  | unchanged (v : DebitView) : DebitStep v v
  | leftPending {v : DebitView} (t : SignedTransfer) : v.pending = none →
      t.id.counter = v.nextDebit → DebitStep v ⟨some t, v.nextDebit, v.sent ++ [v.nextDebit]⟩
  | registered {v : DebitView} : v.pending = none →
      DebitStep v ⟨none, v.nextDebit + 1, v.sent ++ [v.nextDebit]⟩

/-- The ledger as the command record shows it: the counters sent for validation increase
strictly and lie below the next counter, but for one at it while its transfer is pending. -/
structure DebitLedger (v : DebitView) : Prop where
  increasing : v.sent.Pairwise (· < ·)
  bounded : ∀ k ∈ v.sent, k < v.nextDebit ∨ (k = v.nextDebit ∧ v.pending ≠ none)

section Ledger

variable {v v' : DebitView}

theorem DebitLedger.below_of_idle (h : DebitLedger v) (hp : v.pending = none) :
    ∀ k ∈ v.sent, k < v.nextDebit :=
  fun k hk => (h.bounded k hk).resolve_right fun h' => h'.2 hp

theorem DebitLedger.increasing_append (h : DebitLedger v) (hp : v.pending = none) :
    (v.sent ++ [v.nextDebit]).Pairwise (· < ·) :=
  List.pairwise_append.2 ⟨h.increasing, List.pairwise_singleton _ _,
    fun k hk _ hn => List.mem_singleton.1 hn ▸ h.below_of_idle hp k hk⟩

/-- One call keeps the ledger. -/
theorem DebitStep.ledger (hs : DebitStep v v') (h : DebitLedger v) : DebitLedger v' := by
  cases hs with
  | unchanged => exact h
  | leftPending t hp _ =>
      refine ⟨h.increasing_append hp, fun k hk => ?_⟩
      rcases List.mem_append.1 hk with hk | hk
      · exact .inl (h.below_of_idle hp k hk)
      · exact .inr ⟨List.mem_singleton.1 hk, nofun⟩
  | registered hp =>
      refine ⟨h.increasing_append hp, fun k hk => ?_⟩
      rcases List.mem_append.1 hk with hk | hk
      · exact .inl (Nat.lt_succ_of_lt (h.below_of_idle hp k hk))
      · exact .inl (List.mem_singleton.1 hk ▸ Nat.lt_succ_self _)

end Ledger

/-- A paid write's charge, seen on the debit view. -/
theorem WriteCharge.debitStep {price : Money} {payee : PublicKey} {paid : Bool}
    {l l' : TransferActor × List Nat} (h : WriteCharge price payee paid l l') :
    DebitStep ⟨l.1.pending, l.1.nextDebit, l.2⟩ ⟨l'.1.pending, l'.1.nextDebit, l'.2⟩ := by
  cases h with
  | unchanged => exact .unchanged _
  | leftPending _ hp => exact .leftPending _ hp rfl
  | debited _ hp _ => exact .registered hp

theorem registerDebit_error {proof : DebitAgreementProof} {c c' : Client N} {f : Failure}
    (h : registerDebit proof c = .error f c') : c' = c := by
  rw [registerDebit_apply] at h
  split at h
  · split at h <;> cases h
    rfl
  · cases h; rfl
  · cases h; rfl

theorem registerDebit_ok {proof : DebitAgreementProof} {c c' : Client N}
    (h : registerDebit proof c = .ok () c') :
    c.transferActor.pending = some proof.signedTransfer ∧
    c.transferActor.balance.checkedSub proof.signedTransfer.amount = some c'.transferActor.balance ∧
    c'.transferActor.pending = none ∧
    c'.transferActor.nextDebit = c.transferActor.nextDebit + 1 ∧ c'.commands = c.commands := by
  rw [registerDebit_apply] at h
  split at h
  · next e hr =>
      obtain ⟨hp, he⟩ := TransferActor.register_ok hr
      cases he
      split at h
      · next a ha =>
          cases h
          obtain ⟨hb, hn, hNone⟩ := TransferActor.apply_transferRegistrationSent_ok ha
          exact ⟨hp, hb, hNone, hn, rfl⟩
      · cases h
  · cases h
  · cases h

/-- What one `send_money` call can leave: refused before building its transfer; its transfer
sent for validation and left pending; or registered, the amount debited. -/
inductive SendOutcome (c : Client N) (recipient : PublicKey) (amount : Money) :
    Bool → Client N → Prop
  | refused {c' : Client N} : c'.commands = c.commands →
      (c'.transferActor = c.transferActor ∨
        net.history c.network c.transferActor = .ok c'.transferActor) →
      SendOutcome c recipient amount false c'
  | leftPending {c' : Client N} {a : TransferActor} :
      net.history c.network c.transferActor = .ok a → a.pending = none →
      c'.transferActor = { a with pending := some (outgoingTransfer a recipient amount) } →
      (c'.commands =
          c.commands ++ [.transfer (.validateTransfer (outgoingTransfer a recipient amount))] ∨
        ∃ proof, Validated net (outgoingTransfer a recipient amount) proof ∧ c'.commands =
          c.commands ++ [.transfer (.validateTransfer (outgoingTransfer a recipient amount)),
            .transfer (.registerTransfer proof)]) →
      SendOutcome c recipient amount false c'
  | registered {c' : Client N} {a : TransferActor} {proof : DebitAgreementProof} :
      net.history c.network c.transferActor = .ok a → a.pending = none →
      a.balance.checkedSub amount = some c'.transferActor.balance →
      c'.transferActor.pending = none → c'.transferActor.nextDebit = a.nextDebit + 1 →
      Validated net (outgoingTransfer a recipient amount) proof →
      c'.commands = c.commands ++
        [.transfer (.validateTransfer (outgoingTransfer a recipient amount)),
          .transfer (.registerTransfer proof)] →
      SendOutcome c recipient amount true c'

theorem awaitValidation_ok {message : Cmd} {id : TransferId} {c c' : Client N}
    {proof : DebitAgreementProof} (h : awaitValidation net message id c = .ok proof c') :
    ∃ n, net.validation message id n = .ok proof := by
  rw [awaitValidation_apply] at h
  split at h
  · next n _ =>
      cases hv : net.validation message id n with
      | ok p =>
          rw [hv] at h
          cases h
          exact ⟨n, hv⟩
      | error e => rw [hv] at h; cases h
  · cases h

/-- What one `send_money` call can do, whatever the network answers. -/
theorem sendMoney_outcome (recipient : PublicKey) (amount : Money) (c : Client N) :
    SendOutcome net c recipient amount (returned (sendMoney net recipient amount c))
      (stateAfter (sendMoney net recipient amount c)) := by
  rw [sendMoney, bind_apply, getHistory_apply]
  cases hh : net.history c.network c.transferActor with
  | error e => exact .refused rfl (.inl rfl)
  | ok a =>
    simp only [bind_apply, sendMoneyTransfer_apply]
    cases hT : a.transfer amount recipient with
    | error e => exact .refused rfl (.inr hh)
    | ok r =>
      obtain ⟨hIdle, -, rfl⟩ := TransferActor.transfer_ok hT
      simp only [sendMoneyInitiate_apply]
      set st : SignedTransfer := ⟨⟨⟨a.id, a.nextDebit⟩, recipient, amount⟩⟩
      set c₂ : Client N := { c with transferActor := { a with pending := some st } }
      have hActor₃ := preserves_awaitValidation net (·.transferActor) (fun _ _ _ => rfl)
        (.transfer (.validateTransfer st)) st.id
      have hSent₃ := commands_awaitValidation net (.transfer (.validateTransfer st)) st.id c₂
      cases hV : sendMoneyValidate net st c₂ with
      | error f c₃ =>
          rw [show awaitValidation net _ _ c₂ = sendMoneyValidate net st c₂ from rfl, hV,
            stateAfter_error] at hSent₃
          exact .leftPending hh hIdle (hActor₃.of_error hV) (.inl hSent₃)
      | ok proof c₃ =>
        rw [show awaitValidation net _ _ c₂ = sendMoneyValidate net st c₂ from rfl, hV,
          stateAfter_ok] at hSent₃
        dsimp only
        have hActor₄ := preserves_sendCmd net (·.transferActor) (fun _ _ _ => rfl)
          (.transfer (.registerTransfer proof))
        have hSent₄ := commands_sendCmd net (.transfer (.registerTransfer proof)) c₃
        have hValidated : Validated net st proof := awaitValidation_ok net hV
        -- the validation and the registration, as sent
        have hBoth : ∀ c₄ : Client N,
            c₄.commands = c₃.commands ++ [.transfer (.registerTransfer proof)] →
            c₄.commands = c.commands ++
              [.transfer (.validateTransfer st), .transfer (.registerTransfer proof)] := by
          intro c₄ h
          rw [h, hSent₃, List.append_assoc]
          rfl
        cases hR : sendMoneyRegister net proof c₃ with
        | error f c₄ =>
            rw [show sendCmd net _ c₃ = sendMoneyRegister net proof c₃ from rfl, hR,
              stateAfter_error] at hSent₄
            dsimp only
            exact .leftPending hh hIdle ((hActor₄.of_error hR).trans (hActor₃.of_ok hV))
              (.inr ⟨proof, hValidated, hBoth c₄ hSent₄⟩)
        | ok u c₄ =>
          rw [show sendCmd net _ c₃ = sendMoneyRegister net proof c₃ from rfl, hR,
            stateAfter_ok] at hSent₄
          dsimp only
          have hActor : c₄.transferActor = { a with pending := some st } :=
            (hActor₄.of_ok hR).trans (hActor₃.of_ok hV)
          cases hD : registerDebit proof c₄ with
          | error f c₅ =>
              rw [stateAfter_error, registerDebit_error hD]
              exact .leftPending hh hIdle hActor (.inr ⟨proof, hValidated, hBoth c₄ hSent₄⟩)
          | ok u' c₅ =>
              obtain ⟨hPending, hBalance, hNone, hNext, hCmds⟩ := registerDebit_ok hD
              rw [hActor] at hPending hBalance hNext
              -- the proof registered is the one for the pending transfer
              rw [← Option.some.inj hPending] at hBalance
              exact .registered hh hIdle hBalance hNone hNext hValidated
                (hCmds.trans (hBoth c₄ hSent₄))

/-- What one `send_money` call does to the debit view, when `get_history` brings in no debit. -/
theorem sendMoney_debitStep (hHist : HistoryKeepsDebits net) (recipient : PublicKey)
    (amount : Money) (c : Client N) :
    DebitStep (debitView c) (debitView (stateAfter (sendMoney net recipient amount c))) := by
  have h := sendMoney_outcome net recipient amount c
  generalize returned (sendMoney net recipient amount c) = b at h
  generalize stateAfter (sendMoney net recipient amount c) = c' at h ⊢
  cases h with
  | refused hc ha =>
      have hView : debitView c' = debitView c := by
        rcases ha with ha | ha
        · simp only [debitView, ha, hc]
        · obtain ⟨hn, hp⟩ := hHist _ _ _ ha
          simp only [debitView, hn, hp, hc]
      rw [hView]
      exact .unchanged _
  | @leftPending _ a hh hIdle ha hc =>
      obtain ⟨hn, hp⟩ := hHist _ _ _ hh
      have hSent : validatedCounters c'.commands =
          validatedCounters c.commands ++ [c.transferActor.nextDebit] := by
        rcases hc with hc | ⟨proof, -, hc⟩ <;> rw [hc, ← hn]
        · exact validatedCounters_append_validate _ _
        · rw [← List.singleton_append, ← List.append_assoc, validatedCounters_append_register,
            validatedCounters_append_validate]
          rfl
      have hView : debitView c' = ⟨some (outgoingTransfer a recipient amount),
          c.transferActor.nextDebit,
          validatedCounters c.commands ++ [c.transferActor.nextDebit]⟩ := by
        simp only [debitView, ha, hn, hSent]
      rw [hView]
      exact .leftPending _ (hp ▸ hIdle : c.transferActor.pending = none) hn
  | registered hh hIdle _ hNone hNext _ hc =>
      obtain ⟨hn, hp⟩ := hHist _ _ _ hh
      have hSent : validatedCounters c'.commands =
          validatedCounters c.commands ++ [c.transferActor.nextDebit] := by
        rw [hc, ← hn, ← List.singleton_append, ← List.append_assoc,
          validatedCounters_append_register, validatedCounters_append_validate]
        rfl
      have hView : debitView c' = ⟨none, c.transferActor.nextDebit + 1,
          validatedCounters c.commands ++ [c.transferActor.nextDebit]⟩ := by
        simp only [debitView, hNone, hNext, hn, hSent]
      rw [hView]
      exact .registered (hp ▸ hIdle : c.transferActor.pending = none)

/-- What one `send_money` call adds to the command record: at most its transfer's validation
and registration. -/
theorem sendMoney_record (recipient : PublicKey) (amount : Money) (c : Client N) :
    ∃ block, (stateAfter (sendMoney net recipient amount c)).commands = c.commands ++ block ∧
      CommandBlock net block := by
  have h := sendMoney_outcome net recipient amount c
  generalize returned (sendMoney net recipient amount c) = b at h
  generalize stateAfter (sendMoney net recipient amount c) = c' at h ⊢
  cases h with
  | refused hc _ => exact CommandBlock.unchanged hc
  | leftPending _ _ _ hc =>
      rcases hc with hc | ⟨proof, hv, hc⟩
      · exact ⟨_, hc, .validation _⟩
      · exact ⟨_, hc, .registration _ _ hv⟩
  | registered _ _ _ _ _ hv hc => exact ⟨_, hc, .registration _ _ hv⟩

/-- A validation event touches only the validations the actor has recorded. -/
theorem handleValidationEvent_frame (event : Event) (c : Client N) :
    ∃ a : TransferActor, stateAfter (handleValidationEvent receive event c) =
        { c with transferActor := a } ∧
      a.pending = c.transferActor.pending ∧ a.nextDebit = c.transferActor.nextDebit ∧
      a.balance = c.transferActor.balance := by
  cases event with
  | other => exact ⟨c.transferActor, rfl, rfl, rfl, rfl⟩
  | transferValidated validation =>
      rw [handleValidationEvent_apply]
      split
      · split
        · next a ha =>
            cases ha
            exact ⟨_, rfl, rfl, rfl, rfl⟩
        · exact ⟨c.transferActor, rfl, rfl, rfl, rfl⟩
      · exact ⟨c.transferActor, rfl, rfl, rfl, rfl⟩
      · split <;> exact ⟨c.transferActor, rfl, rfl, rfl, rfl⟩

/-- A balance query touches only the record of queries. -/
theorem preserves_getBalanceFromNetwork {γ : Type} (f : Client N → γ)
    (hf : ∀ c qs, f { c with queries := qs } = f c) (publicKey : Option PublicKey) :
    Preserves f (getBalanceFromNetwork net publicKey) := by
  refine Preserves.get.bind fun _ => Preserves.bind (fun c => ?_) fun response => ?_
  · rw [sendQuery_apply]
    split <;> exact hf _ _
  · cases response with
    | getBalance balance => exact Preserves.ofSnd _
    | _ => exact Preserves.fail _

/-- What any call does to the debit view. -/
theorem ClientCall.debitStep (hHist : HistoryKeepsDebits net) :
    ∀ (call : ClientCall) (c : Client N),
      DebitStep (debitView c) (debitView (stateAfter (call.run net receive c)))
  | sequence call, c => (Call.writeCharge_run net call c).debitStep
  | read r, c => by
      obtain ⟨ha, hc⟩ := r.frame net c
      rw [run, show debitView (stateAfter (r.run net c)) = debitView c by
        simp only [debitView, ha, hc]]
      exact .unchanged _
  | sendMoney recipient amount, c => sendMoney_debitStep net hHist recipient amount c
  | handleValidationEvent event, c => by
      obtain ⟨a, h, hp, hn, -⟩ := handleValidationEvent_frame receive event c
      rw [run, stateAfter_discard, h]
      simp only [debitView, hp, hn]
      exact .unchanged _
  | getBalanceFromNetwork publicKey, c => by
      rw [run, stateAfter_discard,
        preserves_getBalanceFromNetwork net debitView (fun _ _ => rfl) publicKey c]
      exact .unchanged _
  | getLocalBalance, c => .unchanged _

/-- What any call adds to the command record. -/
theorem ClientCall.record :
    ∀ (call : ClientCall) (c : Client N),
      ∃ block, (stateAfter (call.run net receive c)).commands = c.commands ++ block ∧
        CommandBlock net block
  | sequence call, c => Call.record_run net call c
  | read r, c => CommandBlock.unchanged (r.frame net c).2
  | sendMoney recipient amount, c => sendMoney_record net recipient amount c
  | handleValidationEvent event, c => by
      obtain ⟨a, h, -⟩ := handleValidationEvent_frame receive event c
      rw [run, stateAfter_discard, h]
      exact CommandBlock.unchanged rfl
  | getBalanceFromNetwork publicKey, c => by
      rw [run, stateAfter_discard]
      exact CommandBlock.unchanged
        (preserves_getBalanceFromNetwork net (·.commands) (fun _ _ => rfl) publicKey c)
  | getLocalBalance, c => CommandBlock.unchanged rfl

theorem debitLedger_runClient (hHist : HistoryKeepsDebits net) :
    ∀ (calls : List ClientCall) (c : Client N), DebitLedger (debitView c) →
      DebitLedger (debitView (runClient net receive calls c))
  | [], _, h => h
  | call :: calls, c, h =>
      debitLedger_runClient hHist calls _ ((ClientCall.debitStep net receive hHist call c).ledger h)

/-- One client making its calls in sequence never sends a debit counter twice: the counters sent
for validation increase strictly, when `get_history` brings in no debit. -/
theorem sequential_calls_increasing_counters (hHist : HistoryKeepsDebits net)
    (calls : List ClientCall) (c : Client N)
    (hIncreasing : (validatedCounters c.commands).Pairwise (· < ·))
    (hBelow : ∀ k ∈ validatedCounters c.commands, k < c.transferActor.nextDebit) :
    (validatedCounters (runClient net receive calls c).commands).Pairwise (· < ·) :=
  (debitLedger_runClient net receive hHist calls c
    ⟨hIncreasing, fun k hk => .inl (hBelow k hk)⟩).increasing

/-- The replica network's history finds nothing new. -/
theorem historyKeepsDebits_replicaNetwork {writeCost : Money} {payee : PublicKey} :
    HistoryKeepsDebits (replicaNetwork writeCost payee) := fun _ _ _ h => by
  cases h
  exact ⟨rfl, rfl⟩

theorem sequential_calls_increasing_counters_send_store_send :
    HistoryKeepsDebits (replicaNetwork ⟨1⟩ ⟨0⟩) ∧
    (validatedCounters (freshClient ⟨1⟩ ⟨10⟩ fun _ => none).commands).Pairwise (· < ·) ∧
    (∀ k ∈ validatedCounters (freshClient ⟨1⟩ ⟨10⟩ fun _ => none).commands,
      k < (freshClient ⟨1⟩ ⟨10⟩ fun _ => none).transferActor.nextDebit) ∧
    (validatedCounters (runClient (replicaNetwork ⟨1⟩ ⟨0⟩) (fun _ _ => .ok none)
      [.sendMoney ⟨2⟩ ⟨3⟩, .sequence (.storePrivateSequence none ⟨7⟩ 0 ⟨1⟩ []), .sendMoney ⟨2⟩ ⟨3⟩]
      (freshClient ⟨1⟩ ⟨10⟩ fun _ => none)).commands).Pairwise (· < ·) :=
  ⟨historyKeepsDebits_replicaNetwork, List.Pairwise.nil, nofun,
    sequential_calls_increasing_counters _ _ historyKeepsDebits_replicaNetwork _ _
      List.Pairwise.nil nofun⟩

/- Two sends that overlap in `SendMoneyInterleaving` can both take counter 0; made one after
the other with a store between them, each call takes the next counter. -/
example :
    validatedCounters (runClient (replicaNetwork ⟨1⟩ ⟨0⟩) (fun _ _ => .ok none)
      [.sendMoney ⟨2⟩ ⟨3⟩, .sequence (.storePrivateSequence none ⟨7⟩ 0 ⟨1⟩ []), .sendMoney ⟨3⟩ ⟨4⟩]
      (freshClient ⟨1⟩ ⟨10⟩ fun _ => none)).commands = [0, 1, 2] := rfl

/-! ### No write is sent unpaid -/

/-- Every write in the record was sent right after the validation of a payment of the write
price to the payee. -/
def WritesPaid (price : Money) (payee : PublicKey) (commands : List Cmd) : Prop :=
  ∀ i write proof, commands[i]? = some (wrapSeqWrite write proof) →
    ∃ j t, i = j + 1 ∧ commands[j]? = some (.transfer (.validateTransfer t)) ∧
      t.transfer.amount = price ∧ t.transfer.recipient = payee

/-- Adding the block of one call keeps every write of the record paid. -/
theorem WritesPaid.append {commands block : List Cmd}
    (h : WritesPaid net.writeCost net.payee commands) (hb : CommandBlock net block) :
    WritesPaid net.writeCost net.payee (commands ++ block) := by
  intro i write proof hi
  by_cases hOld : i < commands.length
  · rw [List.getElem?_append_left hOld] at hi
    obtain ⟨j, t, rfl, hj, hAmount, hPayee⟩ := h i write proof hi
    exact ⟨j, t, rfl, by rw [List.getElem?_append_left (by omega), hj], hAmount, hPayee⟩
  · obtain ⟨k, rfl⟩ : ∃ k, i = commands.length + k := ⟨i - commands.length, by omega⟩
    rw [List.getElem?_append_right (by omega), Nat.add_sub_cancel_left] at hi
    cases hb with
    | empty => simp at hi
    | validation t => rcases k with _ | _ | k <;> simp [wrapSeqWrite] at hi
    | registration t p => rcases k with _ | _ | k <;> simp [wrapSeqWrite] at hi
    | write t w p hAmount hPayee _ =>
        rcases k with _ | _ | k
        · simp [wrapSeqWrite] at hi
        · refine ⟨commands.length, t, rfl, ?_, hAmount, hPayee⟩
          rw [List.getElem?_append_right (Nat.le_refl _), Nat.sub_self]
          rfl
        · simp at hi

theorem writesPaid_runClient :
    ∀ (calls : List ClientCall) (c : Client N), WritesPaid net.writeCost net.payee c.commands →
      WritesPaid net.writeCost net.payee (runClient net receive calls c).commands
  | [], _, h => h
  | call :: calls, c, h => by
      obtain ⟨block, hc, hb⟩ := ClientCall.record net receive call c
      exact writesPaid_runClient calls _ (hc ▸ h.append net hb)

/-- No write reaches the network unpaid: along any run, every write on record follows the
validation of a payment of the write price to the payee. -/
theorem sequential_calls_writes_paid (calls : List ClientCall) (c : Client N)
    (hStart : WritesPaid net.writeCost net.payee c.commands) :
    ∀ i write proof, (runClient net receive calls c).commands[i]? = some (wrapSeqWrite write proof) →
      ∃ j t, i = j + 1 ∧
        (runClient net receive calls c).commands[j]? = some (.transfer (.validateTransfer t)) ∧
        t.transfer.amount = net.writeCost ∧ t.transfer.recipient = net.payee :=
  writesPaid_runClient net receive calls c hStart

theorem sequential_calls_writes_paid_send_store_append :
    WritesPaid (replicaNetwork ⟨1⟩ ⟨0⟩).writeCost (replicaNetwork ⟨1⟩ ⟨0⟩).payee
      (freshClient ⟨1⟩ ⟨10⟩ fun _ => none).commands ∧
    ∀ i write proof, (runClient (replicaNetwork ⟨1⟩ ⟨0⟩) (fun _ _ => .ok none)
        [.sendMoney ⟨2⟩ ⟨3⟩, .sequence (.storePrivateSequence none ⟨7⟩ 0 ⟨1⟩ []),
          .sequence (.appendToSequence ⟨.priv, ⟨7⟩, 0⟩ [5])]
        (freshClient ⟨1⟩ ⟨10⟩ fun _ => none)).commands[i]? = some (wrapSeqWrite write proof) →
      ∃ j t, i = j + 1 ∧
        (runClient (replicaNetwork ⟨1⟩ ⟨0⟩) (fun _ _ => .ok none)
          [.sendMoney ⟨2⟩ ⟨3⟩, .sequence (.storePrivateSequence none ⟨7⟩ 0 ⟨1⟩ []),
            .sequence (.appendToSequence ⟨.priv, ⟨7⟩, 0⟩ [5])]
          (freshClient ⟨1⟩ ⟨10⟩ fun _ => none)).commands[j]? =
            some (.transfer (.validateTransfer t)) ∧
        t.transfer.amount = (replicaNetwork ⟨1⟩ ⟨0⟩).writeCost ∧
        t.transfer.recipient = (replicaNetwork ⟨1⟩ ⟨0⟩).payee :=
  ⟨(fun _ _ _ h => by cases h),
    sequential_calls_writes_paid _ _ _ _ (fun _ _ _ h => by cases h)⟩

end SafeCore
