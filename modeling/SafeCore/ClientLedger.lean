import SafeCore.ClientRuns
import Mathlib

/-!
The balance and the debit counter along runs of the client's calls made one after another:
each paid write and returned send moves them once, a transfer left pending is never resumed,
and the transfers registered keep the order in which they were sent for validation.
-/

namespace SafeCore

variable {N : Type} (net : Network N) (receive : Receive)

/-- `get_history` brings in no transfer: balance, counter and pending transfer come back as
they were. -/
def HistorySynced : Prop :=
  ∀ n a a', net.history n a = .ok a' →
    a'.balance = a.balance ∧ a'.nextDebit = a.nextDebit ∧ a'.pending = a.pending

/-! ### What a call debits -/

/-- What a call debits: the write price for a write that paid, the amount for a send that
returned, nothing for any other call. -/
def ClientCall.debit : ClientCall → EStateM.Result Failure (Client N) Unit → Option Money
  | sequence call, r => if call.paid r then some net.writeCost else none
  | sendMoney _ amount, r => if returned r then some amount else none
  | _, _ => none

/-- The amounts debited along a run, in order. -/
def debits : List ClientCall → Client N → List Money
  | [], _ => []
  | call :: calls, c =>
      (call.debit net (call.run net receive c)).toList ++
        debits calls (stateAfter (call.run net receive c))

/-- From `a` to `a'` the balance and the counter moved by the debit `d`: not at all, or the
amount taken off and the counter advanced once. -/
def Debited (a a' : TransferActor) : Option Money → Prop
  | none => a'.balance = a.balance ∧ a'.nextDebit = a.nextDebit
  | some m => a.balance.checkedSub m = some a'.balance ∧ a'.nextDebit = a.nextDebit + 1

theorem Debited.toNat {a a' : TransferActor} : ∀ {d : Option Money}, Debited a a' d →
    a'.balance.nanos.toNat + (d.toList.map (·.nanos.toNat)).sum = a.balance.nanos.toNat ∧
      a'.nextDebit = a.nextDebit + d.toList.length
  | none, ⟨hb, hn⟩ => ⟨by simp [hb], hn⟩
  | some _, ⟨hb, hn⟩ => ⟨by simpa using Money.checkedSub_toNat hb, hn⟩

theorem WriteCharge.toDebited {price : Money} {payee : PublicKey} {paid : Bool}
    {l l' : TransferActor × List Nat} (h : WriteCharge price payee paid l l') :
    Debited l.1 l'.1 (if paid then some price else none) := by
  cases h with
  | unchanged => exact ⟨rfl, rfl⟩
  | leftPending => exact ⟨rfl, rfl⟩
  | debited _ _ hb => exact ⟨hb, rfl⟩

theorem SendOutcome.debited {net : Network N} (hHist : HistorySynced net) {c c' : Client N}
    {recipient : PublicKey} {amount : Money} {b : Bool}
    (h : SendOutcome net c recipient amount b c') :
    Debited c.transferActor c'.transferActor (if b then some amount else none) := by
  cases h with
  | refused _ ha =>
      rcases ha with ha | ha
      · rw [ha]
        exact ⟨rfl, rfl⟩
      · obtain ⟨hb, hn, -⟩ := hHist _ _ _ ha
        exact ⟨hb, hn⟩
  | leftPending hh _ ha _ =>
      obtain ⟨hb, hn, -⟩ := hHist _ _ _ hh
      rw [ha]
      exact ⟨hb, hn⟩
  | registered hh _ hBalance _ hNext _ =>
      obtain ⟨hb, hn, -⟩ := hHist _ _ _ hh
      exact ⟨hb ▸ hBalance, hn ▸ hNext⟩

/-- What any call debits. -/
theorem ClientCall.debited (hHist : HistorySynced net) :
    ∀ (call : ClientCall) (c : Client N),
      Debited c.transferActor (stateAfter (call.run net receive c)).transferActor
        (call.debit net (call.run net receive c))
  | sequence call, c => (Call.writeCharge_run net call c).toDebited
  | read r, c => by
      rw [run, (r.frame net c).1]
      exact ⟨rfl, rfl⟩
  | sendMoney recipient amount, c => (sendMoney_outcome net recipient amount c).debited hHist
  | handleValidationEvent event, c => by
      obtain ⟨a, h, -, hn, hb⟩ := handleValidationEvent_frame receive event c
      rw [run, stateAfter_discard, h]
      exact ⟨hb, hn⟩
  | getBalanceFromNetwork publicKey, c => by
      have ha :=
        preserves_getBalanceFromNetwork net (·.transferActor) (fun _ _ => rfl) publicKey c
      rw [run, stateAfter_discard]
      exact ⟨congrArg (·.balance) ha, congrArg (·.nextDebit) ha⟩
  | getLocalBalance, c => ⟨rfl, rfl⟩

/-- Along any run in which `get_history` brings in no transfer, the balance falls by exactly the
amounts `debits` lists and the debit counter advances once for each. -/
theorem sequential_calls_debit_accounting (hHist : HistorySynced net) (calls : List ClientCall)
    (c : Client N) :
    (runClient net receive calls c).transferActor.balance.nanos.toNat +
        ((debits net receive calls c).map (·.nanos.toNat)).sum =
      c.transferActor.balance.nanos.toNat ∧
    (runClient net receive calls c).transferActor.nextDebit =
      c.transferActor.nextDebit + (debits net receive calls c).length := by
  induction calls generalizing c with
  | nil => exact ⟨rfl, rfl⟩
  | cons call calls ih =>
      obtain ⟨hb, hn⟩ := (ClientCall.debited net receive hHist call c).toNat
      obtain ⟨hb', hn'⟩ := ih (stateAfter (call.run net receive c))
      simp only [runClient, debits, List.map_append, List.sum_append, List.length_append]
      omega

/-- The replica network's history finds nothing new. -/
theorem historySynced_replicaNetwork {writeCost : Money} {payee : PublicKey} :
    HistorySynced (replicaNetwork writeCost payee) := fun _ _ _ h => by
  cases h
  exact ⟨rfl, rfl, rfl⟩

theorem sequential_calls_debit_accounting_send_store_send :
    HistorySynced (replicaNetwork ⟨1⟩ ⟨0⟩) ∧
    (runClient (replicaNetwork ⟨1⟩ ⟨0⟩) (fun _ _ => .ok none)
        [.sendMoney ⟨2⟩ ⟨3⟩, .sequence (.storePrivateSequence none ⟨7⟩ 0 ⟨1⟩ []), .sendMoney ⟨2⟩ ⟨3⟩]
        (freshClient ⟨1⟩ ⟨10⟩ fun _ => none)).transferActor.balance.nanos.toNat +
      ((debits (replicaNetwork ⟨1⟩ ⟨0⟩) (fun _ _ => .ok none)
        [.sendMoney ⟨2⟩ ⟨3⟩, .sequence (.storePrivateSequence none ⟨7⟩ 0 ⟨1⟩ []), .sendMoney ⟨2⟩ ⟨3⟩]
        (freshClient ⟨1⟩ ⟨10⟩ fun _ => none)).map (·.nanos.toNat)).sum =
      (freshClient ⟨1⟩ ⟨10⟩ fun _ => none).transferActor.balance.nanos.toNat ∧
    (runClient (replicaNetwork ⟨1⟩ ⟨0⟩) (fun _ _ => .ok none)
        [.sendMoney ⟨2⟩ ⟨3⟩, .sequence (.storePrivateSequence none ⟨7⟩ 0 ⟨1⟩ []), .sendMoney ⟨2⟩ ⟨3⟩]
        (freshClient ⟨1⟩ ⟨10⟩ fun _ => none)).transferActor.nextDebit =
      (freshClient ⟨1⟩ ⟨10⟩ fun _ => none).transferActor.nextDebit +
        (debits (replicaNetwork ⟨1⟩ ⟨0⟩) (fun _ _ => .ok none)
          [.sendMoney ⟨2⟩ ⟨3⟩, .sequence (.storePrivateSequence none ⟨7⟩ 0 ⟨1⟩ []), .sendMoney ⟨2⟩ ⟨3⟩]
          (freshClient ⟨1⟩ ⟨10⟩ fun _ => none)).length :=
  ⟨historySynced_replicaNetwork,
    sequential_calls_debit_accounting _ _ historySynced_replicaNetwork _ _⟩

/- Two sends of 3 with a store at the write price 1 between them, from a balance of 10. -/
example :
    debits (replicaNetwork ⟨1⟩ ⟨0⟩) (fun _ _ => .ok none)
        [.sendMoney ⟨2⟩ ⟨3⟩, .sequence (.storePrivateSequence none ⟨7⟩ 0 ⟨1⟩ []), .sendMoney ⟨2⟩ ⟨3⟩]
        (freshClient ⟨1⟩ ⟨10⟩ fun _ => none) = [⟨3⟩, ⟨1⟩, ⟨3⟩] := rfl

/-! ### Registered transfers in counter order -/

/-- The validators sign what they are sent: validating a transfer ends, if at all, with a proof
of that transfer. -/
def ValidatesSent : Prop :=
  ∀ t proof, Validated net t proof → proof.signedTransfer = t

/-- The counter of the transfer a command registers: a registration's, or that of the payment a
write carries. -/
def registeredCounter : Cmd → Option Nat
  | .transfer (.registerTransfer proof) => some proof.signedTransfer.id.counter
  | .data _ payment => some payment.signedTransfer.id.counter
  | _ => none

/-- The counters of the transfers registered, in the order sent. -/
def registeredCounters (commands : List Cmd) : List Nat := commands.filterMap registeredCounter

theorem registeredCounters_append (l₁ l₂ : List Cmd) :
    registeredCounters (l₁ ++ l₂) = registeredCounters l₁ ++ registeredCounters l₂ :=
  List.filterMap_append ..

/-- What one call registers it has just sent for validation. -/
theorem CommandBlock.registered_sublist {net : Network N} (hVal : ValidatesSent net)
    {block : List Cmd} (hb : CommandBlock net block) :
    (registeredCounters block).Sublist (validatedCounters block) := by
  cases hb with
  | empty => exact List.Sublist.slnil
  | validation t => exact List.nil_sublist _
  | registration t proof hv =>
      simp [registeredCounters, registeredCounter, validatedCounters, hVal t proof hv]
  | write t write proof _ _ hv =>
      simp [registeredCounters, registeredCounter, validatedCounters, wrapSeqWrite, hVal t proof hv]

theorem registered_sublist_runClient (hVal : ValidatesSent net) :
    ∀ (calls : List ClientCall) (c : Client N),
      (registeredCounters c.commands).Sublist (validatedCounters c.commands) →
      (registeredCounters (runClient net receive calls c).commands).Sublist
        (validatedCounters (runClient net receive calls c).commands)
  | [], _, h => h
  | call :: calls, c, h => by
      obtain ⟨block, hc, hb⟩ := ClientCall.record net receive call c
      refine registered_sublist_runClient hVal calls _ ?_
      rw [hc, registeredCounters_append, validatedCounters_append]
      exact h.append (hb.registered_sublist hVal)

/-- When the validators sign what they are sent, the transfers a run registers were sent for
validation in the same order, so their debit counters increase strictly. -/
theorem registered_transfers_in_counter_order (hHist : HistoryKeepsDebits net)
    (hVal : ValidatesSent net) (calls : List ClientCall) (c : Client N)
    (hIncreasing : (validatedCounters c.commands).Pairwise (· < ·))
    (hBelow : ∀ k ∈ validatedCounters c.commands, k < c.transferActor.nextDebit)
    (hRegistered : (registeredCounters c.commands).Sublist (validatedCounters c.commands)) :
    (registeredCounters (runClient net receive calls c).commands).Pairwise (· < ·) :=
  (debitLedger_runClient net receive hHist calls c
      ⟨hIncreasing, fun k hk => .inl (hBelow k hk)⟩).increasing.sublist
    (registered_sublist_runClient net receive hVal calls c hRegistered)

/-- The replica network validates a transfer with the proof of that transfer. -/
theorem validatesSent_replicaNetwork {writeCost : Money} {payee : PublicKey} :
    ValidatesSent (replicaNetwork writeCost payee) := fun _ _ ⟨_, h⟩ => by
  cases h
  rfl

theorem registered_transfers_in_counter_order_send_store_send :
    HistoryKeepsDebits (replicaNetwork ⟨1⟩ ⟨0⟩) ∧ ValidatesSent (replicaNetwork ⟨1⟩ ⟨0⟩) ∧
    (validatedCounters (freshClient ⟨1⟩ ⟨10⟩ fun _ => none).commands).Pairwise (· < ·) ∧
    (∀ k ∈ validatedCounters (freshClient ⟨1⟩ ⟨10⟩ fun _ => none).commands,
      k < (freshClient ⟨1⟩ ⟨10⟩ fun _ => none).transferActor.nextDebit) ∧
    (registeredCounters (freshClient ⟨1⟩ ⟨10⟩ fun _ => none).commands).Sublist
      (validatedCounters (freshClient ⟨1⟩ ⟨10⟩ fun _ => none).commands) ∧
    (registeredCounters (runClient (replicaNetwork ⟨1⟩ ⟨0⟩) (fun _ _ => .ok none)
      [.sendMoney ⟨2⟩ ⟨3⟩, .sequence (.storePrivateSequence none ⟨7⟩ 0 ⟨1⟩ []), .sendMoney ⟨2⟩ ⟨3⟩]
      (freshClient ⟨1⟩ ⟨10⟩ fun _ => none)).commands).Pairwise (· < ·) :=
  ⟨historyKeepsDebits_replicaNetwork, validatesSent_replicaNetwork, List.Pairwise.nil, nofun,
    List.Sublist.slnil, registered_transfers_in_counter_order _ _ historyKeepsDebits_replicaNetwork
      validatesSent_replicaNetwork _ _ List.Pairwise.nil nofun List.Sublist.slnil⟩

/- The send's registration, the store's payment and the second send's registration. -/
example :
    registeredCounters (runClient (replicaNetwork ⟨1⟩ ⟨0⟩) (fun _ _ => .ok none)
      [.sendMoney ⟨2⟩ ⟨3⟩, .sequence (.storePrivateSequence none ⟨7⟩ 0 ⟨1⟩ []), .sendMoney ⟨2⟩ ⟨3⟩]
      (freshClient ⟨1⟩ ⟨10⟩ fun _ => none)).commands = [0, 1, 2] := rfl

/-! ### A pending transfer blocks the client -/

/-- A send refuses to start while a transfer is pending that `get_history` does not clear. -/
theorem sendMoney_blocked (hHist : HistoryKeepsDebits net) (recipient : PublicKey)
    (amount : Money) {c : Client N} (hp : c.transferActor.pending ≠ none) :
    (stateAfter (sendMoney net recipient amount c)).commands = c.commands ∧
    (stateAfter (sendMoney net recipient amount c)).transferActor.pending = c.transferActor.pending ∧
    (stateAfter (sendMoney net recipient amount c)).transferActor.nextDebit =
      c.transferActor.nextDebit := by
  have h := sendMoney_outcome net recipient amount c
  generalize returned (sendMoney net recipient amount c) = b at h
  generalize stateAfter (sendMoney net recipient amount c) = c' at h ⊢
  cases h with
  | refused hc ha =>
      rcases ha with ha | ha
      · rw [ha]
        exact ⟨hc, rfl, rfl⟩
      · obtain ⟨hn, hp'⟩ := hHist _ _ _ ha
        exact ⟨hc, hp', hn⟩
  | leftPending hh hIdle _ _ => exact absurd ((hHist _ _ _ hh).2.symm.trans hIdle) hp
  | registered hh hIdle _ _ _ _ => exact absurd ((hHist _ _ _ hh).2.symm.trans hIdle) hp

/-- What any call does while a transfer is pending that `get_history` does not clear: it sends
nothing, and the pending transfer and the counter stay as they were. -/
theorem ClientCall.blocked (hHist : HistoryKeepsDebits net) :
    ∀ (call : ClientCall) {c : Client N}, c.transferActor.pending ≠ none →
      (stateAfter (call.run net receive c)).commands = c.commands ∧
      (stateAfter (call.run net receive c)).transferActor.pending = c.transferActor.pending ∧
      (stateAfter (call.run net receive c)).transferActor.nextDebit = c.transferActor.nextDebit
  | sequence call, _, hp => by
      obtain ⟨-, ha, hc⟩ := Call.run_blocked net call hp
      exact ⟨hc, congrArg (·.pending) ha, congrArg (·.nextDebit) ha⟩
  | read r, c, _ => by
      obtain ⟨ha, hc⟩ := r.frame net c
      rw [run, ha, hc]
      exact ⟨rfl, rfl, rfl⟩
  | sendMoney recipient amount, _, hp => sendMoney_blocked net hHist recipient amount hp
  | handleValidationEvent event, c, _ => by
      obtain ⟨a, h, hp, hn, -⟩ := handleValidationEvent_frame receive event c
      rw [run, stateAfter_discard, h]
      exact ⟨rfl, hp, hn⟩
  | getBalanceFromNetwork publicKey, c, _ => by
      have ha := preserves_getBalanceFromNetwork net (·.transferActor) (fun _ _ => rfl) publicKey c
      have hc := preserves_getBalanceFromNetwork net (·.commands) (fun _ _ => rfl) publicKey c
      rw [run, stateAfter_discard]
      exact ⟨hc, congrArg (·.pending) ha, congrArg (·.nextDebit) ha⟩
  | getLocalBalance, _, _ => ⟨rfl, rfl, rfl⟩

/- The retried send is refused with the actor's error, before anything is sent. -/
example :
    sendMoney (replicaNetwork ⟨1⟩ ⟨0⟩) ⟨2⟩ ⟨3⟩
        { freshClient ⟨1⟩ ⟨10⟩ (fun _ => none) with
          transferActor := ⟨⟨1⟩, ⟨10⟩, 0, some ⟨⟨⟨⟨1⟩, 0⟩, ⟨2⟩, ⟨3⟩⟩⟩, []⟩ } =
      .error (.error (.dataError (.transfers "Current pending transfer has not been completed")))
        { freshClient ⟨1⟩ ⟨10⟩ (fun _ => none) with
          transferActor := ⟨⟨1⟩, ⟨10⟩, 0, some ⟨⟨⟨⟨1⟩, 0⟩, ⟨2⟩, ⟨3⟩⟩⟩, []⟩ } :=
  rfl

end SafeCore
