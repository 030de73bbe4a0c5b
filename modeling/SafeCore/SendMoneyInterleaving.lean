import SafeCore.SendMoney
import Mathlib.Data.List.Nodup

/-!
Concurrent `send_money` calls on clients that share one transfer actor, one step per lock or
round trip. `transfer()` and `apply(TransferInitiated)` take the lock separately, so two tasks can
build their transfers on one debit counter; schedules that keep the two locks together do not.
-/

namespace SafeCore

/-- Where a `send_money` call is, between two of its steps. -/
inductive SendPhase
  | start
  | transfer
  | initiate (signedTransfer : SignedTransfer)
  | validate (signedTransfer : SignedTransfer)
  | register (debitProof : DebitAgreementProof)
  | commit (debitProof : DebitAgreementProof)
  | done
  | failed (error : Failure)

structure SendTask where
  recipient : PublicKey
  amount : Money
  phase : SendPhase

variable {N : Type} (net : Network N)

/-- The task's next step: one acquisition of the actor's lock or one round trip. -/
def SendTask.step (t : SendTask) : ClientM N SendPhase :=
  match t.phase with
  | .start => do getHistory net; pure .transfer
  | .transfer => do pure (.initiate (← sendMoneyTransfer t.recipient t.amount))
  | .initiate signedTransfer => do
      sendMoneyInitiate signedTransfer
      pure (.validate signedTransfer)
  | .validate signedTransfer => do pure (.register (← sendMoneyValidate net signedTransfer))
  | .register debitProof => do
      sendMoneyRegister net debitProof
      pure (.commit debitProof)
  | .commit debitProof => do
      registerDebit debitProof
      pure .done
  | .done => pure .done
  | .failed error => pure (.failed error)

/-- The task after its step, and the shared client; a failed step ends the task. -/
def SendTask.advance (t : SendTask) (c : Client N) : SendTask × Client N :=
  match t.step net c with
  | .ok phase c' => ({ t with phase }, c')
  | .error e c' => ({ t with phase := .failed e }, c')

/-- One entry of a schedule: the task at index `i` takes its step. -/
def interleaveStep (i : Nat) (s : List SendTask × Client N) : List SendTask × Client N :=
  match s.1[i]? with
  | some t => ((s.1.set i (t.advance net s.2).1), (t.advance net s.2).2)
  | none => s

def interleave (schedule : List Nat) (s : List SendTask × Client N) : List SendTask × Client N :=
  schedule.foldl (fun s i => interleaveStep net i s) s

theorem advance_fst (t : SendTask) (c : Client N) :
    (t.advance net c).1 = { t with phase := (t.advance net c).1.phase } := by
  unfold SendTask.advance
  split <;> rfl

/-! ### Debit counters -/

/-- The debit counters of the transfers sent for validation, in the order sent. -/
def validatedCounters (commands : List Cmd) : List Nat :=
  commands.filterMap fun
    | .transfer (.validateTransfer signedTransfer) => some signedTransfer.id.counter
    | _ => none

/-- Two tasks whose locks for `transfer()` come before either lock for
`apply(TransferInitiated)`: both transfers are built on debit counter 0, and both are sent for
validation. -/
theorem split_locks_reuse_debit_counter :
    (interleave (replicaNetwork ⟨1⟩ ⟨0⟩) [0, 1, 0, 1, 0, 1, 0, 1]
        ([⟨⟨2⟩, ⟨3⟩, .start⟩, ⟨⟨3⟩, ⟨4⟩, .start⟩], freshClient ⟨1⟩ ⟨10⟩ fun _ => none)).2.commands =
      [.transfer (.validateTransfer ⟨⟨⟨⟨1⟩, 0⟩, ⟨2⟩, ⟨3⟩⟩⟩),
        .transfer (.validateTransfer ⟨⟨⟨⟨1⟩, 0⟩, ⟨3⟩, ⟨4⟩⟩⟩)] ∧
    validatedCounters (interleave (replicaNetwork ⟨1⟩ ⟨0⟩) [0, 1, 0, 1, 0, 1, 0, 1]
        ([⟨⟨2⟩, ⟨3⟩, .start⟩, ⟨⟨3⟩, ⟨4⟩, .start⟩], freshClient ⟨1⟩ ⟨10⟩ fun _ => none)).2.commands =
      [0, 0] :=
  ⟨rfl, rfl⟩

/-- What the counters depend on: the pending transfer, the next counter, the counters sent. -/
structure DebitView where
  pending : Option SignedTransfer
  nextDebit : Nat
  sent : List Nat

def debitView (c : Client N) : DebitView :=
  ⟨c.transferActor.pending, c.transferActor.nextDebit, validatedCounters c.commands⟩

/-- What one step of a task can do to its phase and to the debit view. -/
inductive SendMove : SendPhase → DebitView → SendPhase → DebitView → Prop
  | history {v : DebitView} : SendMove .start v .transfer v
  | transfer {v : DebitView} {st : SignedTransfer} :
      v.pending = none → st.id.counter = v.nextDebit → SendMove .transfer v (.initiate st) v
  | initiate {v : DebitView} {st : SignedTransfer} :
      SendMove (.initiate st) v (.validate st) { v with pending := some st }
  | validate {v : DebitView} {st : SignedTransfer} {phase : SendPhase} :
      (∃ debitProof, phase = .register debitProof) ∨ (∃ e, phase = .failed e) →
      SendMove (.validate st) v phase { v with sent := v.sent ++ [st.id.counter] }
  | register {v : DebitView} {debitProof : DebitAgreementProof} :
      SendMove (.register debitProof) v (.commit debitProof) v
  | commit {v : DebitView} {debitProof : DebitAgreementProof} :
      SendMove (.commit debitProof) v .done { v with pending := none, nextDebit := v.nextDebit + 1 }
  | fail {phase : SendPhase} {v : DebitView} {e : Failure} : SendMove phase v (.failed e) v
  | idle {phase : SendPhase} {v : DebitView} : SendMove phase v phase v

/-- `get_history` brings in credits and validations but no debit: it keeps the counter and the
pending transfer. -/
def HistoryKeepsDebits : Prop :=
  ∀ n a a', net.history n a = .ok a' → a'.nextDebit = a.nextDebit ∧ a'.pending = a.pending

theorem validatedCounters_append_validate (commands : List Cmd) (st : SignedTransfer) :
    validatedCounters (commands ++ [.transfer (.validateTransfer st)]) =
      validatedCounters commands ++ [st.id.counter] := by
  simp [validatedCounters]

theorem validatedCounters_append_register (commands : List Cmd) (p : DebitAgreementProof) :
    validatedCounters (commands ++ [.transfer (.registerTransfer p)]) =
      validatedCounters commands := by
  simp [validatedCounters]

/-- What one step can do, read off the step's spec lemmas. -/
theorem advance_move (hHist : HistoryKeepsDebits net) (t : SendTask) (c : Client N) :
    SendMove t.phase (debitView c) (t.advance net c).1.phase (debitView (t.advance net c).2) := by
  rcases t with ⟨recipient, amount, _ | _ | st | st | p | p | _ | e⟩ <;>
    simp only [SendTask.advance, SendTask.step]
  case start =>
    rw [bind_apply, getHistory_apply]
    cases hh : net.history c.network c.transferActor with
    | error e => exact .fail
    | ok a =>
        obtain ⟨hn, hp⟩ := hHist _ _ _ hh
        have hView : debitView { c with transferActor := a } = debitView c := by
          simp only [debitView, hn, hp]
        simp only [pure_apply]
        rw [hView]
        exact .history
  case transfer =>
    rw [bind_apply, sendMoneyTransfer_apply]
    cases hT : c.transferActor.transfer amount recipient with
    | error e => exact .fail
    | ok r =>
        cases r with
        | none => exact .fail
        | some i =>
            obtain ⟨hp, -, hi⟩ := TransferActor.transfer_ok hT
            cases hi
            exact .transfer hp rfl
  case initiate =>
    rw [bind_apply, sendMoneyInitiate_apply]
    exact .initiate
  case validate =>
    have hActor := preserves_awaitValidation net (·.transferActor) (fun _ _ _ => rfl)
      (.transfer (.validateTransfer st)) st.id c
    have hSent := commands_awaitValidation net (.transfer (.validateTransfer st)) st.id c
    have hView : debitView (stateAfter (sendMoneyValidate net st c)) =
        { debitView c with sent := (debitView c).sent ++ [st.id.counter] } := by
      simp only [debitView, sendMoneyValidate] at hActor hSent ⊢
      rw [hActor, hSent, validatedCounters_append_validate]
    rw [bind_apply]
    cases h : sendMoneyValidate net st c <;>
      simp only [h, stateAfter_ok, stateAfter_error, pure_apply] at hView ⊢ <;> rw [hView]
    exacts [.validate (.inl ⟨_, rfl⟩), .validate (.inr ⟨_, rfl⟩)]
  case register =>
    have hActor := preserves_sendCmd net (·.transferActor) (fun _ _ _ => rfl)
      (.transfer (.registerTransfer p)) c
    have hSent := commands_sendCmd net (.transfer (.registerTransfer p)) c
    have hView : debitView (stateAfter (sendMoneyRegister net p c)) = debitView c := by
      simp only [debitView, sendMoneyRegister] at hActor hSent ⊢
      rw [hActor, hSent, validatedCounters_append_register]
    rw [bind_apply]
    cases h : sendMoneyRegister net p c <;>
      simp only [h, stateAfter_ok, stateAfter_error, pure_apply] at hView ⊢ <;> rw [hView]
    exacts [.register, .fail]
  case commit =>
    rw [bind_apply, registerDebit_apply]
    cases hr : c.transferActor.register p with
    | error e => exact .fail
    | ok r =>
        cases r with
        | none => exact .fail
        | some ev =>
            dsimp only
            cases ha : c.transferActor.apply (.transferRegistrationSent ev) with
            | error e => exact .fail
            | ok a =>
                obtain ⟨-, hn, hp⟩ := TransferActor.apply_transferRegistrationSent_ok ha
                have hView : debitView { c with transferActor := a } =
                    { debitView c with pending := none, nextDebit := (debitView c).nextDebit + 1 } := by
                  simp only [debitView, hn, hp]
                simp only [pure_apply]
                rw [hView]
                exact .commit
  all_goals exact .idle

/-! ### Atomic schedules keep the counters distinct -/

/-- What a phase requires of the view. -/
def SendPhase.Consistent (v : DebitView) : SendPhase → Prop
  | .initiate st => v.pending = none ∧ st.id.counter = v.nextDebit
  | .validate st => v.pending = some st ∧ st.id.counter = v.nextDebit ∧ v.nextDebit ∉ v.sent
  | .register _ | .commit _ => v.pending ≠ none
  | _ => True

/-- The phases in which a task holds the ledger: from its transfer to its registration. -/
def SendPhase.inFlight : SendPhase → Bool
  | .initiate _ | .validate _ | .register _ | .commit _ => true
  | _ => false

def SendPhase.initiating : SendPhase → Bool
  | .initiate _ => true
  | _ => false

/-- Task `i` may move: no other task has built a transfer it has not yet marked initiated. -/
def AtomicStep (tasks : List SendTask) (i : Nat) : Prop :=
  ∀ j, (h : j < tasks.length) → tasks[j].phase.initiating = true → j = i

/-- A schedule in which no task moves between another's locks for `transfer()` and
`apply(TransferInitiated)`. -/
def Atomic : List Nat → List SendTask × Client N → Prop
  | [], _ => True
  | i :: schedule, s => AtomicStep s.1 i ∧ Atomic schedule (interleaveStep net i s)

instance AtomicStep.decidable (tasks : List SendTask) (i : Nat) : Decidable (AtomicStep tasks i) :=
  inferInstanceAs
    (Decidable (∀ j, (h : j < tasks.length) → tasks[j].phase.initiating = true → j = i))

instance Atomic.decidable :
    (schedule : List Nat) → (s : List SendTask × Client N) → Decidable (Atomic net schedule s)
  | [], _ => isTrue trivial
  | i :: schedule, s =>
      haveI := Atomic.decidable schedule (interleaveStep net i s)
      inferInstanceAs (Decidable (AtomicStep s.1 i ∧ Atomic net schedule (interleaveStep net i s)))

/-- The invariant: counters sent are distinct, none above the next counter, and only while a
transfer is pending at it; each task's phase agrees with the view; at most one task holds the
ledger. -/
structure DistinctDebits (tasks : List SendTask) (v : DebitView) : Prop where
  nodup : v.sent.Nodup
  bounded : ∀ k ∈ v.sent, k < v.nextDebit ∨ (k = v.nextDebit ∧ v.pending ≠ none)
  consistent : ∀ (j : Nat) (t : SendTask), tasks[j]? = some t → t.phase.Consistent v
  exclusive : ∀ (j k : Nat) (tj tk : SendTask), tasks[j]? = some tj → tasks[k]? = some tk →
    tj.phase.inFlight = true → tk.phase.inFlight = true → j = k

theorem consistent_of_idle {p : SendPhase} (h : p.inFlight = false) (v : DebitView) :
    p.Consistent v := by
  cases p <;> simp_all [SendPhase.inFlight, SendPhase.Consistent]

theorem getElem?_set_some {tasks : List SendTask} {i j : Nat} {t tj : SendTask}
    (h : (tasks.set i t)[j]? = some tj) : (j = i ∧ tj = t) ∨ (j ≠ i ∧ tasks[j]? = some tj) := by
  rw [List.getElem?_set] at h
  split_ifs at h with hij
  · cases h; exact .inl ⟨hij.symm, rfl⟩
  · exact .inr ⟨Ne.symm hij, h⟩

section Invariant

variable {tasks : List SendTask} {v v' : DebitView} {i : Nat} {t : SendTask}

/-- The other tasks are idle while task `i` holds the ledger. -/
theorem DistinctDebits.others_idle (hInv : DistinctDebits tasks v) (hti : tasks[i]? = some t)
    (ht : t.phase.inFlight = true) {j : Nat} {tj : SendTask} (hj : j ≠ i)
    (htj : tasks[j]? = some tj) : tj.phase.inFlight = false :=
  Bool.eq_false_iff.2 fun h => hj (hInv.exclusive j i tj t htj hti h ht)

/-- Rebuilding the invariant after task `i` moves to `t'`, from what the move keeps. -/
theorem DistinctDebits.set (hInv : DistinctDebits tasks v) {t' : SendTask}
    (hNodup : v'.sent.Nodup)
    (hBounded : ∀ k ∈ v'.sent, k < v'.nextDebit ∨ (k = v'.nextDebit ∧ v'.pending ≠ none))
    (hNew : t'.phase.Consistent v')
    (hOthers : ∀ j tj, j ≠ i → tasks[j]? = some tj → tj.phase.Consistent v')
    (hAlone : t'.phase.inFlight = true →
      ∀ j tj, j ≠ i → tasks[j]? = some tj → tj.phase.inFlight = false) :
    DistinctDebits (tasks.set i t') v' := by
  refine ⟨hNodup, hBounded, fun j tj h => ?_, fun j k tj tk hj hk hfj hfk => ?_⟩
  · rcases getElem?_set_some h with ⟨-, rfl⟩ | ⟨hj, h⟩
    · exact hNew
    · exact hOthers j tj hj h
  · rcases getElem?_set_some hj with ⟨rfl, rfl⟩ | ⟨hji, hj'⟩ <;>
      rcases getElem?_set_some hk with ⟨rfl, rfl⟩ | ⟨hki, hk'⟩
    · rfl
    · rw [hAlone hfj k tk hki hk'] at hfk; cases hfk
    · rw [hAlone hfk j tj hji hj'] at hfj; cases hfj
    · exact hInv.exclusive j k tj tk hj' hk' hfj hfk

/-- One move of one task keeps the invariant when no other task is between its two locks. -/
theorem DistinctDebits.move (hInv : DistinctDebits tasks v) (hti : tasks[i]? = some t)
    (hAtomic : ∀ j tj st, tasks[j]? = some tj → tj.phase = .initiate st → j = i)
    {phase : SendPhase} (hm : SendMove t.phase v phase v') :
    DistinctDebits (tasks.set i { t with phase }) v' := by
  have hCur := hInv.consistent i t hti
  -- a task that holds the ledger leaves the others idle, whatever the view becomes
  have hIdle : t.phase.inFlight = true → ∀ j tj, j ≠ i → tasks[j]? = some tj →
      tj.phase.Consistent v' := fun ht j tj hj htj =>
    consistent_of_idle (hInv.others_idle hti ht hj htj) v'
  have hKept : t.phase.inFlight = true → ∀ j tj, j ≠ i → tasks[j]? = some tj →
      tj.phase.inFlight = false := fun ht _ _ hj htj => hInv.others_idle hti ht hj htj
  have hSame : ∀ j tj, j ≠ i → tasks[j]? = some tj → tj.phase.Consistent v :=
    fun j tj _ h => hInv.consistent j tj h
  rcases t with ⟨recipient, amount, phase₀⟩
  cases hm with
  | history =>
      refine hInv.set hInv.nodup hInv.bounded ?_ hSame ?_
      · trivial
      · nofun
  | transfer hp hc =>
      refine hInv.set hInv.nodup hInv.bounded ?_ hSame fun _ j tj hj htj =>
        Bool.eq_false_iff.2 fun hf => ?_
      · exact ⟨hp, hc⟩
      have hCons := hInv.consistent j tj htj
      rcases tj with ⟨_, _, _ | _ | st | st | p | p | _ | e⟩ <;>
        simp [SendPhase.inFlight, SendPhase.Consistent, hp] at hf hCons
      exact hj (hAtomic j _ st htj rfl)
  | initiate =>
      obtain ⟨hp, hc⟩ := hCur
      have hBelow : ∀ k ∈ v.sent, k < v.nextDebit := fun k hk =>
        (hInv.bounded k hk).resolve_right fun h => h.2 hp
      refine hInv.set hInv.nodup (fun k hk => .inl (hBelow k hk)) ?_ (hIdle rfl) fun _ => hKept rfl
      exact ⟨rfl, hc, fun h => Nat.lt_irrefl _ (hBelow _ h)⟩
  | validate hNext =>
      obtain ⟨hp, hc, hFresh⟩ := hCur
      refine hInv.set (List.nodup_append.2 ⟨hInv.nodup, List.nodup_singleton _,
          List.disjoint_singleton.2 (hc ▸ hFresh)⟩) (fun k hk => ?_) ?_ (hIdle rfl)
          fun _ => hKept rfl
      · rcases List.mem_append.1 hk with hk | hk
        · exact hInv.bounded k hk
        · rw [List.mem_singleton.1 hk, hc]
          exact .inr ⟨rfl, by rw [hp]; nofun⟩
      · rcases hNext with ⟨p, rfl⟩ | ⟨e, rfl⟩
        · show v.pending ≠ none
          rw [hp]; nofun
        · trivial
  | register =>
      refine hInv.set hInv.nodup hInv.bounded ?_ hSame fun _ => hKept rfl
      exact hCur
  | commit =>
      refine hInv.set hInv.nodup (fun k hk => .inl ?_) ?_ (hIdle rfl) ?_
      · rcases hInv.bounded k hk with h | ⟨h, -⟩ <;> dsimp only <;> omega
      · trivial
      · nofun
  | fail =>
      refine hInv.set hInv.nodup hInv.bounded ?_ hSame ?_
      · trivial
      · nofun
  | idle => exact hInv.set hInv.nodup hInv.bounded hCur hSame hKept

end Invariant

theorem AtomicStep.of_getElem? {tasks : List SendTask} {i j : Nat} {tj : SendTask}
    {st : SignedTransfer} (h : AtomicStep tasks i) (htj : tasks[j]? = some tj)
    (hph : tj.phase = .initiate st) : j = i := by
  obtain ⟨hj, rfl⟩ := List.getElem?_eq_some_iff.1 htj
  exact h j hj (by rw [hph]; rfl)

theorem distinctDebits_interleaveStep (hHist : HistoryKeepsDebits net) {i : Nat}
    {s : List SendTask × Client N} (hAtomic : AtomicStep s.1 i)
    (hInv : DistinctDebits s.1 (debitView s.2)) :
    DistinctDebits (interleaveStep net i s).1 (debitView (interleaveStep net i s).2) := by
  unfold interleaveStep
  split
  · next t hti =>
      rw [advance_fst net t s.2]
      exact hInv.move hti (fun _ _ _ => hAtomic.of_getElem?) (advance_move net hHist t s.2)
  · exact hInv

theorem distinctDebits_interleave (hHist : HistoryKeepsDebits net) :
    ∀ (schedule : List Nat) (s : List SendTask × Client N), Atomic net schedule s →
      DistinctDebits s.1 (debitView s.2) →
      DistinctDebits (interleave net schedule s).1 (debitView (interleave net schedule s).2)
  | [], _, _, hInv => hInv
  | _ :: schedule, _, ⟨hStep, hRest⟩, hInv =>
      distinctDebits_interleave hHist schedule _ hRest
        (distinctDebits_interleaveStep net hHist hStep hInv)

/-- Under any schedule that never lets a task move between another's two locks, the counters of
the transfers sent for validation stay distinct. -/
theorem atomic_schedules_distinct_counters (hHist : HistoryKeepsDebits net)
    (schedule : List Nat) (tasks : List SendTask) (c : Client N)
    (hStart : ∀ t ∈ tasks, t.phase = .start)
    (hNodup : (validatedCounters c.commands).Nodup)
    (hBelow : ∀ k ∈ validatedCounters c.commands, k < c.transferActor.nextDebit)
    (hAtomic : Atomic net schedule (tasks, c)) :
    (validatedCounters (interleave net schedule (tasks, c)).2.commands).Nodup := by
  have hInv : DistinctDebits tasks (debitView c) := by
    refine ⟨hNodup, fun k hk => .inl (hBelow k hk), fun j t h => ?_, fun j k tj tk hj _ hfj _ => ?_⟩
    · rw [hStart t (List.getElem?_mem h)]
      trivial
    · rw [hStart tj (List.getElem?_mem hj)] at hfj
      cases hfj
  exact (distinctDebits_interleave net hHist schedule (tasks, c) hAtomic hInv).nodup

/-- The second call takes its lock for `transfer()` once the first has marked its transfer
initiated: it is refused, and only counter 0 is sent. -/
theorem atomic_schedules_distinct_counters_second_refused :
    HistoryKeepsDebits (replicaNetwork ⟨1⟩ ⟨0⟩) ∧
    (∀ t ∈ [(⟨⟨2⟩, ⟨3⟩, .start⟩ : SendTask), ⟨⟨3⟩, ⟨4⟩, .start⟩], t.phase = .start) ∧
    (validatedCounters (freshClient ⟨1⟩ ⟨10⟩ fun _ => none).commands).Nodup ∧
    (∀ k ∈ validatedCounters (freshClient ⟨1⟩ ⟨10⟩ fun _ => none).commands,
      k < (freshClient ⟨1⟩ ⟨10⟩ fun _ => none).transferActor.nextDebit) ∧
    Atomic (replicaNetwork ⟨1⟩ ⟨0⟩) [0, 1, 0, 0, 1, 1, 0, 0, 0]
      ([⟨⟨2⟩, ⟨3⟩, .start⟩, ⟨⟨3⟩, ⟨4⟩, .start⟩], freshClient ⟨1⟩ ⟨10⟩ fun _ => none) ∧
    (validatedCounters (interleave (replicaNetwork ⟨1⟩ ⟨0⟩) [0, 1, 0, 0, 1, 1, 0, 0, 0]
      ([⟨⟨2⟩, ⟨3⟩, .start⟩, ⟨⟨3⟩, ⟨4⟩, .start⟩], freshClient ⟨1⟩ ⟨10⟩ fun _ => none)).2.commands).Nodup := by
  have hHist : HistoryKeepsDebits (replicaNetwork ⟨1⟩ ⟨0⟩) := fun _ _ _ h => by
    cases h; exact ⟨rfl, rfl⟩
  have hStart : ∀ t ∈ [(⟨⟨2⟩, ⟨3⟩, .start⟩ : SendTask), ⟨⟨3⟩, ⟨4⟩, .start⟩], t.phase = .start := by
    simp
  have hAtomic : Atomic (replicaNetwork ⟨1⟩ ⟨0⟩) [0, 1, 0, 0, 1, 1, 0, 0, 0]
      ([⟨⟨2⟩, ⟨3⟩, .start⟩, ⟨⟨3⟩, ⟨4⟩, .start⟩], freshClient ⟨1⟩ ⟨10⟩ fun _ => none) := by
    decide
  exact ⟨hHist, hStart, List.nodup_nil, nofun, hAtomic,
    atomic_schedules_distinct_counters (replicaNetwork ⟨1⟩ ⟨0⟩) hHist _ _ _ hStart List.nodup_nil
      nofun hAtomic⟩

end SafeCore
