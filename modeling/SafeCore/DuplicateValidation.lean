import SafeCore.BalanceManagement
import SafeCore.ReplicaNetwork

/-!
Validation shares delivered more than once: under the aggregator contract a duplicate of a
recorded share, or of a closed transfer's share, changes neither the actor nor the results.
-/

namespace SafeCore

/-- The share is on the actor's record. -/
def Recorded (a : TransferActor) (v : TransferValidated) : Prop := v ∈ a.validations

/-- The share's transfer is not the pending one. -/
def Closed (a : TransferActor) (v : TransferValidated) : Prop := a.pending ≠ some v.signedTransfer

/-- A share a duplicate of which changes nothing. -/
def Settled (a : TransferActor) (v : TransferValidated) : Prop := Recorded a v ∨ Closed a v

/-- What the actor's `receive` is assumed to do with recorded shares and closed transfers. -/
structure AggregatorContract (receive : Receive) : Prop where
  recorded : ∀ a v, Recorded a v → ∃ e, receive a v = .error e ∧ isAlreadyReceived e = true
  closed : ∀ a v, ¬ Recorded a v → Closed a v → receive a v = .ok none

variable {N : Type} (receive : Receive)

/-- Each share handled in turn, whatever the earlier ones returned: what each returned, and the
client after all of them. -/
def handleValidationEvents :
    List TransferValidated → Client N → List (Except Failure (Option DebitAgreementProof)) × Client N
  | [], c => ([], c)
  | v :: vs, c =>
      let r := handleValidationEvent receive (.transferValidated v) c
      let rest := handleValidationEvents vs (stateAfter r)
      (outcome r :: rest.1, rest.2)

/-- The results that are not `Ok(None)`: the proofs emitted and the errors returned. -/
def emitted (results : List (Except Failure (Option DebitAgreementProof))) :
    List (Except Failure DebitAgreementProof) :=
  results.filterMap fun
    | .ok none => none
    | .ok (some proof) => some (.ok proof)
    | .error e => some (.error e)

/-- `ws` is `vs` with shares inserted, each settled in the actor when it comes. -/
inductive WithDuplicates : Client N → List TransferValidated → List TransferValidated → Prop
  | nil (c : Client N) : WithDuplicates c [] []
  | keep {c : Client N} {v : TransferValidated} {vs ws : List TransferValidated} :
      WithDuplicates (stateAfter (handleValidationEvent receive (.transferValidated v) c)) vs ws →
      WithDuplicates c (v :: vs) (v :: ws)
  | insert {c : Client N} {v : TransferValidated} {vs ws : List TransferValidated} :
      Settled c.transferActor v → WithDuplicates c vs ws → WithDuplicates c vs (v :: ws)

/-- A settled share is handled as `Ok(None)` and changes nothing. -/
theorem handleValidationEvent_settled {receive : Receive} (hc : AggregatorContract receive)
    {c : Client N} {v : TransferValidated} (hs : Settled c.transferActor v) :
    handleValidationEvent receive (.transferValidated v) c = .ok none c := by
  rw [handleValidationEvent_apply]
  by_cases hr : Recorded c.transferActor v
  · obtain ⟨e, he, hAlready⟩ := hc.recorded _ _ hr
    rw [he]
    exact if_pos hAlready
  · rw [hc.closed _ _ hr (hs.resolve_left hr)]

theorem settled_duplicates_change_nothing {receive : Receive} (hc : AggregatorContract receive) :
    (∀ (c : Client N) v, Settled c.transferActor v →
      handleValidationEvent receive (.transferValidated v) c = .ok none c) ∧
    ∀ {c : Client N} {vs ws}, WithDuplicates receive c vs ws →
      (handleValidationEvents receive ws c).2 = (handleValidationEvents receive vs c).2 ∧
      emitted (handleValidationEvents receive ws c).1 =
        emitted (handleValidationEvents receive vs c).1 := by
  refine ⟨fun _ _ hs => handleValidationEvent_settled hc hs, fun h => ?_⟩
  induction h with
  | nil => exact ⟨rfl, rfl⟩
  | keep _ ih =>
      refine ⟨ih.1, ?_⟩
      simp only [handleValidationEvents, emitted, List.filterMap_cons] at ih ⊢
      rw [ih.2]
  | insert hs _ ih =>
      simp only [handleValidationEvents, handleValidationEvent_settled hc hs]
      exact ih

/-- A receiver that keeps the contract and turns away every share from replica 0 while its
transfer is pending. -/
def rejectingReplicaZero : Receive := fun a v =>
  if v ∈ a.validations then .error (.transfers "Already received validation")
  else if a.pending ≠ some v.signedTransfer then .ok none
  else if v.replica = 0 then .error (.transfers "Invalid validation share")
  else .ok (some ⟨v, none⟩)

theorem rejectingReplicaZero_contract : AggregatorContract rejectingReplicaZero where
  recorded _ _ hr := ⟨_, if_pos hr, by decide⟩
  closed a v hr hcl := by
    have hNew : v ∉ a.validations := hr
    have hOpen : a.pending ≠ some v.signedTransfer := hcl
    rw [rejectingReplicaZero, if_neg hNew, if_pos hOpen]

theorem settled_duplicates_change_nothing_replicaZero :
    AggregatorContract rejectingReplicaZero ∧
    (∀ (c : Client DataMap) v, Settled c.transferActor v →
      handleValidationEvent rejectingReplicaZero (.transferValidated v) c = .ok none c) ∧
    ∀ {c : Client DataMap} {vs ws}, WithDuplicates rejectingReplicaZero c vs ws →
      (handleValidationEvents rejectingReplicaZero ws c).2 =
          (handleValidationEvents rejectingReplicaZero vs c).2 ∧
        emitted (handleValidationEvents rejectingReplicaZero ws c).1 =
          emitted (handleValidationEvents rejectingReplicaZero vs c).1 :=
  ⟨rejectingReplicaZero_contract, settled_duplicates_change_nothing rejectingReplicaZero_contract⟩

/-- A share of replica 0 for the pending transfer, delivered twice: the duplicate of the
handled share is rejected again instead of returning `Ok(None)`. -/
theorem duplicate_of_rejected_share_fails :
    AggregatorContract rejectingReplicaZero ∧
    (handleValidationEvents rejectingReplicaZero [⟨⟨⟨⟨⟨1⟩, 0⟩, ⟨2⟩, ⟨3⟩⟩⟩, 0⟩]
        { freshClient ⟨1⟩ ⟨10⟩ (fun _ => none) with
          transferActor := ⟨⟨1⟩, ⟨10⟩, 0, some ⟨⟨⟨⟨1⟩, 0⟩, ⟨2⟩, ⟨3⟩⟩⟩, []⟩ }).1 =
      [.error (.error (.dataError (.transfers "Invalid validation share")))] ∧
    (handleValidationEvents rejectingReplicaZero
        [⟨⟨⟨⟨⟨1⟩, 0⟩, ⟨2⟩, ⟨3⟩⟩⟩, 0⟩, ⟨⟨⟨⟨⟨1⟩, 0⟩, ⟨2⟩, ⟨3⟩⟩⟩, 0⟩]
        { freshClient ⟨1⟩ ⟨10⟩ (fun _ => none) with
          transferActor := ⟨⟨1⟩, ⟨10⟩, 0, some ⟨⟨⟨⟨1⟩, 0⟩, ⟨2⟩, ⟨3⟩⟩⟩, []⟩ }).1 =
      [.error (.error (.dataError (.transfers "Invalid validation share"))),
        .error (.error (.dataError (.transfers "Invalid validation share")))] :=
  ⟨rejectingReplicaZero_contract, rfl, rfl⟩

end SafeCore
