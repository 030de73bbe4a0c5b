import SafeCore.ReplicaNetwork

/-!
The accessors of a sequence's current version and their `u64` index arithmetic: the owner and
permission accessors subtract with no guard and panic on an empty history, while
`get_sequence_last_entry` subtracts only once it has found an entry.
-/

namespace SafeCore

variable {N α : Type} (net : Network N)

theorem subU64_apply (a b : Nat) (c : Client N) :
    subU64 a b c =
      if b ≤ a then .ok (a - b) c else .error (.panic "attempt to subtract with overflow") c := by
  unfold subU64
  split <;> rfl

theorem readCurrent_apply (address : SequenceAddress) (index : Sequence → Nat)
    (read : Sequence → Nat → Except CoreError α) (c : Client N) :
    readCurrent net address index read c = match getSequence net address c with
      | .error f c₁ => .error f c₁
      | .ok s c₁ =>
          if index s = 0 then .error (.panic "attempt to subtract with overflow") c₁
          else match read s (index s - 1) with
            | .ok a => .ok a c₁
            | .error e => .error (.error e) c₁ := by
  simp only [readCurrent, bind_apply]
  cases getSequence net address c with
  | error f c₁ => rfl
  | ok s c₁ =>
      simp only [subU64_apply]
      by_cases h : index s = 0
      · simp [h]
      · simp only [h, if_false, show 1 ≤ index s by omega, if_true]
        cases read s (index s - 1) <;> rfl

theorem readCurrent_underflow {address : SequenceAddress} {index : Sequence → Nat}
    {read : Sequence → Nat → Except CoreError α} {c c₁ : Client N} {s : Sequence}
    (hg : getSequence net address c = .ok s c₁) (h0 : index s = 0) :
    readCurrent net address index read c =
      .error (.panic "attempt to subtract with overflow") c₁ := by
  rw [readCurrent_apply, hg]
  exact if_pos h0

theorem current_version_accessors (address : SequenceAddress) (user : SequenceUser)
    {c c₁ : Client N} {s : Sequence} (hg : getSequence net address c = .ok s c₁) :
    (s.ownersIndex = 0 →
      getSequenceOwner net address c = .error (.panic "attempt to subtract with overflow") c₁) ∧
    (s.permissionsIndex = 0 →
      getSequencePubPermissions net address c =
          .error (.panic "attempt to subtract with overflow") c₁ ∧
        getSequencePrivatePermissions net address c =
          .error (.panic "attempt to subtract with overflow") c₁ ∧
        getSequenceUserPermissions net address user c =
          .error (.panic "attempt to subtract with overflow") c₁) :=
  ⟨readCurrent_underflow net hg, fun h0 =>
    ⟨readCurrent_underflow net hg h0, readCurrent_underflow net hg h0,
      readCurrent_underflow net hg h0⟩⟩

/-- A fresh private sequence fetched from the network: no owner and no permissions yet, and
all four accessors panic on it. -/
theorem current_version_accessors_ownerless :
    ∃ c₁, getSequence (replicaNetwork ⟨1⟩ ⟨0⟩) ⟨.priv, ⟨7⟩, 0⟩
        (freshClient ⟨1⟩ ⟨10⟩ fun a => if a = ⟨.priv, ⟨7⟩, 0⟩
          then some (Sequence.newPrivate ⟨1⟩ ⟨7⟩ 0) else none) =
        .ok (Sequence.newPrivate ⟨1⟩ ⟨7⟩ 0) c₁ ∧
      (Sequence.newPrivate ⟨1⟩ ⟨7⟩ 0).ownersIndex = 0 ∧
      (Sequence.newPrivate ⟨1⟩ ⟨7⟩ 0).permissionsIndex = 0 ∧
      ((Sequence.newPrivate ⟨1⟩ ⟨7⟩ 0).ownersIndex = 0 →
        getSequenceOwner (replicaNetwork ⟨1⟩ ⟨0⟩) ⟨.priv, ⟨7⟩, 0⟩
          (freshClient ⟨1⟩ ⟨10⟩ fun a => if a = ⟨.priv, ⟨7⟩, 0⟩
            then some (Sequence.newPrivate ⟨1⟩ ⟨7⟩ 0) else none) =
          .error (.panic "attempt to subtract with overflow") c₁) ∧
      ((Sequence.newPrivate ⟨1⟩ ⟨7⟩ 0).permissionsIndex = 0 →
        getSequencePubPermissions (replicaNetwork ⟨1⟩ ⟨0⟩) ⟨.priv, ⟨7⟩, 0⟩
            (freshClient ⟨1⟩ ⟨10⟩ fun a => if a = ⟨.priv, ⟨7⟩, 0⟩
              then some (Sequence.newPrivate ⟨1⟩ ⟨7⟩ 0) else none) =
            .error (.panic "attempt to subtract with overflow") c₁ ∧
          getSequencePrivatePermissions (replicaNetwork ⟨1⟩ ⟨0⟩) ⟨.priv, ⟨7⟩, 0⟩
            (freshClient ⟨1⟩ ⟨10⟩ fun a => if a = ⟨.priv, ⟨7⟩, 0⟩
              then some (Sequence.newPrivate ⟨1⟩ ⟨7⟩ 0) else none) =
            .error (.panic "attempt to subtract with overflow") c₁ ∧
          getSequenceUserPermissions (replicaNetwork ⟨1⟩ ⟨0⟩) ⟨.priv, ⟨7⟩, 0⟩ .anyone
            (freshClient ⟨1⟩ ⟨10⟩ fun a => if a = ⟨.priv, ⟨7⟩, 0⟩
              then some (Sequence.newPrivate ⟨1⟩ ⟨7⟩ 0) else none) =
            .error (.panic "attempt to subtract with overflow") c₁) :=
  ⟨_, rfl, rfl, rfl, current_version_accessors (replicaNetwork ⟨1⟩ ⟨0⟩) ⟨.priv, ⟨7⟩, 0⟩ .anyone rfl⟩

theorem getSequenceLastEntry_apply (address : SequenceAddress) (c : Client N) :
    getSequenceLastEntry net address c = match getSequence net address c with
      | .error f c₁ => .error f c₁
      | .ok s c₁ => match s.lastEntry with
        | some entry => .ok (s.entriesIndex - 1, entry) c₁
        | none => .error (.error (.dataError .noSuchEntry)) c₁ := by
  simp only [getSequenceLastEntry, bind_apply]
  cases getSequence net address c with
  | error f c₁ => rfl
  | ok s c₁ =>
      dsimp only
      cases h : s.lastEntry with
      | none => rfl
      | some entry =>
          have hpos := Sequence.lastEntry_some_index_pos h
          simp only [bind_apply, subU64_apply, show 1 ≤ s.entriesIndex by omega, if_true]
          rfl

end SafeCore
