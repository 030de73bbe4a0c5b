import SafeCore.ReplicaNetwork

/-!
The permission pre-check of the four mutations of an existing sequence: a failed check ends the
call where the fetch left it. The raw senders `set_sequence_owner` and `edit_sequence_*_perms`
check nothing.
-/

namespace SafeCore

variable {N : Type} (net : Network N)

/-- `x` is gated by the check for `action` on the snapshot of `address`: a failed check fails
the call with its error where the fetch left it, having sent, paid, booked and cached nothing
but the fetched snapshot; a call that sent a command or moved the ledger passed the check. -/
def Gated {α : Type} (x : ClientM N α) (address : SequenceAddress) (action : SequenceAction)
    (c : Client N) : Prop :=
  (∀ s c₁ e, getSequence net address c = .ok s c₁ →
    s.checkPermission action c.publicKey = .error e →
    x c = .error (.error (.dataError e)) c₁ ∧ c₁.commands = c.commands ∧
      c₁.transferActor = c.transferActor ∧ c₁.network = c.network ∧
      (c₁.sequenceCache = c.sequenceCache ∨
        c₁.sequenceCache = Function.update c.sequenceCache s.address (some s))) ∧
  ((stateAfter (x c)).commands ≠ c.commands ∨
      (stateAfter (x c)).transferActor ≠ c.transferActor →
    ∃ s c₁, getSequence net address c = .ok s c₁ ∧ s.checkPermission action c.publicKey = .ok ())

theorem mutateChecked_gated {α : Type} (address : SequenceAddress) (action : SequenceAction)
    (mutate : Sequence → Except SndError (Sequence × α)) (send : α → ClientM N Unit)
    (c : Client N) : Gated net (mutateChecked net address action mutate send) address action c := by
  obtain ⟨hKey, hActor, hNet, hCmds⟩ := getSequence_frame net address c
  refine ⟨fun s c₁ e hg hc => ?_, fun hMoved => ?_⟩
  · simp only [hg, stateAfter_ok] at hKey hActor hNet hCmds
    refine ⟨?_, hCmds, hActor, hNet, getSequence_ok_cache net hg⟩
    rw [mutateChecked_apply, hg]
    dsimp only
    rw [hKey, hc]
  · rw [mutateChecked_apply] at hMoved
    cases hg : getSequence net address c with
    | error g c₁ =>
        simp only [hg, stateAfter_error] at hMoved hActor hCmds
        exact absurd ⟨hCmds, hActor⟩ (not_and_or.2 hMoved)
    | ok s c₁ =>
        simp only [hg, stateAfter_ok] at hMoved hKey hActor hCmds
        rw [hKey] at hMoved
        cases hc : s.checkPermission action c.publicKey with
        | ok u => exact ⟨s, c₁, rfl, hc⟩
        | error e =>
            rw [hc] at hMoved
            exact absurd ⟨hCmds, hActor⟩ (not_and_or.2 hMoved)

theorem checked_mutations_gated (c : Client N) :
    (∀ address entry, Gated net (appendToSequence net address entry) address .append c) ∧
    (∀ address owner,
      Gated net (sequenceSetOwner net address owner) address .managePermissions c) ∧
    (∀ address permissions,
      Gated net (sequenceSetPubPermissions net address permissions) address .managePermissions c) ∧
    (∀ address permissions,
      Gated net (sequenceSetPrivatePermissions net address permissions) address
        .managePermissions c) :=
  ⟨fun address _ => mutateChecked_gated net address _ _ _ c,
    fun address _ => mutateChecked_gated net address _ _ _ c,
    fun address _ => mutateChecked_gated net address _ _ _ c,
    fun address _ => mutateChecked_gated net address _ _ _ c⟩

/-- `set_sequence_owner` from a key the sequence's owner never granted anything: no check
stops it, and the client pays for the write and sends it. -/
theorem setSequenceOwner_unchecked :
    ((Sequence.newPrivate ⟨1⟩ ⟨7⟩ 0).setOwner ⟨1⟩).1.checkPermission .managePermissions ⟨2⟩ =
        .error .accessDenied ∧
    ∃ c', setSequenceOwner (replicaNetwork ⟨1⟩ ⟨0⟩) ⟨⟨.priv, ⟨7⟩, 0⟩, ⟨⟨2⟩, 1, 0⟩⟩
        (freshClient ⟨2⟩ ⟨10⟩ fun a => if a = ⟨.priv, ⟨7⟩, 0⟩
          then some ((Sequence.newPrivate ⟨1⟩ ⟨7⟩ 0).setOwner ⟨1⟩).1 else none) = .ok () c' ∧
      c'.transferActor.balance = ⟨9⟩ ∧
      c'.commands = [.transfer (.validateTransfer ⟨⟨⟨⟨2⟩, 0⟩, ⟨0⟩, ⟨1⟩⟩⟩),
        wrapSeqWrite (.setOwner ⟨⟨.priv, ⟨7⟩, 0⟩, ⟨⟨2⟩, 1, 0⟩⟩) ⟨⟨⟨⟨⟨2⟩, 0⟩, ⟨0⟩, ⟨1⟩⟩⟩⟩] :=
  ⟨rfl, _, rfl, rfl, rfl⟩

end SafeCore
