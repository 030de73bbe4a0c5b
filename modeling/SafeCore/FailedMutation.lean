import SafeCore.ReplicaNetwork

/-!
What a mutating call that fails leaves in the sequence cache. A failed store leaves it as it
was; the four mutations of an existing sequence cache the mutated snapshot before paying.
-/

namespace SafeCore

variable {N α : Type} (net : Network N)

/-- What a failed mutation of an existing sequence leaves in the cache, by the step that failed. -/
structure FailedMutationCache (address : SequenceAddress) (action : SequenceAction)
    (mutate : Sequence → Except SndError (Sequence × α)) (c c' : Client N) : Prop where
  /-- The fetch failed: the cache is as it was. -/
  fetchFailed : ∀ g c₁, getSequence net address c = .error g c₁ →
    c'.sequenceCache = c.sequenceCache
  /-- The permission check failed: the cache is as the fetch left it. -/
  checkFailed : ∀ s c₁ e, getSequence net address c = .ok s c₁ →
    s.checkPermission action c.publicKey = .error e → c'.sequenceCache = c₁.sequenceCache
  /-- Building the operation failed: the cache is as the fetch left it. -/
  opFailed : ∀ s c₁ e, getSequence net address c = .ok s c₁ →
    s.checkPermission action c.publicKey = .ok () → mutate s = .error e →
    c'.sequenceCache = c₁.sequenceCache
  /-- All three passed, so paying, sending or booking failed: the mutated snapshot stays filed
  over what the fetch left. -/
  laterFailed : ∀ s c₁ s' op, getSequence net address c = .ok s c₁ →
    s.checkPermission action c.publicKey = .ok () → mutate s = .ok (s', op) →
    c'.sequenceCache = Function.update c₁.sequenceCache s'.address (some s')

theorem mutateChecked_failed_cache (address : SequenceAddress) (action : SequenceAction)
    (mutate : Sequence → Except SndError (Sequence × α)) {send : α → ClientM N Unit}
    (hsend : ∀ op, Preserves (·.sequenceCache) (send op)) {c c' : Client N} {f : Failure}
    (h : mutateChecked net address action mutate send c = .error f c') :
    FailedMutationCache net address action mutate c c' := by
  rw [mutateChecked_apply] at h
  have hk : ∀ {s c₁}, getSequence net address c = .ok s c₁ → c₁.publicKey = c.publicKey :=
    (preserves_getSequence net (·.publicKey) (fun _ _ _ => rfl) address).of_ok
  constructor
  case fetchFailed =>
    intro g c₁ hg
    rw [hg] at h
    cases h
    exact getSequence_error_cache net hg
  case checkFailed =>
    intro s c₁ e hg hc
    simp only [hg, hk hg, hc] at h
    cases h
    rfl
  case opFailed =>
    intro s c₁ e hg hc hm
    simp only [hg, hk hg, hc, hm] at h
    cases h
    rfl
  case laterFailed =>
    intro s c₁ s' op hg hc hm
    simp only [hg, hk hg, hc, hm] at h
    exact (hsend op).of_error h

theorem storeSequence_failed_cache {address : SequenceAddress} {data : Sequence}
    {owner : PublicKey} {sequence : Option (List SequenceEntry)} {c c' : Client N} {f : Failure}
    (h : storeSequence net address data owner sequence c = .error f c') :
    c'.sequenceCache = c.sequenceCache := by
  rw [storeSequence_apply] at h
  dsimp only at h
  split at h
  · cases h
  · next hp => cases h; exact (keepsReplica_payAndSend net _).1.of_error hp

/-- A failed store leaves the cache as it was; a failed mutation of an existing sequence leaves
it as `FailedMutationCache` says for the step that failed. -/
theorem failed_mutation_cache (c c' : Client N) (f : Failure) :
    (∀ sequence name tag owner permissions,
      storePrivateSequence net sequence name tag owner permissions c = .error f c' →
        c'.sequenceCache = c.sequenceCache) ∧
    (∀ sequence name tag owner permissions,
      storePublicSequence net sequence name tag owner permissions c = .error f c' →
        c'.sequenceCache = c.sequenceCache) ∧
    (∀ address entry, appendToSequence net address entry c = .error f c' →
      FailedMutationCache net address .append (fun s => .ok (s.append entry)) c c') ∧
    (∀ address owner, sequenceSetOwner net address owner c = .error f c' →
      FailedMutationCache net address .managePermissions (fun s => .ok (s.setOwner owner)) c c') ∧
    (∀ address permissions, sequenceSetPubPermissions net address permissions c = .error f c' →
      FailedMutationCache net address .managePermissions (·.setPubPermissions permissions) c c') ∧
    (∀ address permissions,
      sequenceSetPrivatePermissions net address permissions c = .error f c' →
      FailedMutationCache net address .managePermissions (·.setPrivatePermissions permissions)
        c c') := by
  have hPaid : ∀ write, Preserves (·.sequenceCache) (payAndSend net write : ClientM N Unit) :=
    fun write => (keepsReplica_payAndSend net write).1
  refine ⟨fun sequence name tag owner permissions h => ?_, fun sequence name tag owner permissions h => ?_,
    fun address _ => mutateChecked_failed_cache net address _ _ fun _ => hPaid _,
    fun address _ => mutateChecked_failed_cache net address _ _ fun _ => hPaid _,
    fun address _ => mutateChecked_failed_cache net address _ _ fun _ => hPaid _,
    fun address _ => mutateChecked_failed_cache net address _ _ fun _ => hPaid _⟩
  · rw [storePrivateSequence_apply] at h
    split at h
    · exact storeSequence_failed_cache net h
    · cases h; rfl
  · rw [storePublicSequence_apply] at h
    split at h
    · exact storeSequence_failed_cache net h
    · cases h; rfl

/-- An append the client cannot pay for: the write never leaves the client, but the snapshot
with its entry stays in the cache, over the network's version. -/
theorem appendToSequence_unpaid_entry_cached :
    ∃ f c', appendToSequence (replicaNetwork ⟨1⟩ ⟨0⟩) ⟨.priv, ⟨7⟩, 0⟩ [5]
        (freshClient ⟨1⟩ ⟨0⟩ fun a => if a = ⟨.priv, ⟨7⟩, 0⟩
          then some ((Sequence.newPrivate ⟨1⟩ ⟨7⟩ 0).setOwner ⟨1⟩).1 else none) = .error f c' ∧
      c'.sequenceCache ⟨.priv, ⟨7⟩, 0⟩ =
        some ((((Sequence.newPrivate ⟨1⟩ ⟨7⟩ 0).setOwner ⟨1⟩).1).append [5]).1 ∧
      c'.network ⟨.priv, ⟨7⟩, 0⟩ = some ((Sequence.newPrivate ⟨1⟩ ⟨7⟩ 0).setOwner ⟨1⟩).1 ∧
      c'.commands = [] := by
  refine ⟨_, _, rfl, ?_, by decide, rfl⟩
  rw [((failed_mutation_cache (replicaNetwork ⟨1⟩ ⟨0⟩) (freshClient ⟨1⟩ ⟨0⟩ fun a =>
    if a = ⟨.priv, ⟨7⟩, 0⟩ then some ((Sequence.newPrivate ⟨1⟩ ⟨7⟩ 0).setOwner ⟨1⟩).1 else none)
    _ _).2.2.1 ⟨.priv, ⟨7⟩, 0⟩ [5] rfl).laterFailed _ _ _ _ rfl rfl rfl]
  exact Function.update_same _ _ _

end SafeCore
