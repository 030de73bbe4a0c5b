import SafeCore.ReplicaNetwork

/-!
Read-your-writes for one client over the map network: along every run without a delete of a
cached private sequence or a raw write to a cached address, each cached snapshot is the map's
object at its address. The excluded calls break it, since the cache is not told.
-/

namespace SafeCore

/-- The calls a run is made of, one per sequence API. -/
inductive Call
  | storePrivateSequence (sequence : Option (List SequenceEntry)) (name : XorName) (tag : UInt64)
      (owner : PublicKey) (permissions : List (PublicKey × SequencePrivUserPermissions))
  | storePublicSequence (sequence : Option (List SequenceEntry)) (name : XorName) (tag : UInt64)
      (owner : PublicKey) (permissions : List (SequenceUser × SequencePubUserPermissions))
  | appendToSequence (address : SequenceAddress) (entry : SequenceEntry)
  | deleteSequence (address : SequenceAddress)
  | setSequenceOwner (op : SequenceWriteOp SequenceOwner)
  | sequenceSetOwner (address : SequenceAddress) (owner : PublicKey)
  | editSequencePrivatePerms (op : SequenceWriteOp SequencePrivatePermissions)
  | editSequencePublicPerms (op : SequenceWriteOp SequencePublicPermissions)
  | sequenceSetPubPermissions (address : SequenceAddress)
      (permissions : List (SequenceUser × SequencePubUserPermissions))
  | sequenceSetPrivatePermissions (address : SequenceAddress)
      (permissions : List (PublicKey × SequencePrivUserPermissions))
  | getSequence (address : SequenceAddress)

namespace Call

variable {N : Type} (net : Network N)

/-- The call made by the client, its result dropped. -/
def run : Call → ClientM N Unit
  | storePrivateSequence sequence name tag owner permissions =>
      discard (SafeCore.storePrivateSequence net sequence name tag owner permissions)
  | storePublicSequence sequence name tag owner permissions =>
      discard (SafeCore.storePublicSequence net sequence name tag owner permissions)
  | appendToSequence address entry => SafeCore.appendToSequence net address entry
  | deleteSequence address => SafeCore.deleteSequence net address
  | setSequenceOwner op => SafeCore.setSequenceOwner net op
  | sequenceSetOwner address owner => SafeCore.sequenceSetOwner net address owner
  | editSequencePrivatePerms op => SafeCore.editSequencePrivatePerms net op
  | editSequencePublicPerms op => SafeCore.editSequencePublicPerms net op
  | sequenceSetPubPermissions address permissions =>
      SafeCore.sequenceSetPubPermissions net address permissions
  | sequenceSetPrivatePermissions address permissions =>
      SafeCore.sequenceSetPrivatePermissions net address permissions
  | getSequence address => discard (SafeCore.getSequence net address)

def isRead : Call → Bool
  | getSequence _ => true
  | _ => false

/-- The calls after which the cache still mirrors the map: all but a `delete_sequence` of a
cached private sequence and a raw owner or permissions write to a cached address. -/
def Admissible (c : Client N) : Call → Prop
  | deleteSequence address => ∀ d, c.sequenceCache address ≠ some (.priv d)
  | setSequenceOwner op => c.sequenceCache op.address = none
  | editSequencePrivatePerms op => c.sequenceCache op.address = none
  | editSequencePublicPerms op => c.sequenceCache op.address = none
  | _ => True

end Call

variable {N : Type} (net : Network N)

/-- One call of a run: it returned, or it was a read, which may fail. -/
def Step (c : Client N) (call : Call) (c' : Client N) : Prop :=
  call.run net c = .ok () c' ∨ (call.isRead ∧ ∃ f, call.run net c = .error f c')

/-- Runs of calls, each allowed by `allowed` in the state it starts from. -/
inductive Run (allowed : Client N → Call → Prop) : Client N → List Call → Client N → Prop
  | nil (c : Client N) : Run allowed c [] c
  | cons {c c₁ c₂ : Client N} {call : Call} {calls : List Call} :
      allowed c call → Step net c call c₁ → Run allowed c₁ calls c₂ →
      Run allowed c (call :: calls) c₂

/-- What every allowed step keeps holds at the end of every run. -/
theorem Run.invariant {allowed : Client N → Call → Prop} (I : Client N → Prop)
    (hStep : ∀ c call c', I c → allowed c call → Step net c call c' → I c')
    {c c' : Client N} {calls : List Call} (hRun : Run net allowed c calls c') (h0 : I c) :
    I c' := by
  induction hRun with
  | nil => exact h0
  | cons hAllowed hs _ ih => exact ih (hStep _ _ _ h0 hAllowed hs)

/-! ### The replica invariant -/

/-- Every cached snapshot is the map's object at its address. -/
def Coherent (cache : SequenceAddress → Option Sequence) (m : DataMap) : Prop :=
  ∀ a s, cache a = some s → m a = some s

structure Mirrors (c : Client DataMap) : Prop where
  wellKeyed : WellKeyed c.network
  coherent : Coherent c.sequenceCache c.network

theorem coherent_update {cache : SequenceAddress → Option Sequence} {m : DataMap}
    (h : Coherent cache m) (a : SequenceAddress) (s : Sequence) :
    Coherent (Function.update cache a (some s)) (Function.update m a (some s)) := by
  intro b t hb
  by_cases hba : b = a
  · subst hba
    rw [Function.update_same] at hb ⊢
    exact hb
  · rw [Function.update_noteq hba] at hb ⊢
    exact h b t hb

/-- Caching the map's own object keeps the cache coherent. -/
theorem coherent_put {cache : SequenceAddress → Option Sequence} {m : DataMap}
    (h : Coherent cache m) {s : Sequence} (hs : m s.address = some s) :
    Coherent (Function.update cache s.address (some s)) m := by
  intro b t hb
  by_cases hba : b = s.address
  · subst hba
    rw [Function.update_same] at hb
    cases hb
    exact hs
  · rw [Function.update_noteq hba] at hb
    exact h b t hb

/-- A write to an address the cache does not hold keeps it coherent. -/
theorem coherent_write_uncached {cache : SequenceAddress → Option Sequence} {m : DataMap}
    (h : Coherent cache m) {w : SequenceWrite} (hw : cache w.address = none) :
    Coherent cache (applyWrite w m) := by
  intro b t hb
  have hne : b ≠ w.address := by rintro rfl; rw [hw] at hb; cases hb
  rw [applyWrite_of_ne hne]
  exact h b t hb

variable {writeCost : Money} {payee : PublicKey}

theorem mirrors_getSequence {c : Client DataMap} (hInv : Mirrors c) (address : SequenceAddress) :
    Mirrors (stateAfter (getSequence (replicaNetwork writeCost payee) address c)) := by
  rw [getSequence_replica]
  split
  · exact hInv
  · split
    · next s hs => exact ⟨hInv.wellKeyed, coherent_put hInv.coherent (by rwa [hInv.wellKeyed _ _ hs])⟩
    · exact ⟨hInv.wellKeyed, hInv.coherent⟩

/-- The snapshot a fetch returns is cached, under its own address. -/
theorem getSequence_cached {c c₁ : Client DataMap} (hInv : Mirrors c) {address : SequenceAddress}
    {s : Sequence} (h : getSequence (replicaNetwork writeCost payee) address c = .ok s c₁) :
    c₁.sequenceCache s.address = some s := by
  rw [getSequence_replica] at h
  split at h
  · next t ht =>
      cases h
      rwa [hInv.wellKeyed _ _ (hInv.coherent _ _ ht)]
  · split at h
    · cases h; exact Function.update_same _ _ _
    · cases h

theorem mirrors_storeSequence {c c' : Client DataMap} (hInv : Mirrors c)
    {address : SequenceAddress} {data : Sequence} {owner : PublicKey}
    {sequence : Option (List SequenceEntry)} {r : SequenceAddress}
    (h : storeSequence (replicaNetwork writeCost payee) address data owner sequence c = .ok r c') :
    Mirrors c' := by
  rw [storeSequence_apply] at h
  dsimp only at h
  split at h
  · next c₁ hPay =>
      cases h
      obtain ⟨hNet, hCache⟩ := payAndSend_replica hPay
      refine ⟨?_, ?_⟩
      · dsimp only; rw [hNet]; exact wellKeyed_applyWrite hInv.wellKeyed _
      · dsimp only; rw [hNet, hCache]; exact coherent_update hInv.coherent _ _
  · cases h

/-- `write` does to the map's object what `mutate` did to the snapshot. -/
def MirrorsWrite {α : Type} (mutate : Sequence → Except SndError (Sequence × α))
    (write : α → SequenceWrite) : Prop :=
  ∀ s s' op, mutate s = .ok (s', op) → s'.address = s.address ∧
    ∀ m : DataMap, m s.address = some s →
      applyWrite (write op) m = Function.update m s.address (some s')

theorem mirrors_mutateChecked {α : Type} {c c' : Client DataMap} (hInv : Mirrors c)
    {address : SequenceAddress} {action : SequenceAction}
    {mutate : Sequence → Except SndError (Sequence × α)} {write : α → SequenceWrite}
    (hw : MirrorsWrite mutate write)
    (h : mutateChecked (replicaNetwork writeCost payee) address action mutate
      (fun op => payAndSend (replicaNetwork writeCost payee) (write op)) c = .ok () c') :
    Mirrors c' := by
  rw [mutateChecked_apply] at h
  cases hg : getSequence (replicaNetwork writeCost payee) address c with
  | error f c₁ => rw [hg] at h; cases h
  | ok s c₁ =>
      have hInv₁ : Mirrors c₁ := by
        have h₁ : Mirrors (stateAfter (getSequence (replicaNetwork writeCost payee) address c)) :=
          mirrors_getSequence hInv address
        rwa [hg] at h₁
      have hAt : c₁.network s.address = some s :=
        hInv₁.coherent _ _ (getSequence_cached hInv hg)
      rw [hg] at h
      dsimp only at h
      cases hc : s.checkPermission action c₁.publicKey with
      | error e => rw [hc] at h; cases h
      | ok u =>
          cases u
          cases hm : mutate s with
          | error e => rw [hc, hm] at h; cases h
          | ok r =>
              obtain ⟨s', op⟩ := r
              rw [hc, hm] at h
              obtain ⟨hAddr, hApply⟩ := hw s s' op hm
              obtain ⟨hNet, hCache⟩ := payAndSend_replica h
              refine ⟨?_, ?_⟩
              · rw [hNet]; exact wellKeyed_applyWrite hInv₁.wellKeyed _
              · rw [hNet, hCache]
                rw [hApply c₁.network hAt, hAddr]
                exact coherent_update hInv₁.coherent _ _

theorem mirrors_payAndSend_uncached {c c' : Client DataMap} (hInv : Mirrors c)
    {write : SequenceWrite} (h : payAndSend (replicaNetwork writeCost payee) write c = .ok () c')
    (hw : c.sequenceCache write.address = none) : Mirrors c' := by
  obtain ⟨hNet, hCache⟩ := payAndSend_replica h
  refine ⟨?_, ?_⟩
  · rw [hNet]; exact wellKeyed_applyWrite hInv.wellKeyed _
  · rw [hNet, hCache]; exact coherent_write_uncached hInv.coherent hw

/-- Deleting keeps the cache coherent unless it holds a private sequence at the address. -/
theorem mirrors_deleteSequence {c c' : Client DataMap} (hInv : Mirrors c)
    {address : SequenceAddress} (hPub : ∀ d, c.sequenceCache address ≠ some (.priv d))
    (h : deleteSequence (replicaNetwork writeCost payee) address c = .ok () c') : Mirrors c' := by
  cases hx : c.sequenceCache address with
  | none => exact mirrors_payAndSend_uncached hInv h hx
  | some s =>
      obtain ⟨hNet, hCache⟩ := payAndSend_replica h
      cases s with
      | priv d => exact absurd hx (hPub d)
      | pub d =>
          have hKept : applyWrite (.delete address) c.network = c.network := by
            simp only [applyWrite, hInv.coherent _ _ hx]
          rw [hKept] at hNet
          exact ⟨hNet ▸ hInv.wellKeyed, hNet ▸ hCache ▸ hInv.coherent⟩

theorem mirrors_storePrivateSequence {c c' : Client DataMap} (hInv : Mirrors c)
    {sequence : Option (List SequenceEntry)} {name : XorName} {tag : UInt64} {owner : PublicKey}
    {permissions : List (PublicKey × SequencePrivUserPermissions)} {r : SequenceAddress}
    (h : storePrivateSequence (replicaNetwork writeCost payee) sequence name tag owner permissions c =
      .ok r c') : Mirrors c' := by
  rw [storePrivateSequence_apply] at h
  split at h
  · exact mirrors_storeSequence hInv h
  · cases h

theorem mirrors_storePublicSequence {c c' : Client DataMap} (hInv : Mirrors c)
    {sequence : Option (List SequenceEntry)} {name : XorName} {tag : UInt64} {owner : PublicKey}
    {permissions : List (SequenceUser × SequencePubUserPermissions)} {r : SequenceAddress}
    (h : storePublicSequence (replicaNetwork writeCost payee) sequence name tag owner permissions c =
      .ok r c') : Mirrors c' := by
  rw [storePublicSequence_apply] at h
  split at h
  · exact mirrors_storeSequence hInv h
  · cases h

/-! ### The four checked mutations mirror their writes -/

theorem mirrorsWrite_append (entry : SequenceEntry) :
    MirrorsWrite (fun s => .ok (s.append entry)) SequenceWrite.edit := by
  rintro s s' op ⟨⟩
  exact ⟨Sequence.address_applyEdit s entry, fun _ hm => editAt_of_some hm _⟩

theorem mirrorsWrite_setOwner (owner : PublicKey) :
    MirrorsWrite (fun s => .ok (s.setOwner owner)) SequenceWrite.setOwner := by
  rintro s s' op ⟨⟩
  exact ⟨Sequence.address_applyOwner s _, fun _ hm => editAt_of_some hm _⟩

theorem mirrorsWrite_setPubPermissions
    (permissions : List (SequenceUser × SequencePubUserPermissions)) :
    MirrorsWrite (·.setPubPermissions permissions) SequenceWrite.setPublicPermissions := by
  intro s s' op h
  obtain ⟨hAddr, rfl⟩ := Sequence.setPubPermissions_ok h
  refine ⟨Sequence.address_applyPublicPermissions s _, fun _ hm => ?_⟩
  rw [applyWrite, hAddr]
  exact editAt_of_some hm _

theorem mirrorsWrite_setPrivatePermissions
    (permissions : List (PublicKey × SequencePrivUserPermissions)) :
    MirrorsWrite (·.setPrivatePermissions permissions) SequenceWrite.setPrivatePermissions := by
  intro s s' op h
  obtain ⟨hAddr, rfl⟩ := Sequence.setPrivatePermissions_ok h
  refine ⟨Sequence.address_applyPrivatePermissions s _, fun _ hm => ?_⟩
  rw [applyWrite, hAddr]
  exact editAt_of_some hm _

/-! ### Runs -/

theorem Step.returned {c c' : Client N} {call : Call} (hs : Step net c call c')
    (hWrite : call.isRead = false) : call.run net c = .ok () c' :=
  hs.resolve_right fun h => Bool.false_ne_true (hWrite.symm.trans h.1)

/-- One admissible call keeps the replica invariant. -/
theorem mirrors_step {c c' : Client DataMap} {call : Call} (hInv : Mirrors c)
    (hAllowed : call.Admissible c) (hs : Step (replicaNetwork writeCost payee) c call c') :
    Mirrors c' := by
  cases call with
  | getSequence address =>
      have hAfter : stateAfter ((Call.getSequence address).run (replicaNetwork writeCost payee) c) =
          c' := by
        rcases hs with h | ⟨-, f, h⟩ <;> rw [h] <;> rfl
      rw [← hAfter, Call.run, stateAfter_discard]
      exact mirrors_getSequence hInv address
  | storePrivateSequence =>
      obtain ⟨r, h⟩ := discard_eq_ok (hs.returned _ rfl)
      exact mirrors_storePrivateSequence hInv h
  | storePublicSequence =>
      obtain ⟨r, h⟩ := discard_eq_ok (hs.returned _ rfl)
      exact mirrors_storePublicSequence hInv h
  | appendToSequence address entry =>
      exact mirrors_mutateChecked hInv (mirrorsWrite_append entry) (hs.returned _ rfl)
  | deleteSequence address => exact mirrors_deleteSequence hInv hAllowed (hs.returned _ rfl)
  | setSequenceOwner op => exact mirrors_payAndSend_uncached hInv (hs.returned _ rfl) hAllowed
  | sequenceSetOwner address owner =>
      exact mirrors_mutateChecked hInv (mirrorsWrite_setOwner owner) (hs.returned _ rfl)
  | editSequencePrivatePerms op =>
      exact mirrors_payAndSend_uncached hInv (hs.returned _ rfl) hAllowed
  | editSequencePublicPerms op =>
      exact mirrors_payAndSend_uncached hInv (hs.returned _ rfl) hAllowed
  | sequenceSetPubPermissions address permissions =>
      exact mirrors_mutateChecked hInv (mirrorsWrite_setPubPermissions permissions)
        (hs.returned _ rfl)
  | sequenceSetPrivatePermissions address permissions =>
      exact mirrors_mutateChecked hInv (mirrorsWrite_setPrivatePermissions permissions)
        (hs.returned _ rfl)

/-- Along every admissible run from an empty cache, the cache holds at each address nothing or
the map's object, and `get_sequence` returns the map's current object. -/
theorem replica_read_your_writes {c c' : Client DataMap} {calls : List Call}
    (hEmpty : c.sequenceCache = fun _ => none) (hKeyed : WellKeyed c.network)
    (hRun : Run (replicaNetwork writeCost payee) Call.Admissible c calls c') :
    (∀ a, c'.sequenceCache a = none ∨ c'.sequenceCache a = c'.network a) ∧
    (∀ a, c'.network a = none → c'.sequenceCache a = none) ∧
    ∀ a s c'', getSequence (replicaNetwork writeCost payee) a c' = .ok s c'' →
      c'.network a = some s := by
  have hInv : Mirrors c' :=
    Run.invariant _ Mirrors (fun _ _ _ hInv hA hs => mirrors_step hInv hA hs) hRun
      ⟨hKeyed, fun a s h => by rw [hEmpty] at h; cases h⟩
  have hCached : ∀ a s, c'.sequenceCache a = some s → c'.network a = some s := hInv.coherent
  refine ⟨fun a => ?_, fun a hNone => ?_, fun a s c'' h => ?_⟩
  · cases hx : c'.sequenceCache a with
    | none => exact .inl rfl
    | some s => exact .inr (hCached a s hx).symm
  · cases hx : c'.sequenceCache a with
    | none => rfl
    | some s => rw [hCached a s hx] at hNone; cases hNone
  · rw [getSequence_replica] at h
    split at h
    · next t ht => cases h; exact hCached a _ ht
    · split at h
      · next t ht => cases h; exact ht
      · cases h

theorem replica_read_your_writes_store_append_read :
    ∃ c', (freshClient ⟨1⟩ ⟨10⟩ fun _ => none).sequenceCache = (fun _ => none) ∧
      WellKeyed (freshClient ⟨1⟩ ⟨10⟩ fun _ => none).network ∧
      Run (replicaNetwork ⟨1⟩ ⟨0⟩) Call.Admissible (freshClient ⟨1⟩ ⟨10⟩ fun _ => none)
        [.storePrivateSequence none ⟨7⟩ 0 ⟨1⟩ [], .appendToSequence ⟨.priv, ⟨7⟩, 0⟩ [5],
          .getSequence ⟨.priv, ⟨7⟩, 0⟩] c' ∧
      (∀ a, c'.sequenceCache a = none ∨ c'.sequenceCache a = c'.network a) ∧
      (∀ a, c'.network a = none → c'.sequenceCache a = none) ∧
      ∀ a s c'', getSequence (replicaNetwork ⟨1⟩ ⟨0⟩) a c' = .ok s c'' → c'.network a = some s := by
  have hKeyed : WellKeyed (freshClient ⟨1⟩ ⟨10⟩ fun _ => none).network := by
    intro _ _ h; cases h
  obtain ⟨c', hRun⟩ : ∃ c', Run (replicaNetwork ⟨1⟩ ⟨0⟩) Call.Admissible
      (freshClient ⟨1⟩ ⟨10⟩ fun _ => none)
      [.storePrivateSequence none ⟨7⟩ 0 ⟨1⟩ [], .appendToSequence ⟨.priv, ⟨7⟩, 0⟩ [5],
        .getSequence ⟨.priv, ⟨7⟩, 0⟩] c' :=
    ⟨_, .cons trivial (.inl rfl) (.cons trivial (.inl rfl) (.cons trivial (.inl rfl) (.nil _)))⟩
  exact ⟨c', rfl, hKeyed, hRun, replica_read_your_writes rfl hKeyed hRun⟩

/-- A private sequence stored then deleted is gone from the map, yet `get_sequence` still
returns it from the cache (the delete test expects `NoSuchData`); one given an owner through
the raw `set_sequence_owner` stays cached as it was. -/
theorem replica_stale_after_delete_or_raw_write :
    (∃ c', Run (replicaNetwork ⟨1⟩ ⟨0⟩) (fun _ _ => True) (freshClient ⟨1⟩ ⟨10⟩ fun _ => none)
        [.storePrivateSequence none ⟨7⟩ 0 ⟨1⟩ [], .deleteSequence ⟨.priv, ⟨7⟩, 0⟩] c' ∧
      c'.network ⟨.priv, ⟨7⟩, 0⟩ = none ∧ ∃ s, c'.sequenceCache ⟨.priv, ⟨7⟩, 0⟩ = some s ∧
        getSequence (replicaNetwork ⟨1⟩ ⟨0⟩) ⟨.priv, ⟨7⟩, 0⟩ c' = .ok s c') ∧
    (∃ c', Run (replicaNetwork ⟨1⟩ ⟨0⟩) (fun _ _ => True) (freshClient ⟨1⟩ ⟨10⟩ fun _ => none)
        [.storePrivateSequence none ⟨7⟩ 0 ⟨1⟩ [],
          .setSequenceOwner ⟨⟨.priv, ⟨7⟩, 0⟩, ⟨⟨2⟩, 0, 1⟩⟩] c' ∧
      c'.sequenceCache ⟨.priv, ⟨7⟩, 0⟩ ≠ none ∧
      c'.sequenceCache ⟨.priv, ⟨7⟩, 0⟩ ≠ c'.network ⟨.priv, ⟨7⟩, 0⟩) :=
  ⟨⟨_, .cons trivial (.inl rfl) (.cons trivial (.inl rfl) (.nil _)), by decide, _, rfl, rfl⟩,
    ⟨_, .cons trivial (.inl rfl) (.cons trivial (.inl rfl) (.nil _)), by decide, by decide⟩⟩

end SafeCore
