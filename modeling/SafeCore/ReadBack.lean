import SafeCore.Accessors
import SafeCore.ReadThrough

/-!
Reading back what the client wrote: a store or checked mutation that returns has filed its
snapshot in the cache, so every accessor then reads it from there without a query.
-/

namespace SafeCore

namespace Sequence

theorem foldl_append_priv (es : List SequenceEntry) (d : SeqData SequencePrivatePermissions) :
    es.foldl (fun s e => (s.append e).1) (priv d) = priv { d with entries := d.entries ++ es } := by
  induction es generalizing d with
  | nil => simp
  | cons e es ih =>
      rw [List.foldl_cons, show ((priv d).append e).1 = priv { d with entries := d.entries ++ [e] }
        from rfl, ih]
      simp

theorem foldl_append_pub (es : List SequenceEntry) (d : SeqData SequencePublicPermissions) :
    es.foldl (fun s e => (s.append e).1) (pub d) = pub { d with entries := d.entries ++ es } := by
  induction es generalizing d with
  | nil => simp
  | cons e es ih =>
      rw [List.foldl_cons, show ((pub d).append e).1 = pub { d with entries := d.entries ++ [e] }
        from rfl, ih]
      simp

@[simp] theorem entries_applyEdit (s : Sequence) (e : SequenceEntry) :
    (s.applyEdit e).entries = s.entries ++ [e] := by cases s <;> rfl

theorem entries_foldl_applyEdit (entries : List SequenceEntry) (s : Sequence) :
    (entries.foldl applyEdit s).entries = s.entries ++ entries := by
  induction entries generalizing s with
  | nil => simp
  | cons e es ih => simp [ih]

@[simp] theorem owners_applyOwner (s : Sequence) (o : SequenceOwner) :
    (s.applyOwner o).owners = s.owners ++ [o] := by cases s <;> rfl

end Sequence

variable {N β : Type} (net : Network N)

/-! ### Reading a cached snapshot -/

section Cached

variable {address : SequenceAddress} {c : Client N} {s : Sequence}

/-- The range from an index to the end, read from the cache: the entries from it on, or
`NoSuchEntry` once the index reaches the end. -/
theorem getSequenceRange_fromStart_cached (hc : c.sequenceCache address = some s) (i : Nat) :
    getSequenceRange net address (.fromStart i, .fromEnd 0) c =
      if i < s.entries.length then .ok (s.entries.drop i) c
      else .error (.error (.dataError .noSuchEntry)) c := by
  simp only [getSequenceRange, bind_apply, getSequence_hit net hc,
    Sequence.inRange_fromStart_fromEnd_zero]
  split <;> rfl

theorem getSequenceRange_cached (hc : c.sequenceCache address = some s) (hne : s.entries ≠ []) :
    getSequenceRange net address (.fromStart 0, .fromEnd 0) c = .ok s.entries c := by
  rw [getSequenceRange_fromStart_cached net hc, if_pos (List.length_pos.mpr hne), List.drop_zero]

theorem getSequenceLastEntry_cached (hc : c.sequenceCache address = some s) :
    getSequenceLastEntry net address c = match s.entries.getLast? with
      | some entry => .ok (s.entries.length - 1, entry) c
      | none => .error (.error (.dataError .noSuchEntry)) c := by
  rw [getSequenceLastEntry_apply, getSequence_hit net hc]
  rfl

end Cached

/-! ### Stores -/

theorem storePrivateSequence_ok {sequence : Option (List SequenceEntry)} {name : XorName}
    {tag : UInt64} {owner : PublicKey} {permissions : List (PublicKey × SequencePrivUserPermissions)}
    {c c' : Client N} {address : SequenceAddress}
    (h : storePrivateSequence net sequence name tag owner permissions c = .ok address c') :
    address = ⟨.priv, name, tag⟩ ∧ c'.sequenceCache address =
      some (.priv ⟨name, tag, c.publicKey, sequence.getD [], [⟨owner, 0, 1⟩], [⟨permissions, 0, 0⟩]⟩) := by
  rw [storePrivateSequence_apply] at h
  dsimp only [Sequence.newPrivate, Sequence.setPrivatePermissions] at h
  rw [storeSequence_apply] at h
  dsimp only at h
  split at h
  · cases h
    simp only [Sequence.setOwner, Sequence.applyOwner, Sequence.applyPrivatePermissions]
    rw [Sequence.foldl_append_priv]
    simp [Sequence.address, Sequence.entriesIndex, Sequence.permissionsIndex, Sequence.ownersIndex,
      Sequence.entries, Sequence.owners]
  · cases h

theorem storePublicSequence_ok {sequence : Option (List SequenceEntry)} {name : XorName}
    {tag : UInt64} {owner : PublicKey} {permissions : List (SequenceUser × SequencePubUserPermissions)}
    {c c' : Client N} {address : SequenceAddress}
    (h : storePublicSequence net sequence name tag owner permissions c = .ok address c') :
    address = ⟨.pub, name, tag⟩ ∧ c'.sequenceCache address =
      some (.pub ⟨name, tag, c.publicKey, sequence.getD [], [⟨owner, 0, 1⟩], [⟨permissions, 0, 0⟩]⟩) := by
  rw [storePublicSequence_apply] at h
  dsimp only [Sequence.newPub, Sequence.setPubPermissions] at h
  rw [storeSequence_apply] at h
  dsimp only at h
  split at h
  · cases h
    simp only [Sequence.setOwner, Sequence.applyOwner, Sequence.applyPublicPermissions]
    rw [Sequence.foldl_append_pub]
    simp [Sequence.address, Sequence.entriesIndex, Sequence.permissionsIndex, Sequence.ownersIndex,
      Sequence.entries, Sequence.owners]
  · cases h

/-- Once `store_private_sequence` returns, every accessor reads back what was stored, from the
cache: the entries from each index, the owner and the permissions, looked up per key. -/
theorem storePrivateSequence_read_back {sequence : Option (List SequenceEntry)} {name : XorName}
    {tag : UInt64} {owner : PublicKey} {permissions : List (PublicKey × SequencePrivUserPermissions)}
    {c c' : Client N} {address : SequenceAddress}
    (h : storePrivateSequence net sequence name tag owner permissions c = .ok address c') :
    address = ⟨.priv, name, tag⟩ ∧
    (∀ i, getSequenceRange net address (.fromStart i, .fromEnd 0) c' =
      if i < (sequence.getD []).length then .ok ((sequence.getD []).drop i) c'
      else .error (.error (.dataError .noSuchEntry)) c') ∧
    getSequenceLastEntry net address c' = (match (sequence.getD []).getLast? with
      | some entry => .ok ((sequence.getD []).length - 1, entry) c'
      | none => .error (.error (.dataError .noSuchEntry)) c') ∧
    getSequenceOwner net address c' = .ok ⟨owner, 0, 1⟩ c' ∧
    getSequencePrivatePermissions net address c' = .ok ⟨permissions, 0, 0⟩ c' ∧
    ∀ key, getSequenceUserPermissions net address (.key key) c' = (match permissions.lookup key with
      | some p => .ok (.priv p) c'
      | none => .error (.error (.dataError .noSuchEntry)) c') := by
  obtain ⟨rfl, hc⟩ := storePrivateSequence_ok net h
  have hit := getSequence_hit net hc
  refine ⟨rfl, getSequenceRange_fromStart_cached net hc, getSequenceLastEntry_cached net hc, ?_, ?_,
    fun key => ?_⟩
  · rw [getSequenceOwner, readCurrent_apply, hit]
    rfl
  · rw [getSequencePrivatePermissions, readCurrent_apply, hit]
    rfl
  · rw [getSequenceUserPermissions, readCurrent_apply, hit]
    cases hp : permissions.lookup key <;>
      simp [Sequence.permissionsIndex, Sequence.userPermissions, hp, Except.mapError]

theorem storePrivateSequence_read_back_one_entry :
    ∃ c', storePrivateSequence (replicaNetwork ⟨1⟩ ⟨0⟩) (some [[5]]) ⟨7⟩ 0 ⟨1⟩ [(⟨2⟩, ⟨true, true, false⟩)]
        (freshClient ⟨1⟩ ⟨10⟩ fun _ => none) = .ok ⟨.priv, ⟨7⟩, 0⟩ c' ∧
      getSequenceRange (replicaNetwork ⟨1⟩ ⟨0⟩) ⟨.priv, ⟨7⟩, 0⟩ (.fromStart 0, .fromEnd 0) c' = .ok [[5]] c' ∧
      getSequenceRange (replicaNetwork ⟨1⟩ ⟨0⟩) ⟨.priv, ⟨7⟩, 0⟩ (.fromStart 1, .fromEnd 0) c' =
        .error (.error (.dataError .noSuchEntry)) c' ∧
      getSequenceLastEntry (replicaNetwork ⟨1⟩ ⟨0⟩) ⟨.priv, ⟨7⟩, 0⟩ c' = .ok (0, [5]) c' ∧
      getSequenceOwner (replicaNetwork ⟨1⟩ ⟨0⟩) ⟨.priv, ⟨7⟩, 0⟩ c' = .ok ⟨⟨1⟩, 0, 1⟩ c' ∧
      getSequencePrivatePermissions (replicaNetwork ⟨1⟩ ⟨0⟩) ⟨.priv, ⟨7⟩, 0⟩ c' =
        .ok ⟨[(⟨2⟩, ⟨true, true, false⟩)], 0, 0⟩ c' ∧
      getSequenceUserPermissions (replicaNetwork ⟨1⟩ ⟨0⟩) ⟨.priv, ⟨7⟩, 0⟩ (.key ⟨2⟩) c' =
        .ok (.priv ⟨true, true, false⟩) c' := by
  have h := storePrivateSequence_read_back (replicaNetwork ⟨1⟩ ⟨0⟩)
    (show storePrivateSequence (replicaNetwork ⟨1⟩ ⟨0⟩) (some [[5]]) ⟨7⟩ 0 ⟨1⟩ [(⟨2⟩, ⟨true, true, false⟩)]
      (freshClient ⟨1⟩ ⟨10⟩ fun _ => none) = .ok ⟨.priv, ⟨7⟩, 0⟩ _ from rfl)
  exact ⟨_, rfl, (h.2.1 0).trans (if_pos (by decide)), (h.2.1 1).trans (if_neg (by decide)),
    h.2.2.1, h.2.2.2.1, h.2.2.2.2.1, h.2.2.2.2.2 ⟨2⟩⟩

/-- Storing a public sequence reads back as a private one does; the permissions are looked up
per user, `Anyone` included. -/
theorem storePublicSequence_read_back {sequence : Option (List SequenceEntry)} {name : XorName}
    {tag : UInt64} {owner : PublicKey} {permissions : List (SequenceUser × SequencePubUserPermissions)}
    {c c' : Client N} {address : SequenceAddress}
    (h : storePublicSequence net sequence name tag owner permissions c = .ok address c') :
    address = ⟨.pub, name, tag⟩ ∧
    (∀ i, getSequenceRange net address (.fromStart i, .fromEnd 0) c' =
      if i < (sequence.getD []).length then .ok ((sequence.getD []).drop i) c'
      else .error (.error (.dataError .noSuchEntry)) c') ∧
    getSequenceLastEntry net address c' = (match (sequence.getD []).getLast? with
      | some entry => .ok ((sequence.getD []).length - 1, entry) c'
      | none => .error (.error (.dataError .noSuchEntry)) c') ∧
    getSequenceOwner net address c' = .ok ⟨owner, 0, 1⟩ c' ∧
    getSequencePubPermissions net address c' = .ok ⟨permissions, 0, 0⟩ c' ∧
    ∀ user, getSequenceUserPermissions net address user c' = (match permissions.lookup user with
      | some p => .ok (.pub p) c'
      | none => .error (.error (.dataError .noSuchEntry)) c') := by
  obtain ⟨rfl, hc⟩ := storePublicSequence_ok net h
  have hit := getSequence_hit net hc
  refine ⟨rfl, getSequenceRange_fromStart_cached net hc, getSequenceLastEntry_cached net hc, ?_, ?_,
    fun user => ?_⟩
  · rw [getSequenceOwner, readCurrent_apply, hit]
    rfl
  · rw [getSequencePubPermissions, readCurrent_apply, hit]
    rfl
  · rw [getSequenceUserPermissions, readCurrent_apply, hit]
    cases hp : permissions.lookup user <;>
      simp [Sequence.permissionsIndex, Sequence.userPermissions, hp, Except.mapError]

theorem storePublicSequence_read_back_one_entry :
    ∃ c', storePublicSequence (replicaNetwork ⟨1⟩ ⟨0⟩) (some [[5]]) ⟨7⟩ 0 ⟨1⟩ [(.anyone, ⟨some true, none⟩)]
        (freshClient ⟨1⟩ ⟨10⟩ fun _ => none) = .ok ⟨.pub, ⟨7⟩, 0⟩ c' ∧
      getSequenceRange (replicaNetwork ⟨1⟩ ⟨0⟩) ⟨.pub, ⟨7⟩, 0⟩ (.fromStart 0, .fromEnd 0) c' = .ok [[5]] c' ∧
      getSequenceRange (replicaNetwork ⟨1⟩ ⟨0⟩) ⟨.pub, ⟨7⟩, 0⟩ (.fromStart 1, .fromEnd 0) c' =
        .error (.error (.dataError .noSuchEntry)) c' ∧
      getSequenceLastEntry (replicaNetwork ⟨1⟩ ⟨0⟩) ⟨.pub, ⟨7⟩, 0⟩ c' = .ok (0, [5]) c' ∧
      getSequenceOwner (replicaNetwork ⟨1⟩ ⟨0⟩) ⟨.pub, ⟨7⟩, 0⟩ c' = .ok ⟨⟨1⟩, 0, 1⟩ c' ∧
      getSequencePubPermissions (replicaNetwork ⟨1⟩ ⟨0⟩) ⟨.pub, ⟨7⟩, 0⟩ c' =
        .ok ⟨[(.anyone, ⟨some true, none⟩)], 0, 0⟩ c' ∧
      getSequenceUserPermissions (replicaNetwork ⟨1⟩ ⟨0⟩) ⟨.pub, ⟨7⟩, 0⟩ .anyone c' =
        .ok (.pub ⟨some true, none⟩) c' := by
  have h := storePublicSequence_read_back (replicaNetwork ⟨1⟩ ⟨0⟩)
    (show storePublicSequence (replicaNetwork ⟨1⟩ ⟨0⟩) (some [[5]]) ⟨7⟩ 0 ⟨1⟩ [(.anyone, ⟨some true, none⟩)]
      (freshClient ⟨1⟩ ⟨10⟩ fun _ => none) = .ok ⟨.pub, ⟨7⟩, 0⟩ _ from rfl)
  exact ⟨_, rfl, (h.2.1 0).trans (if_pos (by decide)), (h.2.1 1).trans (if_neg (by decide)),
    h.2.2.1, h.2.2.2.1, h.2.2.2.2.1, h.2.2.2.2.2 .anyone⟩

/-! ### Checked mutations -/

/-- A checked mutation that returns has filed the mutated snapshot under its own address. -/
theorem mutateChecked_ok {address : SequenceAddress} {action : SequenceAction}
    {mutate : Sequence → Except SndError (Sequence × β)} {send : β → ClientM N Unit}
    (hSend : ∀ op, Preserves (·.sequenceCache) (send op)) {c c' : Client N}
    (h : mutateChecked net address action mutate send c = .ok () c') :
    ∃ s c₁ s' op, getSequence net address c = .ok s c₁ ∧ mutate s = .ok (s', op) ∧
      c'.sequenceCache s'.address = some s' := by
  rw [mutateChecked_apply] at h
  split at h
  · cases h
  · next s c₁ hg =>
      split at h
      · cases h
      · cases h
      · next s' op _ hm =>
          refine ⟨s, c₁, s', op, hg, hm, ?_⟩
          rw [(hSend op).of_ok h]
          exact Function.update_same _ _ _

/-- The paid writes the checked mutations end with keep the cache. -/
theorem preserves_cache_payAndSend (write : SequenceWrite) :
    Preserves (·.sequenceCache) (payAndSend net write : ClientM N Unit) :=
  (keepsReplica_payAndSend net write).1

/-- Once `append_to_sequence` returns, the fetched sequence reads back with the entry appended,
the new entry last at the index the sequence's length had when fetched. -/
theorem appendToSequence_read_back {address : SequenceAddress} {entry : SequenceEntry}
    {c c' : Client N} (h : appendToSequence net address entry c = .ok () c') :
    ∃ s c₁, getSequence net address c = .ok s c₁ ∧
      getSequenceLastEntry net s.address c' = .ok (s.entriesIndex, entry) c' ∧
      getSequenceRange net s.address (.fromStart 0, .fromEnd 0) c' = .ok (s.entries ++ [entry]) c' := by
  obtain ⟨s, c₁, s', op, hg, hm, hc⟩ := mutateChecked_ok net (fun _ => preserves_cache_payAndSend net _) h
  cases hm
  simp only [Sequence.address_applyEdit] at hc
  refine ⟨s, c₁, hg, ?_, ?_⟩
  · rw [getSequenceLastEntry_cached net hc]
    simp [Sequence.entriesIndex]
  · rw [getSequenceRange_cached net hc (by simp), Sequence.entries_applyEdit]

theorem appendToSequence_read_back_owned :
    ∃ c', appendToSequence (replicaNetwork ⟨1⟩ ⟨0⟩) ⟨.priv, ⟨7⟩, 0⟩ [5]
        (freshClient ⟨1⟩ ⟨10⟩ fun a => if a = ⟨.priv, ⟨7⟩, 0⟩
          then some (.priv ⟨⟨7⟩, 0, ⟨1⟩, [], [⟨⟨1⟩, 0, 0⟩], []⟩) else none) = .ok () c' ∧
      ∃ s c₁, getSequence (replicaNetwork ⟨1⟩ ⟨0⟩) ⟨.priv, ⟨7⟩, 0⟩
        (freshClient ⟨1⟩ ⟨10⟩ fun a => if a = ⟨.priv, ⟨7⟩, 0⟩
          then some (.priv ⟨⟨7⟩, 0, ⟨1⟩, [], [⟨⟨1⟩, 0, 0⟩], []⟩) else none) = .ok s c₁ ∧
        getSequenceLastEntry (replicaNetwork ⟨1⟩ ⟨0⟩) s.address c' = .ok (s.entriesIndex, [5]) c' ∧
        getSequenceRange (replicaNetwork ⟨1⟩ ⟨0⟩) s.address (.fromStart 0, .fromEnd 0) c' =
          .ok (s.entries ++ [[5]]) c' :=
  ⟨_, rfl, appendToSequence_read_back (replicaNetwork ⟨1⟩ ⟨0⟩) rfl⟩

/-- Once `sequence_set_owner` returns, the owner read at the fetched sequence's address is the
new one, recorded at the entries and permissions indices the sequence had when fetched. -/
theorem sequenceSetOwner_read_back {address : SequenceAddress} {owner : PublicKey}
    {c c' : Client N} (h : sequenceSetOwner net address owner c = .ok () c') :
    ∃ s c₁, getSequence net address c = .ok s c₁ ∧
      getSequenceOwner net s.address c' = .ok ⟨owner, s.entriesIndex, s.permissionsIndex⟩ c' := by
  obtain ⟨s, c₁, s', op, hg, hm, hc⟩ := mutateChecked_ok net (fun _ => preserves_cache_payAndSend net _) h
  cases hm
  simp only [Sequence.address_applyOwner] at hc
  refine ⟨s, c₁, hg, ?_⟩
  rw [getSequenceOwner, readCurrent_apply, getSequence_hit net hc]
  simp [Sequence.ownersIndex, Sequence.owner]

theorem sequenceSetOwner_read_back_owned :
    ∃ c', sequenceSetOwner (replicaNetwork ⟨1⟩ ⟨0⟩) ⟨.priv, ⟨7⟩, 0⟩ ⟨2⟩
        (freshClient ⟨1⟩ ⟨10⟩ fun a => if a = ⟨.priv, ⟨7⟩, 0⟩
          then some (.priv ⟨⟨7⟩, 0, ⟨1⟩, [], [⟨⟨1⟩, 0, 0⟩], []⟩) else none) = .ok () c' ∧
      ∃ s c₁, getSequence (replicaNetwork ⟨1⟩ ⟨0⟩) ⟨.priv, ⟨7⟩, 0⟩
        (freshClient ⟨1⟩ ⟨10⟩ fun a => if a = ⟨.priv, ⟨7⟩, 0⟩
          then some (.priv ⟨⟨7⟩, 0, ⟨1⟩, [], [⟨⟨1⟩, 0, 0⟩], []⟩) else none) = .ok s c₁ ∧
        getSequenceOwner (replicaNetwork ⟨1⟩ ⟨0⟩) s.address c' =
          .ok ⟨⟨2⟩, s.entriesIndex, s.permissionsIndex⟩ c' :=
  ⟨_, rfl, sequenceSetOwner_read_back (replicaNetwork ⟨1⟩ ⟨0⟩) rfl⟩

/-- Once `sequence_set_pub_permissions` returns, the fetched sequence was public and its
permissions read back as the new ones, recorded at the indices it had when fetched. -/
theorem sequenceSetPubPermissions_read_back {address : SequenceAddress}
    {permissions : List (SequenceUser × SequencePubUserPermissions)} {c c' : Client N}
    (h : sequenceSetPubPermissions net address permissions c = .ok () c') :
    ∃ s c₁, getSequence net address c = .ok s c₁ ∧ s.isPrivate = false ∧
      getSequencePubPermissions net s.address c' =
        .ok ⟨permissions, s.entriesIndex, s.ownersIndex⟩ c' := by
  obtain ⟨s, c₁, s', op, hg, hm, hc⟩ := mutateChecked_ok net (fun _ => preserves_cache_payAndSend net _) h
  cases s with
  | priv d => cases hm
  | pub d =>
      cases hm
      rw [Sequence.address_applyPublicPermissions] at hc
      refine ⟨_, c₁, hg, rfl, ?_⟩
      rw [getSequencePubPermissions, readCurrent_apply, getSequence_hit net hc]
      simp [Sequence.permissionsIndex, Sequence.pubPermissions, Sequence.applyPublicPermissions,
        Except.mapError]

theorem sequenceSetPubPermissions_read_back_owned :
    ∃ c', sequenceSetPubPermissions (replicaNetwork ⟨1⟩ ⟨0⟩) ⟨.pub, ⟨7⟩, 0⟩
        [(.anyone, ⟨some true, none⟩)]
        (freshClient ⟨1⟩ ⟨10⟩ fun a => if a = ⟨.pub, ⟨7⟩, 0⟩
          then some (.pub ⟨⟨7⟩, 0, ⟨1⟩, [], [⟨⟨1⟩, 0, 0⟩], []⟩) else none) = .ok () c' ∧
      ∃ s c₁, getSequence (replicaNetwork ⟨1⟩ ⟨0⟩) ⟨.pub, ⟨7⟩, 0⟩
        (freshClient ⟨1⟩ ⟨10⟩ fun a => if a = ⟨.pub, ⟨7⟩, 0⟩
          then some (.pub ⟨⟨7⟩, 0, ⟨1⟩, [], [⟨⟨1⟩, 0, 0⟩], []⟩) else none) = .ok s c₁ ∧
        s.isPrivate = false ∧ getSequencePubPermissions (replicaNetwork ⟨1⟩ ⟨0⟩) s.address c' =
          .ok ⟨[(.anyone, ⟨some true, none⟩)], s.entriesIndex, s.ownersIndex⟩ c' :=
  ⟨_, rfl, sequenceSetPubPermissions_read_back (replicaNetwork ⟨1⟩ ⟨0⟩) rfl⟩

/-- Setting private permissions reads back as setting public ones does. -/
theorem sequenceSetPrivatePermissions_read_back {address : SequenceAddress}
    {permissions : List (PublicKey × SequencePrivUserPermissions)} {c c' : Client N}
    (h : sequenceSetPrivatePermissions net address permissions c = .ok () c') :
    ∃ s c₁, getSequence net address c = .ok s c₁ ∧ s.isPrivate = true ∧
      getSequencePrivatePermissions net s.address c' =
        .ok ⟨permissions, s.entriesIndex, s.ownersIndex⟩ c' := by
  obtain ⟨s, c₁, s', op, hg, hm, hc⟩ := mutateChecked_ok net (fun _ => preserves_cache_payAndSend net _) h
  cases s with
  | pub d => cases hm
  | priv d =>
      cases hm
      rw [Sequence.address_applyPrivatePermissions] at hc
      refine ⟨_, c₁, hg, rfl, ?_⟩
      rw [getSequencePrivatePermissions, readCurrent_apply, getSequence_hit net hc]
      simp [Sequence.permissionsIndex, Sequence.privatePermissions, Sequence.applyPrivatePermissions,
        Except.mapError]

theorem sequenceSetPrivatePermissions_read_back_owned :
    ∃ c', sequenceSetPrivatePermissions (replicaNetwork ⟨1⟩ ⟨0⟩) ⟨.priv, ⟨7⟩, 0⟩
        [(⟨2⟩, ⟨true, true, false⟩)]
        (freshClient ⟨1⟩ ⟨10⟩ fun a => if a = ⟨.priv, ⟨7⟩, 0⟩
          then some (.priv ⟨⟨7⟩, 0, ⟨1⟩, [], [⟨⟨1⟩, 0, 0⟩], []⟩) else none) = .ok () c' ∧
      ∃ s c₁, getSequence (replicaNetwork ⟨1⟩ ⟨0⟩) ⟨.priv, ⟨7⟩, 0⟩
        (freshClient ⟨1⟩ ⟨10⟩ fun a => if a = ⟨.priv, ⟨7⟩, 0⟩
          then some (.priv ⟨⟨7⟩, 0, ⟨1⟩, [], [⟨⟨1⟩, 0, 0⟩], []⟩) else none) = .ok s c₁ ∧
        s.isPrivate = true ∧ getSequencePrivatePermissions (replicaNetwork ⟨1⟩ ⟨0⟩) s.address c' =
          .ok ⟨[(⟨2⟩, ⟨true, true, false⟩)], s.entriesIndex, s.ownersIndex⟩ c' :=
  ⟨_, rfl, sequenceSetPrivatePermissions_read_back (replicaNetwork ⟨1⟩ ⟨0⟩) rfl⟩

end SafeCore
