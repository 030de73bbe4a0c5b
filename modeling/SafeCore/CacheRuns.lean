import SafeCore.ClientRuns
import SafeCore.ReadBack
import SafeCore.PermissionGate

/-!
The sequence cache along runs: it stays keyed by address, a loop of appends reads back in
order from it, and a snapshot cached after a handover closes the sequence to its former owner.
-/

namespace SafeCore

variable {N α : Type} (net : Network N) (receive : Receive)

/-! ### The cache stays keyed by address -/

/-- Whichever way `x` ends, a cache keyed by address stays so. -/
def KeepsKeyed (x : ClientM N α) : Prop :=
  ∀ c, WellKeyed c.sequenceCache → WellKeyed (stateAfter (x c)).sequenceCache

theorem KeepsKeyed.of_preserves {x : ClientM N α} (h : Preserves (·.sequenceCache) x) :
    KeepsKeyed x := by
  intro c hc
  have hx : (stateAfter (x c)).sequenceCache = c.sequenceCache := h c
  rwa [hx]

theorem KeepsKeyed.discard {x : ClientM N α} (h : KeepsKeyed x) :
    KeepsKeyed (discard x : ClientM N Unit) :=
  fun c hc => (stateAfter_discard x c).symm ▸ h c hc

theorem keepsKeyed_getSequence (address : SequenceAddress) :
    KeepsKeyed (getSequence net address) := by
  intro c hc
  cases h : getSequence net address c with
  | ok s c' =>
      rcases getSequence_ok_cache net h with h' | h' <;> rw [stateAfter_ok, h']
      · exact hc
      · exact wellKeyed_update hc s
  | error f c' => rw [stateAfter_error, getSequence_error_cache net h]; exact hc

theorem keepsKeyed_storeSequence (address : SequenceAddress) (data : Sequence) (owner : PublicKey)
    (sequence : Option (List SequenceEntry)) :
    KeepsKeyed (storeSequence net address data owner sequence) := by
  intro c hc
  have hPay := KeepsKeyed.of_preserves (preserves_cache_payAndSend net
    (.new ((sequence.getD []).foldl (fun d entry => (d.append entry).1)
      (data.setOwner owner).1))) c hc
  rw [storeSequence_apply]
  dsimp only
  split <;> rename_i h <;> rw [h] at hPay
  · exact wellKeyed_update hPay _
  · exact hPay

theorem keepsKeyed_mutateChecked {β : Type} (address : SequenceAddress) (action : SequenceAction)
    (mutate : Sequence → Except SndError (Sequence × β)) (send : β → ClientM N Unit)
    (hSend : ∀ op, Preserves (·.sequenceCache) (send op)) :
    KeepsKeyed (mutateChecked net address action mutate send) := by
  intro c hc
  have h₁ := keepsKeyed_getSequence net address c hc
  rw [mutateChecked_apply]
  cases hg : getSequence net address c with
  | error f c₁ => rw [hg] at h₁; exact h₁
  | ok s c₁ =>
      rw [hg] at h₁
      dsimp only
      split
      · exact h₁
      · exact h₁
      · exact KeepsKeyed.of_preserves (hSend _) _ (wellKeyed_update h₁ _)

theorem Call.keepsKeyed : ∀ call : Call, KeepsKeyed (call.run net)
  | .storePrivateSequence .. | .storePublicSequence .. => .discard fun c hc => by
      simp only [storePrivateSequence_apply, storePublicSequence_apply]
      split
      · exact keepsKeyed_storeSequence net _ _ _ _ c hc
      · exact hc
  | .appendToSequence .. | .sequenceSetOwner .. | .sequenceSetPubPermissions ..
  | .sequenceSetPrivatePermissions .. =>
      keepsKeyed_mutateChecked net _ _ _ _ fun _ => preserves_cache_payAndSend net _
  | .deleteSequence _ | .setSequenceOwner _ | .editSequencePrivatePerms _
  | .editSequencePublicPerms _ => .of_preserves (preserves_cache_payAndSend net _)
  | .getSequence address => (keepsKeyed_getSequence net address).discard

/-- A send touches the actor, the network and the command record. -/
theorem preserves_sendMoney {γ : Type} (f : Client N → γ)
    (hf : ∀ c a, f { c with transferActor := a } = f c)
    (hf' : ∀ c cs n, f { c with commands := cs, network := n } = f c)
    (recipient : PublicKey) (amount : Money) : Preserves f (sendMoney net recipient amount) := by
  refine (Preserves.get.bind fun _ => (Preserves.ofCore _).bind fun a =>
    preserves_setActor f hf a).bind fun _ =>
      (Preserves.actor.bind fun _ => (Preserves.ofSnd _).bind fun r => ?_).bind fun _ =>
        (preserves_applyEvent f hf _).bind fun _ =>
          (preserves_awaitValidation net f hf' _ _).bind fun proof =>
            (preserves_sendCmd net f hf' _).bind fun _ => preserves_registerDebit f hf proof
  cases r with
  | none => exact Preserves.fail _
  | some i => exact Preserves.pure _

theorem ClientCall.keepsKeyed : ∀ call : ClientCall, KeepsKeyed (call.run net receive)
  | sequence call => call.keepsKeyed net
  | read r => fun c hc => by
      rw [run, Read.stateAfter_run]
      exact keepsKeyed_getSequence net _ c hc
  | sendMoney recipient amount =>
      .of_preserves (preserves_sendMoney net (·.sequenceCache) (fun _ _ => rfl) (fun _ _ _ => rfl)
        recipient amount)
  | handleValidationEvent event => KeepsKeyed.discard fun c hc => by
      obtain ⟨a, h, -⟩ := handleValidationEvent_frame receive event c
      rw [h]
      exact hc
  | getBalanceFromNetwork publicKey =>
      (KeepsKeyed.of_preserves
        (preserves_getBalanceFromNetwork net (·.sequenceCache) (fun _ _ => rfl) publicKey)).discard
  | getLocalBalance => fun _ hc => hc

/-- Along any run of the client's calls, a cache that files every snapshot under its own
address still does, whatever each call returns and the network answers. -/
theorem cache_keyed_by_address (calls : List ClientCall) (c : Client N)
    (hKeyed : ∀ a s, c.sequenceCache a = some s → s.address = a) :
    ∀ a s, (runClient net receive calls c).sequenceCache a = some s → s.address = a := by
  induction calls generalizing c with
  | nil => exact hKeyed
  | cons call calls ih => exact ih _ (ClientCall.keepsKeyed net receive call c hKeyed)

theorem cache_keyed_by_address_send_store_append :
    (∀ a s, (freshClient ⟨1⟩ ⟨10⟩ fun _ => none).sequenceCache a = some s → s.address = a) ∧
    ∀ a s, (runClient (replicaNetwork ⟨1⟩ ⟨0⟩) (fun _ _ => .ok none)
        [.sendMoney ⟨2⟩ ⟨3⟩, .sequence (.storePrivateSequence none ⟨7⟩ 0 ⟨1⟩ []),
          .sequence (.appendToSequence ⟨.priv, ⟨7⟩, 0⟩ [5])]
        (freshClient ⟨1⟩ ⟨10⟩ fun _ => none)).sequenceCache a = some s → s.address = a :=
  ⟨(fun _ _ h => by cases h), cache_keyed_by_address _ _ _ _ (fun _ _ h => by cases h)⟩

/-! ### Appends read back in order -/

/-- One append to a snapshot cached at its own address files it there with the entry appended. -/
theorem appendToSequence_cached {address : SequenceAddress} {entry : SequenceEntry}
    {s : Sequence} {c c' : Client N} (hs : c.sequenceCache address = some s)
    (hKeyed : s.address = address) (h : appendToSequence net address entry c = .ok () c') :
    c'.sequenceCache address = some (s.applyEdit entry) := by
  obtain ⟨s₀, c₁, s', op, hg, hm, hc⟩ :=
    mutateChecked_ok net (fun _ => preserves_cache_payAndSend net _) h
  rw [getSequence_hit net hs] at hg
  cases hg
  cases hm
  rwa [Sequence.address_applyEdit, hKeyed] at hc

theorem forM_appendToSequence_cached {address : SequenceAddress} {entries : List SequenceEntry} :
    ∀ {s : Sequence} {c c' : Client N},
      c.sequenceCache address = some s → s.address = address →
      entries.forM (appendToSequence net address) c = .ok () c' →
      c'.sequenceCache address = some (entries.foldl Sequence.applyEdit s) := by
  induction entries with
  | nil =>
      intro _ _ _ hs _ h
      cases h
      exact hs
  | cons e es ih =>
      intro s _ _ hs hKeyed h
      rw [List.forM_cons'] at h
      obtain ⟨_, c₁, h₁, h₂⟩ := bind_eq_ok h
      exact ih (appendToSequence_cached net hs hKeyed h₁)
        (by rw [Sequence.address_applyEdit, hKeyed]) h₂

/-- After a loop of appends to a cached snapshot, the cache reads the snapshot's entries followed
by the new ones in order, the last appended last, and nothing past the end. -/
theorem appends_read_back_in_order {address : SequenceAddress} {s : Sequence}
    {entries : List SequenceEntry} {c c' : Client N}
    (hs : c.sequenceCache address = some s) (hKeyed : s.address = address)
    (h : entries.forM (appendToSequence net address) c = .ok () c') :
    (∀ i, getSequenceRange net address (.fromStart i, .fromEnd 0) c' =
      if i < (s.entries ++ entries).length then .ok ((s.entries ++ entries).drop i) c'
      else .error (.error (.dataError .noSuchEntry)) c') ∧
    (∀ e ∈ entries.getLast?,
      getSequenceLastEntry net address c' = .ok (s.entriesIndex + entries.length - 1, e) c') ∧
    getSequenceRange net address (.fromStart (s.entriesIndex + entries.length),
        .fromStart (s.entriesIndex + entries.length + 1)) c' =
      .error (.error (.dataError .noSuchEntry)) c' := by
  have hc := forM_appendToSequence_cached net hs hKeyed h
  have hEntries := Sequence.entries_foldl_applyEdit entries s
  refine ⟨fun i => ?_, fun e he => ?_, ?_⟩
  · rw [getSequenceRange_fromStart_cached net hc, hEntries]
  · rw [getSequenceLastEntry_cached net hc, hEntries, List.getLast?_append, Option.mem_def.1 he]
    simp [Sequence.entriesIndex]
  · simp [getSequenceRange, bind_apply, getSequence_hit net hc, Sequence.inRange,
      Sequence.toAbsoluteIndex, Sequence.entriesIndex, hEntries]

theorem appends_read_back_in_order_two :
    ({ freshClient ⟨1⟩ ⟨10⟩ (fun _ => none) with
        sequenceCache := fun a => if a = ⟨.priv, ⟨7⟩, 0⟩
          then some (.priv ⟨⟨7⟩, 0, ⟨1⟩, [], [⟨⟨1⟩, 0, 0⟩], []⟩) else none } :
      Client DataMap).sequenceCache
        ⟨.priv, ⟨7⟩, 0⟩ = some (.priv ⟨⟨7⟩, 0, ⟨1⟩, [], [⟨⟨1⟩, 0, 0⟩], []⟩) ∧
    (Sequence.priv ⟨⟨7⟩, 0, ⟨1⟩, [], [⟨⟨1⟩, 0, 0⟩], []⟩).address = ⟨.priv, ⟨7⟩, 0⟩ ∧
    ∃ c', [[1], [2]].forM (appendToSequence (replicaNetwork ⟨1⟩ ⟨0⟩) ⟨.priv, ⟨7⟩, 0⟩)
        ({ freshClient ⟨1⟩ ⟨10⟩ (fun _ => none) with
          sequenceCache := fun a => if a = ⟨.priv, ⟨7⟩, 0⟩
            then some (.priv ⟨⟨7⟩, 0, ⟨1⟩, [], [⟨⟨1⟩, 0, 0⟩], []⟩) else none } :
          Client DataMap) = .ok () c' ∧
      getSequenceRange (replicaNetwork ⟨1⟩ ⟨0⟩) ⟨.priv, ⟨7⟩, 0⟩ (.fromStart 0, .fromEnd 0) c' =
        .ok ((Sequence.priv ⟨⟨7⟩, 0, ⟨1⟩, [], [⟨⟨1⟩, 0, 0⟩], []⟩).entries ++ [[1], [2]]) c' ∧
      (∀ e ∈ [[1], [2]].getLast?, getSequenceLastEntry (replicaNetwork ⟨1⟩ ⟨0⟩) ⟨.priv, ⟨7⟩, 0⟩ c' =
        .ok ((Sequence.priv ⟨⟨7⟩, 0, ⟨1⟩, [], [⟨⟨1⟩, 0, 0⟩], []⟩).entriesIndex +
          [[1], [2]].length - 1, e) c') ∧
      getSequenceRange (replicaNetwork ⟨1⟩ ⟨0⟩) ⟨.priv, ⟨7⟩, 0⟩
          (.fromStart ((Sequence.priv ⟨⟨7⟩, 0, ⟨1⟩, [], [⟨⟨1⟩, 0, 0⟩], []⟩).entriesIndex +
              [[1], [2]].length),
            .fromStart ((Sequence.priv ⟨⟨7⟩, 0, ⟨1⟩, [], [⟨⟨1⟩, 0, 0⟩], []⟩).entriesIndex +
              [[1], [2]].length + 1)) c' =
        .error (.error (.dataError .noSuchEntry)) c' := by
  obtain ⟨c', h⟩ : ∃ c', [[1], [2]].forM (appendToSequence (replicaNetwork ⟨1⟩ ⟨0⟩) ⟨.priv, ⟨7⟩, 0⟩)
      ({ freshClient ⟨1⟩ ⟨10⟩ (fun _ => none) with
        sequenceCache := fun a => if a = ⟨.priv, ⟨7⟩, 0⟩
          then some (.priv ⟨⟨7⟩, 0, ⟨1⟩, [], [⟨⟨1⟩, 0, 0⟩], []⟩) else none } :
        Client DataMap) = .ok () c' :=
    ⟨_, by rw [List.forM_cons', List.forM_cons', List.forM_nil']; rfl⟩
  have h' := appends_read_back_in_order (replicaNetwork ⟨1⟩ ⟨0⟩)
    (s := .priv ⟨⟨7⟩, 0, ⟨1⟩, [], [⟨⟨1⟩, 0, 0⟩], []⟩) rfl rfl h
  exact ⟨rfl, rfl, c', h, (h'.1 0).trans (if_pos (by decide)), h'.2⟩

/-! ### A sequence handed over is closed to its former owner -/

/-- A checked mutation that returns leaves the client's key as it was. -/
theorem mutateChecked_ok_key {address : SequenceAddress} {action : SequenceAction}
    {mutate : Sequence → Except SndError (Sequence × β)} {send : β → ClientM N Unit}
    (hSend : ∀ op, Preserves (·.publicKey) (send op)) {c c' : Client N}
    (h : mutateChecked net address action mutate send c = .ok () c') :
    c'.publicKey = c.publicKey := by
  have hKey := (getSequence_frame net address c).1
  rw [mutateChecked_apply] at h
  split at h
  · cases h
  · next s c₁ hg =>
      rw [hg, stateAfter_ok] at hKey
      split at h
      · cases h
      · cases h
      · rw [← hKey, (hSend _).of_ok h]

/-- Once the client has handed a sequence to another owner, its next append or owner change there
is refused by the local check, nothing paid or sent, unless the permissions grant it. -/
theorem former_owner_refused {address : SequenceAddress} {newOwner : PublicKey}
    {c c' : Client N} (h : sequenceSetOwner net address newOwner c = .ok () c')
    (hOther : newOwner ≠ c.publicKey) :
    ∃ s c₁, getSequence net address c = .ok s c₁ ∧
      (s.grants .append c.publicKey = false → ∀ entry,
        appendToSequence net s.address entry c' = .error (.error (.dataError .accessDenied)) c') ∧
      (s.grants .managePermissions c.publicKey = false → ∀ owner,
        sequenceSetOwner net s.address owner c' =
          .error (.error (.dataError .accessDenied)) c') := by
  obtain ⟨s, c₁, s', op, hg, hm, hc⟩ :=
    mutateChecked_ok net (fun _ => preserves_cache_payAndSend net _) h
  have hKey := mutateChecked_ok_key net (fun _ => (keepsReplica_payAndSend net _).2) h
  cases hm
  rw [Sequence.address_applyOwner] at hc
  have hRefused : ∀ action, s.grants action c.publicKey = false →
      (s.setOwner newOwner).1.checkPermission action c'.publicKey = .error .accessDenied := by
    intro action hNo
    simp [Sequence.setOwner, Sequence.checkPermission, Sequence.isLastOwner, hKey, hNo, hOther]
  refine ⟨s, c₁, hg, fun hNo entry => ?_, fun hNo owner => ?_⟩
  · exact ((mutateChecked_gated net _ _ _ _ c').1 _ _ _ (getSequence_hit net hc)
      (hRefused _ hNo)).1
  · exact ((mutateChecked_gated net _ _ _ _ c').1 _ _ _ (getSequence_hit net hc)
      (hRefused _ hNo)).1

/- Key 1 hands the private sequence it owns to key 2; with no permissions granted, its next
append and its attempt to take the sequence back are both refused. -/
theorem former_owner_refused_after_handover :
    (⟨2⟩ : PublicKey) ≠
      (cachedClient ⟨1⟩ ⟨10⟩ ((Sequence.newPrivate ⟨1⟩ ⟨7⟩ 0).setOwner ⟨1⟩).1).publicKey ∧
    ∃ c', sequenceSetOwner (replicaNetwork ⟨1⟩ ⟨0⟩) ⟨.priv, ⟨7⟩, 0⟩ ⟨2⟩
        (cachedClient ⟨1⟩ ⟨10⟩ ((Sequence.newPrivate ⟨1⟩ ⟨7⟩ 0).setOwner ⟨1⟩).1) = .ok () c' ∧
      (∀ entry, appendToSequence (replicaNetwork ⟨1⟩ ⟨0⟩) ⟨.priv, ⟨7⟩, 0⟩ entry c' =
        .error (.error (.dataError .accessDenied)) c') ∧
      ∀ owner, sequenceSetOwner (replicaNetwork ⟨1⟩ ⟨0⟩) ⟨.priv, ⟨7⟩, 0⟩ owner c' =
        .error (.error (.dataError .accessDenied)) c' := by
  obtain ⟨c', h⟩ : ∃ c', sequenceSetOwner (replicaNetwork ⟨1⟩ ⟨0⟩) ⟨.priv, ⟨7⟩, 0⟩ ⟨2⟩
      (cachedClient ⟨1⟩ ⟨10⟩ ((Sequence.newPrivate ⟨1⟩ ⟨7⟩ 0).setOwner ⟨1⟩).1) = .ok () c' :=
    ⟨_, rfl⟩
  obtain ⟨s, c₁, hg, hAppend, hOwner⟩ := former_owner_refused _ h (by decide)
  rw [getSequence_hit _ (show (cachedClient ⟨1⟩ ⟨10⟩
    ((Sequence.newPrivate ⟨1⟩ ⟨7⟩ 0).setOwner ⟨1⟩).1).sequenceCache ⟨.priv, ⟨7⟩, 0⟩ =
      some ((Sequence.newPrivate ⟨1⟩ ⟨7⟩ 0).setOwner ⟨1⟩).1 from rfl)] at hg
  cases hg
  exact ⟨by decide, c', h, hAppend rfl, hOwner rfl⟩

end SafeCore
