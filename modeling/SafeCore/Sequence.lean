import SafeCore.Data

/-!
The sequence replica's own operations, from safe_nd: the accessors of its three histories, the
permission check, and the mutations that return the operation to broadcast, modelled after the
interface the spec gives them.
-/

namespace SafeCore

def SequencePrivUserPermissions.isAllowed (p : SequencePrivUserPermissions) :
    SequenceAction → Bool
  | .read => p.read
  | .append => p.append
  | .managePermissions => p.managePermissions

def SequencePubUserPermissions.isAllowed (p : SequencePubUserPermissions) :
    SequenceAction → Option Bool
  | .read => some true
  | .append => p.append
  | .managePermissions => p.managePermissions

namespace Sequence

def address : Sequence → SequenceAddress
  | pub d => ⟨.pub, d.name, d.tag⟩
  | priv d => ⟨.priv, d.name, d.tag⟩

def newPrivate (actor : PublicKey) (name : XorName) (tag : UInt64) : Sequence :=
  priv ⟨name, tag, actor, [], [], []⟩

def newPub (actor : PublicKey) (name : XorName) (tag : UInt64) : Sequence :=
  pub ⟨name, tag, actor, [], [], []⟩

def isPrivate : Sequence → Bool
  | pub _ => false
  | priv _ => true

def entries : Sequence → List SequenceEntry
  | pub d => d.entries
  | priv d => d.entries

def owners : Sequence → List SequenceOwner
  | pub d => d.owners
  | priv d => d.owners

def entriesIndex (s : Sequence) : Nat := s.entries.length

def ownersIndex (s : Sequence) : Nat := s.owners.length

def permissionsIndex : Sequence → Nat
  | pub d => d.permissions.length
  | priv d => d.permissions.length

def lastEntry (s : Sequence) : Option SequenceEntry := s.entries.getLast?

def owner (s : Sequence) (index : Nat) : Option SequenceOwner := s.owners[index]?

def pubPermissions : Sequence → Nat → Except SndError SequencePublicPermissions
  | pub d, index => match d.permissions[index]? with
    | some p => .ok p
    | none => .error .noSuchEntry
  | priv _, _ => .error .invalidOperation

def privatePermissions : Sequence → Nat → Except SndError SequencePrivatePermissions
  | priv d, index => match d.permissions[index]? with
    | some p => .ok p
    | none => .error .noSuchEntry
  | pub _, _ => .error .invalidOperation

def userPermissions : Sequence → SequenceUser → Nat → Except SndError SequenceUserPermissions
  | pub d, user, index => match d.permissions[index]? with
    | none => .error .noSuchEntry
    | some p => match p.permissions.lookup user with
      | some u => .ok (.pub u)
      | none => .error .noSuchEntry
  | priv d, user, index => match d.permissions[index]?, user with
    | some p, .key k => match p.permissions.lookup k with
      | some u => .ok (.priv u)
      | none => .error .noSuchEntry
    | _, _ => .error .noSuchEntry

/-- Absolute position of an index into `count` entries (safe_nd's `to_absolute_index`). -/
def toAbsoluteIndex (index : SequenceIndex) (count : Nat) : Option Nat :=
  match index with
  | .fromStart i => if i ≤ count then some i else none
  | .fromEnd i => if i ≤ count then some (count - i) else none

/-- The entries from `start` up to `stop` (`end` is a keyword here); as safe_nd's `in_range`,
nothing is selected from a start at or past the last entry or an end before the start. -/
def inRange (s : Sequence) (start stop : SequenceIndex) : Option (List SequenceEntry) := do
  let first ← toAbsoluteIndex start s.entriesIndex
  if s.entriesIndex ≤ first then none
  let count ← toAbsoluteIndex stop s.entriesIndex
  if count < first then none
  some ((s.entries.take count).drop first)

/-- The suffix read from position `i`: its entries, or nothing once `i` reaches the end. -/
@[simp] theorem inRange_fromStart_fromEnd_zero (s : Sequence) (i : Nat) :
    s.inRange (.fromStart i) (.fromEnd 0) =
      if i < s.entries.length then some (s.entries.drop i) else none := by
  by_cases hi : i < s.entries.length <;>
    simp [inRange, toAbsoluteIndex, entriesIndex, hi, Nat.le_of_lt, Nat.not_lt.mp]

/- The API's doc example reads entries 1 and 2 of three; an end before the start reads nothing. -/
example : (priv ⟨⟨7⟩, 0, ⟨1⟩, [[1], [2], [3]], [], []⟩).inRange (.fromStart 1) (.fromEnd 0) =
      some [[2], [3]] ∧
    (priv ⟨⟨7⟩, 0, ⟨1⟩, [[1], [2], [3]], [], []⟩).inRange (.fromStart 2) (.fromStart 1) = none :=
  ⟨rfl, rfl⟩

/-! ### The permission check -/

def isLastOwner (s : Sequence) (requester : PublicKey) : Bool :=
  (s.owners.getLast?.map (·.publicKey)) == some requester

/-- What the latest permissions grant: a private sequence looks the key up; a public one lets
anyone read and falls back from the key's own entry to the `Anyone` entry. -/
def grants : Sequence → SequenceAction → PublicKey → Bool
  | pub d, action, requester =>
      action == .read ||
      match d.permissions.getLast? with
      | none => false
      | some p =>
          ((p.permissions.lookup (.key requester)).bind (·.isAllowed action) <|>
            (p.permissions.lookup .anyone).bind (·.isAllowed action)) == some true
  | priv d, action, requester =>
      match d.permissions.getLast? with
      | none => false
      | some p => ((p.permissions.lookup requester).map (·.isAllowed action)) == some true

/-- The check run before a mutation: the current owner may do anything, anyone else needs the
action granted by the latest permissions. -/
def checkPermission (s : Sequence) (action : SequenceAction) (requester : PublicKey) :
    Except SndError Unit :=
  if s.isLastOwner requester || s.grants action requester then .ok () else .error .accessDenied

/-! ### Mutations, applied locally and by other replicas -/

def applyEdit : Sequence → SequenceEntry → Sequence
  | pub d, e => pub { d with entries := d.entries ++ [e] }
  | priv d, e => priv { d with entries := d.entries ++ [e] }

def applyOwner : Sequence → SequenceOwner → Sequence
  | pub d, o => pub { d with owners := d.owners ++ [o] }
  | priv d, o => priv { d with owners := d.owners ++ [o] }

/-- A replica ignores public permissions sent to a private sequence. -/
def applyPublicPermissions : Sequence → SequencePublicPermissions → Sequence
  | pub d, p => pub { d with permissions := d.permissions ++ [p] }
  | priv d, _ => priv d

def applyPrivatePermissions : Sequence → SequencePrivatePermissions → Sequence
  | priv d, p => priv { d with permissions := d.permissions ++ [p] }
  | pub d, _ => pub d

def append (s : Sequence) (entry : SequenceEntry) : Sequence × SequenceWriteOp SequenceEntry :=
  (s.applyEdit entry, ⟨s.address, entry⟩)

def setOwner (s : Sequence) (owner : PublicKey) : Sequence × SequenceWriteOp SequenceOwner :=
  let o : SequenceOwner := ⟨owner, s.entriesIndex, s.permissionsIndex⟩
  (s.applyOwner o, ⟨s.address, o⟩)

def setPubPermissions (s : Sequence)
    (permissions : List (SequenceUser × SequencePubUserPermissions)) :
    Except SndError (Sequence × SequenceWriteOp SequencePublicPermissions) :=
  match s with
  | pub _ =>
      let p : SequencePublicPermissions := ⟨permissions, s.entriesIndex, s.ownersIndex⟩
      .ok (s.applyPublicPermissions p, ⟨s.address, p⟩)
  | priv _ => .error .invalidOperation

def setPrivatePermissions (s : Sequence)
    (permissions : List (PublicKey × SequencePrivUserPermissions)) :
    Except SndError (Sequence × SequenceWriteOp SequencePrivatePermissions) :=
  match s with
  | priv _ =>
      let p : SequencePrivatePermissions := ⟨permissions, s.entriesIndex, s.ownersIndex⟩
      .ok (s.applyPrivatePermissions p, ⟨s.address, p⟩)
  | pub _ => .error .invalidOperation

@[simp] theorem address_applyEdit (s : Sequence) (e : SequenceEntry) :
    (s.applyEdit e).address = s.address := by cases s <;> rfl

/-- An entry changes neither owner nor permissions, so not what the key may do. -/
@[simp] theorem checkPermission_applyEdit (s : Sequence) (e : SequenceEntry)
    (action : SequenceAction) (requester : PublicKey) :
    (s.applyEdit e).checkPermission action requester = s.checkPermission action requester := by
  cases s <;> rfl

/-- An owner record changes no permissions, so not what they grant. -/
@[simp] theorem grants_applyOwner (s : Sequence) (o : SequenceOwner) (action : SequenceAction)
    (requester : PublicKey) :
    (s.applyOwner o).grants action requester = s.grants action requester := by
  cases s <;> rfl

@[simp] theorem address_applyOwner (s : Sequence) (o : SequenceOwner) :
    (s.applyOwner o).address = s.address := by cases s <;> rfl

@[simp] theorem address_applyPublicPermissions (s : Sequence) (p : SequencePublicPermissions) :
    (s.applyPublicPermissions p).address = s.address := by cases s <;> rfl

@[simp] theorem address_applyPrivatePermissions (s : Sequence)
    (p : SequencePrivatePermissions) :
    (s.applyPrivatePermissions p).address = s.address := by cases s <;> rfl

/-- A permissions operation is built only for the sequence's own flavour, on that sequence's
address, and the local result is what a replica makes of the operation. -/
theorem setPubPermissions_ok {s s' : Sequence} {perms}
    {op : SequenceWriteOp SequencePublicPermissions}
    (h : s.setPubPermissions perms = .ok (s', op)) :
    op.address = s.address ∧ s' = s.applyPublicPermissions op.crdtOp := by
  cases s <;> simp only [setPubPermissions, Except.ok.injEq, Prod.mk.injEq,
    reduceCtorEq] at h
  obtain ⟨rfl, rfl⟩ := h
  exact ⟨rfl, rfl⟩

theorem setPrivatePermissions_ok {s s' : Sequence} {perms}
    {op : SequenceWriteOp SequencePrivatePermissions}
    (h : s.setPrivatePermissions perms = .ok (s', op)) :
    op.address = s.address ∧ s' = s.applyPrivatePermissions op.crdtOp := by
  cases s <;> simp only [setPrivatePermissions, Except.ok.injEq, Prod.mk.injEq,
    reduceCtorEq] at h
  obtain ⟨rfl, rfl⟩ := h
  exact ⟨rfl, rfl⟩

theorem lastEntry_some_index_pos {s : Sequence} {e : SequenceEntry}
    (h : s.lastEntry = some e) : 1 ≤ s.entriesIndex := by
  cases hs : s.entries with
  | nil => simp [lastEntry, hs] at h
  | cons _ _ => simp [entriesIndex, hs]

end Sequence
end SafeCore
