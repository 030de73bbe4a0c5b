import Mathlib.Data.List.Infix

/-!
The safe_nd data the client's sequence and transfer APIs read and build. Signatures and the
CRDT's causal metadata are left out: a transfer is known by its contents and an operation
carries the value it writes.
-/

namespace SafeCore

/-- A public key, known only by its identity. -/
structure PublicKey where
  id : Nat
  deriving DecidableEq, Repr

structure XorName where
  bits : Nat
  deriving DecidableEq, Repr

/-- safe_nd's `Money`, a count of nanos in a `u64`. -/
structure Money where
  nanos : UInt64
  deriving DecidableEq, Repr

instance : LT Money := ⟨fun a b => a.nanos < b.nanos⟩

instance (a b : Money) : Decidable (a < b) := inferInstanceAs (Decidable (a.nanos < b.nanos))

/-- `Money::checked_sub`: the difference, or nothing when it would go below zero. -/
def Money.checkedSub (a b : Money) : Option Money :=
  if b.nanos ≤ a.nanos then some ⟨a.nanos - b.nanos⟩ else none

/-! ### Sequences -/

inductive SequenceKind
  | pub
  | priv
  deriving DecidableEq, Repr

structure SequenceAddress where
  kind : SequenceKind
  name : XorName
  tag : UInt64
  deriving DecidableEq, Repr

/-- safe_nd's `Entry`, a `Vec<u8>`. -/
abbrev SequenceEntry := List UInt8

inductive SequenceAction
  | read
  | append
  | managePermissions
  deriving DecidableEq, Repr

structure SequencePrivUserPermissions where
  read : Bool
  append : Bool
  managePermissions : Bool
  deriving DecidableEq, Repr

/-- `None` leaves the action to the `Anyone` entry. -/
structure SequencePubUserPermissions where
  append : Option Bool
  managePermissions : Option Bool
  deriving DecidableEq, Repr

inductive SequenceUser
  | anyone
  | key (publicKey : PublicKey)
  deriving DecidableEq, Repr

inductive SequenceUserPermissions
  | pub (permissions : SequencePubUserPermissions)
  | priv (permissions : SequencePrivUserPermissions)
  deriving DecidableEq, Repr

/-- One version of a private sequence's permissions; the map is a `BTreeMap` in safe_nd. -/
structure SequencePrivatePermissions where
  permissions : List (PublicKey × SequencePrivUserPermissions)
  entriesIndex : Nat
  ownersIndex : Nat
  deriving DecidableEq, Repr

structure SequencePublicPermissions where
  permissions : List (SequenceUser × SequencePubUserPermissions)
  entriesIndex : Nat
  ownersIndex : Nat
  deriving DecidableEq, Repr

structure SequenceOwner where
  publicKey : PublicKey
  entriesIndex : Nat
  permissionsIndex : Nat
  deriving DecidableEq, Repr

/-- The replica of one sequence, with its owner and permissions histories. The indices the
code reads (`entries_index`, `owners_index`, `permissions_index`) are these lengths. -/
structure SeqData (P : Type) where
  name : XorName
  tag : UInt64
  actor : PublicKey
  entries : List SequenceEntry
  owners : List SequenceOwner
  permissions : List P
  deriving DecidableEq, Repr

/-- A sequence is public or private by construction, so its address and permission flavour
always agree. -/
inductive Sequence
  | pub (data : SeqData SequencePublicPermissions)
  | priv (data : SeqData SequencePrivatePermissions)
  deriving DecidableEq, Repr

structure SequenceWriteOp (T : Type) where
  address : SequenceAddress
  crdtOp : T
  deriving DecidableEq, Repr

inductive SequenceIndex
  | fromStart (index : Nat)
  | fromEnd (index : Nat)
  deriving DecidableEq, Repr

/-! ### Transfers -/

structure TransferId where
  actor : PublicKey
  counter : Nat
  deriving DecidableEq, Repr

/-- safe_nd's `Transfer`; its field `to` is a keyword here. -/
structure Transfer where
  id : TransferId
  recipient : PublicKey
  amount : Money
  deriving DecidableEq, Repr

structure SignedTransfer where
  transfer : Transfer
  deriving DecidableEq, Repr

def SignedTransfer.id (t : SignedTransfer) : TransferId := t.transfer.id

def SignedTransfer.amount (t : SignedTransfer) : Money := t.transfer.amount

/-- One validator's share for a transfer. -/
structure TransferValidated where
  signedTransfer : SignedTransfer
  replica : Nat
  deriving DecidableEq, Repr

structure DebitAgreementProof where
  signedTransfer : SignedTransfer
  deriving DecidableEq, Repr

/-! ### Messages -/

inductive SequenceWrite
  | new (data : Sequence)
  | edit (op : SequenceWriteOp SequenceEntry)
  | delete (address : SequenceAddress)
  | setOwner (op : SequenceWriteOp SequenceOwner)
  | setPublicPermissions (op : SequenceWriteOp SequencePublicPermissions)
  | setPrivatePermissions (op : SequenceWriteOp SequencePrivatePermissions)
  deriving DecidableEq, Repr

inductive DataCmd
  | sequence (write : SequenceWrite)
  deriving DecidableEq, Repr

inductive TransferCmd
  | validateTransfer (signedTransfer : SignedTransfer)
  | registerTransfer (proof : DebitAgreementProof)
  deriving DecidableEq, Repr

inductive Cmd
  | data (cmd : DataCmd) (payment : DebitAgreementProof)
  | transfer (cmd : TransferCmd)
  deriving DecidableEq, Repr

inductive SequenceRead
  | get (address : SequenceAddress)
  deriving DecidableEq, Repr

inductive DataQuery
  | sequence (read : SequenceRead)
  deriving DecidableEq, Repr

inductive TransferQuery
  | getBalance (publicKey : PublicKey)
  deriving DecidableEq, Repr

inductive Query
  | data (query : DataQuery)
  | transfer (query : TransferQuery)
  deriving DecidableEq, Repr

/-- safe_nd's `Error`, with the variants this part of the client meets. `transfers` is an
error of the transfer actor, known by its text. -/
inductive SndError
  | accessDenied
  | noSuchData
  | noSuchEntry
  | invalidOperation
  | insufficientBalance
  | transfers (msg : String)
  deriving DecidableEq, Repr

/-- The text `to_string` gives an error. -/
def SndError.text : SndError → String
  | .accessDenied => "Access denied"
  | .noSuchData => "Requested data not found"
  | .noSuchEntry => "Requested entry not found"
  | .invalidOperation => "Requested operation is not allowed"
  | .insufficientBalance => "Insufficient balance to complete this operation"
  | .transfers msg => msg

/-- The responses the client matches on; every other variant is `other`. -/
inductive QueryResponse
  | getSequence (result : Except SndError Sequence)
  | getBalance (result : Except SndError Money)
  | other

/-- The events the client matches on; every other variant is `other`, with its `Debug` text. -/
inductive Event
  | transferValidated (event : TransferValidated)
  | other (debug : String)
  deriving DecidableEq, Repr

inductive CoreError
  | dataError (error : SndError)
  | unexpected (msg : String)
  | receivedUnexpectedEvent
  deriving DecidableEq, Repr

/-- How a call can end other than by returning: with a `CoreError`, or by a panic, which is
what a debug build does when `u64` arithmetic overflows. -/
inductive Failure
  | error (error : CoreError)
  | panic (msg : String)
  deriving DecidableEq, Repr

/-- `s.contains(phrase)` on strings. -/
def textContains (s phrase : String) : Bool :=
  decide (phrase.toList <:+: s.toList)

end SafeCore
