import SafeCore.ReplicaNetwork

/-!
`get_sequence` as a read-through cache: a hit is answered with no query, and a miss asks once
and files a `GetSequence(Ok s)` answer under `s.address()`, which nothing compares with the
address asked for.
-/

namespace SafeCore

variable {N : Type} (net : Network N)

theorem getSequence_hit {address : SequenceAddress} {c : Client N} {s : Sequence}
    (h : c.sequenceCache address = some s) : getSequence net address c = .ok s c := by
  rw [getSequence_apply, h]

end SafeCore
