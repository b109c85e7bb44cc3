import ObliviousLog.Bytes

/-!
# Items

An item is a payload that may live in either of two candidate buckets.  What remains of it once
the payload is left aside is its key: the identifier with the two buckets, the record by which a
stored item is found again.
-/

namespace ObliviousLog

/-- What identifies a stored item: its identifier and its two candidate buckets. -/
structure Key where
  /-- The identifier chosen by the writer. -/
  id : UInt64
  /-- The first candidate bucket. -/
  bucket1 : Nat
  /-- The second candidate bucket. -/
  bucket2 : Nat
deriving DecidableEq, Inhabited

namespace Key

/-- The candidate bucket other than `bucket`, which is meant to be one of the two. -/
def otherBucket (key : Key) (bucket : Nat) : Nat :=
  if bucket = key.bucket1 then key.bucket2 else key.bucket1

/-- The candidate bucket that a fair coin picks. -/
def candidate (key : Key) (heads : Bool) : Nat :=
  if heads then key.bucket1 else key.bucket2

end Key

/-- A key together with the payload stored under it. -/
structure Item extends Key where
  /-- The payload. -/
  payload : Bytes
deriving DecidableEq, Inhabited

end ObliviousLog
