import ObliviousLog.Error
import ObliviousLog.Random.Source

/-!
# Request vectors

A request vector has one bit for each bucket, packed into bytes from the low bit up.  The unused
high bits of the last byte may hold anything; they are compared and combined like all others.
-/

namespace ObliviousLog

/-- A bit vector with one bit for each of `numBuckets` buckets. -/
structure RequestVector where
  /-- The number of buckets that the vector addresses. -/
  numBuckets : Nat
  /-- The packed bits. -/
  bits : Bytes
  length_bits : bits.length = Bytes.forBits numBuckets
deriving DecidableEq

namespace RequestVector

/-- The vector that selects nothing. -/
def zero (numBuckets : Nat) : RequestVector :=
  ⟨numBuckets, Bytes.zeros (Bytes.forBits numBuckets), by simp⟩

/-- The vector that selects one bucket. -/
def unit (target numBuckets : Nat) : Except Error RequestVector :=
  match checkBucket target numBuckets with
  | .error error => .error error
  | .ok () =>
    .ok ⟨numBuckets,
      (Bytes.zeros (Bytes.forBits numBuckets)).set (target / 8) (UInt8.ofNat (1 <<< (target % 8))),
      by simp⟩

/-- The bitwise exclusive or of two vectors over the same buckets. -/
def xor (left right : RequestVector) : Except Error RequestVector :=
  if same : left.numBuckets = right.numBuckets then
    .ok ⟨left.numBuckets, left.bits.xor right.bits, by
      simp [left.length_bits, right.length_bits, same]⟩
  else
    .error (.invalidConfiguration .mismatchedVectors)

/-- The vector that selects the sum of the given buckets: one that is named twice cancels. -/
def ofPositions (numBuckets : Nat) (positions : List Nat) : Except Error RequestVector :=
  positions.foldlM
    (fun vector position => do vector.xor (← unit position numBuckets))
    (zero numBuckets)

/-- Draws a vector, the unused bits of its last byte included. -/
def draw {R : Type} [ByteSource R] (numBuckets : Nat) (source : R) : RequestVector × R :=
  (⟨numBuckets,
    (ByteSource.draw source (Bytes.forBits numBuckets)).1,
    ByteSource.length_draw source _⟩,
    (ByteSource.draw source (Bytes.forBits numBuckets)).2)

/-- Draws several vectors one after the other. -/
def drawMany {R : Type} [ByteSource R] (numBuckets : Nat) :
    (count : Nat) → R → List RequestVector × R
  | 0, source => ([], source)
  | count + 1, source =>
    let (vector, source) := draw numBuckets source
    let (vectors, source) := drawMany numBuckets count source
    (vector :: vectors, source)

/-- The batch of several requests: their bytes one after the other. -/
def batch : List RequestVector → Except Error Bytes
  | [] => .ok []
  | first :: rest =>
    if rest.all fun vector => vector.numBuckets == first.numBuckets then
      .ok ((first :: rest).flatMap bits)
    else
      .error (.invalidConfiguration .mismatchedVectors)

/-- The text that stands for a vector without revealing its bits. -/
def redacted (vector : RequestVector) : String :=
  "RequestVector \x7b num_buckets: " ++ toString vector.numBuckets ++ ", .. \x7d"

end RequestVector
end ObliviousLog
