import ObliviousLog.Error
import ObliviousLog.Pad.Cipher
import ObliviousLog.Random.Source

/-!
# Pad seeds

A pad seed is an encryption key followed by the first counter block of its keystream.  Whoever holds
the seed can lay the pad on a response and take it off again.
-/

namespace ObliviousLog

/-- The seed of a response pad. -/
structure PadSeed where
  /-- The encryption key. -/
  key : Block
  /-- The first counter block. -/
  initial : Block
deriving DecidableEq

namespace PadSeed

/-- The bytes in an encryption key. -/
def keySize : Nat := 16

/-- The bytes in a block of the keystream, and in a counter block. -/
def blockSize : Nat := 16

/-- The bytes in a seed. -/
def size : Nat := keySize + blockSize

/-- The seed with given bytes, key first. -/
def ofBytes
    (bytes : Bytes)
    (isLength : bytes.length = size) : PadSeed where
  key := ⟨(bytes.take keySize).toArray, by simp [isLength, size, keySize, blockSize]⟩
  initial := ⟨(bytes.drop keySize).toArray, by simp [isLength, size, keySize, blockSize]⟩

/-- The bytes of a seed, key first. -/
def toBytes (seed : PadSeed) : Bytes :=
  seed.key.toList ++ seed.initial.toList

@[simp] theorem length_toBytes (seed : PadSeed) : seed.toBytes.length = size := by
  simp [toBytes, size, keySize, blockSize]

/-- The seed with given bytes, if there are as many as a seed has. -/
def ofBytes? (bytes : Bytes) : Except Error PadSeed :=
  if isLength : bytes.length = size then
    .ok (ofBytes bytes isLength)
  else
    .error (.invalidConfiguration .padSeedLength)

/-- Draws a fresh seed. -/
def draw {R : Type} [ByteSource R] (source : R) : PadSeed × R :=
  (ofBytes (ByteSource.draw source size).1 (ByteSource.length_draw source size),
    (ByteSource.draw source size).2)

/-- The text that stands for a seed without revealing it. -/
def redacted : String := "PadSeed(..)"

end PadSeed
end ObliviousLog
