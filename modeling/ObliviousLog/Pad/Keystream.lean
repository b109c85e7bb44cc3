import ObliviousLog.Pad.Seed

/-!
# Keystreams

A keystream is a block cipher in counter mode: block `i` is the encryption of the first counter
block plus `i`, as a big-endian 128-bit number that wraps around.  The stream is one sequence of
bytes; every call takes the next of them, however the calls cut it.
-/

namespace ObliviousLog

/-- A position in the keystream of a pad seed. -/
structure Keystream (C : Type) where
  /-- The cipher under the key of the seed. -/
  cipher : C
  /-- The counter of the block to be computed next. -/
  counter : BitVec 128
  /-- The block that was computed last. -/
  block : Block
  /-- The number of its bytes that were read. -/
  consumed : Nat
  consumed_le : consumed ≤ 16
deriving DecidableEq

namespace Keystream

/-- The number that a counter block spells, most significant byte first. -/
def counterOfBlock (block : Block) : BitVec 128 :=
  block.foldl (fun counter byte => counter <<< 8 ||| (byte.toBitVec.setWidth 128)) 0

/-- The block that spells a counter, most significant byte first. -/
def blockOfCounter (counter : BitVec 128) : Block :=
  Vector.ofFn fun index => UInt8.ofBitVec (counter.extractLsb' (120 - 8 * index.val) 8)

variable {C : Type} [BlockCipher C]

/-- The start of the keystream of a seed: no block was computed yet. -/
def ofSeed (seed : PadSeed) : Keystream C where
  cipher := BlockCipher.ofKey seed.key
  counter := counterOfBlock seed.initial
  block := Vector.replicate 16 0
  consumed := 16
  consumed_le := Nat.le_refl 16

/-- Computes the next block. -/
def refill (stream : Keystream C) : Keystream C where
  cipher := stream.cipher
  counter := stream.counter + 1
  block := BlockCipher.encrypt stream.cipher (blockOfCounter stream.counter)
  consumed := 0
  consumed_le := Nat.zero_le 16

/-- Reads the next byte, from a new block if all bytes of the last one were read. -/
def nextByte (stream : Keystream C) : UInt8 × Keystream C :=
  if unread : stream.consumed < 16 then
    (stream.block[stream.consumed],
      { stream with consumed := stream.consumed + 1, consumed_le := unread })
  else
    (stream.refill.block[0],
      { stream.refill with consumed := 1, consumed_le := Nat.le_of_ble_eq_true rfl })

/-- Lays the stream on a string: combines the string with as many of the next bytes. -/
def mask : Bytes → Keystream C → Bytes × Keystream C
  | [], stream => ([], stream)
  | byte :: rest, stream =>
    let (padByte, stream) := stream.nextByte
    let (masked, stream) := mask rest stream
    ((byte ^^^ padByte) :: masked, stream)

theorem length_mask (bytes : Bytes) (stream : Keystream C) :
    (mask bytes stream).1.length = bytes.length := by
  induction bytes generalizing stream with
  | nil => rfl
  | cons byte rest inductionHypothesis => simp [mask, inductionHypothesis]

/-- Reads the next `length` bytes, by laying the stream on zeros. -/
def pad (length : Nat) (stream : Keystream C) : Bytes × Keystream C :=
  mask (Bytes.zeros length) stream

/-- Overwrites a buffer with as many of the next bytes, whatever it held. -/
def fill (buffer : Bytes) (stream : Keystream C) : Bytes × Keystream C :=
  pad buffer.length stream

/-- Overwrites a buffer through an interface whose sources may fail, which a keystream never does.
-/
def tryFill (buffer : Bytes) (stream : Keystream C) : Except Error Bytes × Keystream C :=
  let (bytes, stream) := stream.fill buffer
  (.ok bytes, stream)

/-- Reads four bytes as a number, least significant first. -/
def nextUInt32 (stream : Keystream C) : UInt32 × Keystream C :=
  let (bytes, stream) := stream.pad 4
  (UInt32.ofNat (Bytes.littleEndian bytes), stream)

theorem nextUInt32_eq (stream : Keystream C) :
    stream.nextUInt32 =
      (UInt32.ofNat (Bytes.littleEndian (stream.pad 4).1), (stream.pad 4).2) := by
  rw [nextUInt32]

/-- Reads eight bytes as a number, least significant first. -/
def nextUInt64 (stream : Keystream C) : UInt64 × Keystream C :=
  let (bytes, stream) := stream.pad 8
  (UInt64.ofNat (Bytes.littleEndian bytes), stream)

theorem nextUInt64_eq (stream : Keystream C) :
    stream.nextUInt64 =
      (UInt64.ofNat (Bytes.littleEndian (stream.pad 8).1), (stream.pad 8).2) := by
  rw [nextUInt64]

instance : ByteSource (Keystream C) where
  draw stream length := pad length stream
  length_draw stream length := by simp [pad, length_mask]

/-- Replaces a stream by the one of a seed drawn from it. -/
def reseed (stream : Keystream C) : Keystream C :=
  ofSeed (PadSeed.draw stream).1

/-- The text that stands for a stream without revealing it. -/
def redacted : String := "Drbg \x7b .. \x7d"

end Keystream

namespace PadSeed

variable (C : Type) [BlockCipher C]

/-- Lays the pad of a seed on a response, or takes it off again. -/
def apply (seed : PadSeed) (response : Bytes) : Bytes :=
  ((Keystream.ofSeed seed : Keystream C).mask response).1

@[simp] theorem length_apply (seed : PadSeed) (response : Bytes) :
    (seed.apply C response).length = response.length :=
  Keystream.length_mask response _

end PadSeed
end ObliviousLog
