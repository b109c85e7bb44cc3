/-!
# Byte strings

Payloads, buckets, request vectors and pads are all finite byte strings.  This module fixes their
representation and the few operations the rest of the library is built from: combination by
exclusive or, little-endian numbers, cutting into equal pieces, and reading one bit.
-/

namespace ObliviousLog

/-- A finite string of bytes, first byte first. -/
abbrev Bytes := List UInt8

namespace Bytes

/-- The string of `length` zero bytes. -/
def zeros (length : Nat) : Bytes :=
  List.replicate length 0

@[simp] theorem length_zeros (length : Nat) : (zeros length).length = length := by
  simp [zeros]

/-- Bytewise exclusive or, as long as the shorter of its arguments. -/
def xor (left right : Bytes) : Bytes :=
  List.zipWith (· ^^^ ·) left right

@[simp] theorem length_xor (left right : Bytes) :
    (left.xor right).length = min left.length right.length := by
  simp [xor]

/-- Cuts the first `count` pieces of `size` bytes each from the front of a string. -/
def pieces (size : Nat) : Nat → Bytes → List Bytes
  | 0, _ => []
  | count + 1, bytes => bytes.take size :: pieces size count (bytes.drop size)

@[simp] theorem length_pieces (size count : Nat) (bytes : Bytes) :
    (pieces size count bytes).length = count := by
  induction count generalizing bytes with
  | zero => rfl
  | succ count inductionHypothesis => simp [pieces, inductionHypothesis]

/-- The number of bytes in a bit vector of a given number of bits. -/
def forBits (bits : Nat) : Nat :=
  (bits + 7) / 8

/-- Bit `index` of a bit vector: bit `index % 8` of byte `index / 8`, clear past the end. -/
def bit (bytes : Bytes) (index : Nat) : Bool :=
  (bytes.getD (index / 8) 0).toNat.testBit (index % 8)

/-- The number whose base-256 digits are the bytes of a string, least significant first. -/
def littleEndian : Bytes → Nat
  | [] => 0
  | byte :: rest => byte.toNat + 256 * littleEndian rest

/-- The `length` low-order base-256 digits of a number, least significant first. -/
def ofLittleEndian : (length : Nat) → Nat → Bytes
  | 0, _ => []
  | length + 1, value => UInt8.ofNat value :: ofLittleEndian length (value / 256)

@[simp] theorem length_ofLittleEndian (length value : Nat) :
    (ofLittleEndian length value).length = length := by
  induction length generalizing value with
  | zero => rfl
  | succ length inductionHypothesis => simp [ofLittleEndian, inductionHypothesis]

end Bytes
end ObliviousLog
