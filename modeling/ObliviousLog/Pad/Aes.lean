import ObliviousLog.Pad.Cipher

/-!
# The AES-128 block cipher

A block is read as four columns of four bytes, first column first.  The substitution box is
computed from its definition, inversion in the field of 256 elements followed by an affine map, and
the round keys are derived from the key one after the other.
-/

namespace ObliviousLog

/-- AES-128 under a key. -/
structure Aes where
  /-- The key. -/
  key : Block
deriving DecidableEq

namespace Aes

/-- Multiplication by the generator of the field polynomial, `x ^ 8 + x ^ 4 + x ^ 3 + x + 1`. -/
def double (byte : UInt8) : UInt8 :=
  if byte < 128 then byte <<< 1 else (byte <<< 1) ^^^ 0x1b

/-- The product of two field elements, by the low `bits` bits of the second. -/
def fieldMul (left : UInt8) : (bits : Nat) → (right : UInt8) → UInt8
  | 0, _ => 0
  | bits + 1, right =>
    (if right % 2 = 1 then left else 0) ^^^ fieldMul (double left) bits (right >>> 1)

/-- The inverse of a field element, and zero for zero: its 254th power. -/
def fieldInverse (byte : UInt8) : UInt8 :=
  let square (element : UInt8) := fieldMul element 8 element
  -- After `n` steps the power is `2 ^ (n + 1) - 1`, squared once more at the end.
  square ((6 : Nat).repeat (fun power => fieldMul (square power) 8 byte) byte)

/-- The byte rotated towards its high end. -/
def rotateLeft (byte amount : UInt8) : UInt8 :=
  (byte <<< amount) ||| (byte >>> (8 - amount))

/-- The substitution: the affine image of the field inverse. -/
def substitute (byte : UInt8) : UInt8 :=
  let inverse := fieldInverse byte
  inverse ^^^ rotateLeft inverse 1 ^^^ rotateLeft inverse 2 ^^^ rotateLeft inverse 3 ^^^
    rotateLeft inverse 4 ^^^ 0x63

/-- The substitution tabulated. -/
def substitutionBox : Vector UInt8 256 :=
  Vector.ofFn fun index => substitute (UInt8.ofNat index.val)

/-- The substitution looked up in its table. -/
def lookUp (byte : UInt8) : UInt8 :=
  substitutionBox.get ⟨byte.toNat, byte.toNat_lt⟩

/-- Bytewise exclusive or of two blocks. -/
def addKey (left right : Block) : Block :=
  Vector.zipWith (· ^^^ ·) left right

/-- Row `r` of the block moves `r` columns to the left. -/
def shiftRows (block : Block) : Block :=
  Vector.ofFn fun index =>
    block.get (Fin.ofNat 16 (index.val + 4 * (index.val % 4)))

/-- Each column is multiplied by the fixed circulant matrix with first row `2 3 1 1`. -/
def mixColumns (block : Block) : Block :=
  Vector.ofFn fun index =>
    let entry (offset : Nat) : UInt8 :=
      block.get (Fin.ofNat 16 (index.val / 4 * 4 + (index.val + offset) % 4))
    double (entry 0) ^^^ (double (entry 1) ^^^ entry 1) ^^^ entry 2 ^^^ entry 3

/-- The round key after `roundKey`, for the round constant `constant`. -/
def nextRoundKey (constant : UInt8) (roundKey : Block) : Block :=
  let feedback : Vector UInt8 4 :=
    #v[lookUp roundKey[13] ^^^ constant, lookUp roundKey[14], lookUp roundKey[15],
      lookUp roundKey[12]]
  Vector.ofFn fun index =>
    -- Each column adds the columns of the old key up to its own and the feedback of the last.
    let row := index.val % 4
    (List.range (index.val / 4 + 1)).foldl
      (fun sum column => sum ^^^ roundKey.get (Fin.ofNat 16 (4 * column + row)))
      (feedback.get (Fin.ofNat 4 row))

/-- Encrypts by `rounds` further full rounds and the last one, which mixes no columns. -/
def encryptRounds : (rounds : Nat) → (constant : UInt8) → (roundKey block : Block) → Block
  | 0, constant, roundKey, block =>
    addKey (nextRoundKey constant roundKey) (shiftRows (block.map lookUp))
  | rounds + 1, constant, roundKey, block =>
    let roundKey := nextRoundKey constant roundKey
    encryptRounds rounds (double constant) roundKey
      (addKey roundKey (mixColumns (shiftRows (block.map lookUp))))

/-- The encryption of one block. -/
def encrypt (aes : Aes) (block : Block) : Block :=
  encryptRounds 9 1 aes.key (addKey aes.key block)

instance : BlockCipher Aes where
  ofKey key := { key }
  encrypt := encrypt

end Aes
end ObliviousLog
