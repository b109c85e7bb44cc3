/-!
# Block ciphers

A block is sixteen bytes.  A block cipher turns a key of one block into a function on blocks.  It is
a class, so that what is proved of keystreams and pads holds for every cipher and not for one alone.
-/

namespace ObliviousLog

/-- Sixteen bytes. -/
abbrev Block := Vector UInt8 16

/-- A cipher on blocks, with its keys. -/
class BlockCipher (C : Type) where
  /-- The cipher under a key. -/
  ofKey : Block → C
  /-- Encrypts a block. -/
  encrypt : C → Block → Block

end ObliviousLog
