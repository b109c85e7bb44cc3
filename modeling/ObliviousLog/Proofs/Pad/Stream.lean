import ObliviousLog.Proofs.Pad.Counter

/-!
# One stream, however it is read

The blocks of a seed, encrypted one after the other from its first counter on, are one endless
string of bytes.  A keystream computes a block when its first byte is asked for and counts the bytes
of it that were read, so its state tells how many bytes were read before.  Every call reads the
bytes that follow these, wherever the calls before it ended in a block and wherever the counter
wraps around.
-/

namespace ObliviousLog

namespace PadSeed

/-! ## The stream of a seed -/

/-- The block that spells a number of 128 bits. -/
def counterBlock (number : Nat) : Block :=
  ⟨(Bytes.ofBigEndian 16 number).toArray, by simp⟩

/-- The number that the first counter block of a seed spells. -/
def firstCounter (seed : PadSeed) : Nat :=
  Bytes.bigEndian seed.initial.toList

variable (C : Type) [BlockCipher C]

/-- Block `index` of the stream of a seed: the encryption of the first counter plus `index`, which
wraps around. -/
def streamBlock (seed : PadSeed) (index : Nat) : Block :=
  BlockCipher.encrypt (BlockCipher.ofKey seed.key : C)
    (counterBlock ((seed.firstCounter + index) % 2 ^ 128))

/-- Byte `position` of the stream of a seed. -/
def streamByte (seed : PadSeed) (position : Nat) : UInt8 :=
  (seed.streamBlock C (position / 16))[position % 16]

/-- The `length` bytes of the stream from `position` on. -/
def streamBytes (seed : PadSeed) (position length : Nat) : Bytes :=
  (List.range length).map fun offset => seed.streamByte C (position + offset)

@[simp] theorem length_streamBytes (seed : PadSeed) (position length : Nat) :
    (seed.streamBytes C position length).length = length := by
  simp [streamBytes]

@[simp] theorem streamBytes_zero (seed : PadSeed) (position : Nat) :
    seed.streamBytes C position 0 = [] := rfl

theorem streamBytes_succ (seed : PadSeed) (position length : Nat) :
    seed.streamBytes C position (length + 1) =
      seed.streamByte C position :: seed.streamBytes C (position + 1) length := by
  simp [streamBytes, List.range_succ_eq_map, Nat.add_right_comm, Nat.add_assoc]

theorem littleEndian_streamBytes_lt (seed : PadSeed) (position length : Nat) :
    (seed.streamBytes C position length).littleEndian < 256 ^ length := by
  have bound := (seed.streamBytes C position length).littleEndian_lt
  rwa [length_streamBytes] at bound

/-- A block of the stream is its sixteen bytes from the beginning of the block on. -/
theorem toList_streamBlock (seed : PadSeed) (index : Nat) :
    (seed.streamBlock C index).toList = seed.streamBytes C (16 * index) 16 := by
  apply List.ext_getElem
  · simp
  · intro offset inBlock inStream
    have inside : offset < 16 := by simpa using inBlock
    have sameBlock : (16 * index + offset) / 16 = index := by omega
    simp [streamBytes, streamByte, sameBlock, Nat.mod_eq_of_lt inside]

/-- A keystream encrypts the counters of a seed to the blocks of its stream. -/
theorem encrypt_blockOfCounter (seed : PadSeed) (index : Nat) :
    BlockCipher.encrypt (BlockCipher.ofKey seed.key : C)
        (Keystream.blockOfCounter (BitVec.ofNat 128 (seed.firstCounter + index))) =
      seed.streamBlock C index := by
  refine congrArg (BlockCipher.encrypt (BlockCipher.ofKey seed.key : C)) (Vector.toList_inj.mp ?_)
  rw [Keystream.toList_blockOfCounter, BitVec.toNat_ofNat]
  rfl

end PadSeed

namespace Keystream

variable {C : Type} [BlockCipher C] {stream : Keystream C}

/-! ## Unread bytes -/

/-- The bytes of the last computed block that were not read yet. -/
def unread (stream : Keystream C) : Bytes :=
  stream.block.toList.drop stream.consumed

/-- As long as there are unread bytes, the first of them is read. -/
theorem nextByte_of_unread
    {byte : UInt8}
    {rest : Bytes}
    (left : stream.unread = byte :: rest) :
    stream.nextByte.1 = byte ∧
      stream.nextByte.2.unread = rest ∧
      stream.nextByte.2.cipher = stream.cipher ∧
      stream.nextByte.2.counter = stream.counter := by
  have inside : stream.consumed < 16 := by
    have positive := congrArg List.length left
    rw [unread, List.length_drop, Vector.length_toList, List.length_cons] at positive
    omega
  rw [unread, List.drop_eq_getElem_cons (by simpa using inside)] at left
  obtain ⟨sameByte, sameRest⟩ := List.cons.inj left
  rw [nextByte, dif_pos inside]
  exact ⟨(Vector.getElem_toList _).symm.trans sameByte, sameRest, rfl, rfl⟩

/-- When all bytes of a block were read, the first byte of the next block is read. -/
theorem nextByte_of_exhausted (exhausted : stream.unread = []) :
    stream.nextByte.1 = stream.refill.block[0] ∧
      stream.nextByte.2.unread = stream.refill.block.toList.tail ∧
      stream.nextByte.2.cipher = stream.cipher ∧
      stream.nextByte.2.counter = stream.counter + 1 := by
  have outside : ¬stream.consumed < 16 := by
    have length := congrArg List.length exhausted
    rw [unread, List.length_drop, Vector.length_toList, List.length_nil] at length
    omega
  rw [nextByte, dif_neg outside]
  exact ⟨rfl, List.drop_one, rfl, rfl⟩

/-! ## Positions -/

/-- A keystream stands at a position of the stream of a seed: all blocks with bytes before the
position were computed, and the bytes from there to the end of the last of them are unread. -/
structure At (seed : PadSeed) (position : Nat) (stream : Keystream C) : Prop where
  cipher_eq : stream.cipher = BlockCipher.ofKey seed.key
  counter_eq : stream.counter = BitVec.ofNat 128 (seed.firstCounter + (position + 15) / 16)
  unread_eq :
    stream.unread = seed.streamBytes C position (16 * ((position + 15) / 16) - position)

variable {seed : PadSeed} {position : Nat}

theorem at_ofSeed (seed : PadSeed) : At seed 0 (ofSeed seed : Keystream C) where
  cipher_eq := rfl
  counter_eq := counterOfBlock_eq seed.initial
  unread_eq := rfl

/-- Reading a byte reads the one at the position, and moves on by one. -/
theorem At.nextByte (stands : At seed position stream) :
    stream.nextByte.1 = seed.streamByte C position ∧
      At seed (position + 1) stream.nextByte.2 := by
  obtain ⟨sameCipher, sameCounter, sameUnread⟩ := stands
  rcases Nat.eq_zero_or_pos (position % 16) with atStart | inBlock
  · -- The position begins a block, which is computed now.
    obtain ⟨index, rfl⟩ := Nat.dvd_of_mod_eq_zero atStart
    have computed : (16 * index + 15) / 16 = index := by omega
    have computedNext : (16 * index + 1 + 15) / 16 = index + 1 := by omega
    rw [computed] at sameCounter
    rw [computed, Nat.sub_self, seed.streamBytes_zero C] at sameUnread
    have encrypted : stream.refill.block = seed.streamBlock C index := by
      rw [refill, sameCipher, sameCounter, seed.encrypt_blockOfCounter C]
    have remaining : 16 * (index + 1) - (16 * index + 1) = 15 := by omega
    obtain ⟨read, left, keepsCipher, counts⟩ := nextByte_of_exhausted sameUnread
    rw [encrypted] at read left
    refine ⟨by simp [read, PadSeed.streamByte], keepsCipher.trans sameCipher, ?_, ?_⟩
    · rw [counts, computedNext, ← Nat.add_assoc, BitVec.ofNat_add (seed.firstCounter + index),
        ← sameCounter]
      rfl
    · rw [left, computedNext, remaining, seed.toList_streamBlock C, seed.streamBytes_succ C,
        List.tail_cons]
  · -- The block of the position was computed, and its bytes from there on are unread.
    obtain ⟨remaining, isRemaining⟩ :
        ∃ remaining, 16 * ((position + 15) / 16) - position = remaining + 1 :=
      Nat.exists_eq_add_one.mpr (by omega)
    have computedNext : (position + 1 + 15) / 16 = (position + 15) / 16 := by omega
    have remainingNext : 16 * ((position + 15) / 16) - (position + 1) = remaining := by omega
    rw [isRemaining, seed.streamBytes_succ C] at sameUnread
    obtain ⟨read, left, keepsCipher, keepsCounter⟩ := nextByte_of_unread sameUnread
    refine ⟨read, keepsCipher.trans sameCipher, ?_, ?_⟩
    · rw [keepsCounter, computedNext, ← sameCounter]
    · rw [left, computedNext, remainingNext]

/-- Laying the stream on a string adds the bytes from the position on, and moves on by as many. -/
theorem At.mask (stands : At seed position stream) (bytes : Bytes) :
    (Keystream.mask bytes stream).1 = bytes.xor (seed.streamBytes C position bytes.length) ∧
      At seed (position + bytes.length) (Keystream.mask bytes stream).2 := by
  induction bytes generalizing position stream with
  | nil => exact ⟨rfl, stands⟩
  | cons byte rest inductionHypothesis =>
      obtain ⟨sameByte, next⟩ := stands.nextByte
      obtain ⟨sameRest, last⟩ := inductionHypothesis next
      constructor
      · rw [List.length_cons, seed.streamBytes_succ C, Bytes.xor_cons, ← sameByte, ← sameRest]
        rfl
      · rw [List.length_cons, ← Nat.add_assoc, Nat.add_right_comm]
        exact last

theorem At.pad (stands : At seed position stream) (length : Nat) :
    (stream.pad length).1 = seed.streamBytes C position length ∧
      At seed (position + length) (stream.pad length).2 := by
  obtain ⟨padded, next⟩ := stands.mask (Bytes.zeros length)
  rw [Bytes.length_zeros] at padded next
  refine ⟨padded.trans ?_, next⟩
  rw [Bytes.xor_comm, Bytes.xor_zeros_of_length (seed.length_streamBytes C position length)]

/-! ## Sequences of calls -/

/-- A call that reads from a keystream. -/
inductive Call where
  | pad (length : Nat)
  | mask (buffer : Bytes)
  | fill (buffer : Bytes)
  | tryFill (buffer : Bytes)
  | nextUInt32
  | nextUInt64

/-- The number of bytes that a call reads. -/
def Call.size : Call → Nat
  | pad length => length
  | mask buffer => buffer.length
  | fill buffer => buffer.length
  | tryFill buffer => buffer.length
  | nextUInt32 => 4
  | nextUInt64 => 8

/-- The keystream that a call leaves. -/
def call (stream : Keystream C) : Call → Keystream C
  | .pad length => (stream.pad length).2
  | .mask buffer => (mask buffer stream).2
  | .fill buffer => (stream.fill buffer).2
  | .tryFill buffer => (stream.tryFill buffer).2
  | .nextUInt32 => stream.nextUInt32.2
  | .nextUInt64 => stream.nextUInt64.2

/-- The keystream that several calls leave, made one after the other. -/
def after (stream : Keystream C) (calls : List Call) : Keystream C :=
  calls.foldl call stream

/-- The number of bytes that several calls read. -/
def Call.total : List Call → Nat
  | [] => 0
  | call :: calls => call.size + total calls

/-- A call moves on by the bytes that it reads. -/
theorem At.call (stands : At seed position stream) (call : Call) :
    At seed (position + call.size) (stream.call call) := by
  cases call with
  | pad length => exact (stands.pad length).2
  | mask buffer => exact (stands.mask buffer).2
  | fill buffer => exact (stands.pad buffer.length).2
  | tryFill buffer => exact (stands.pad buffer.length).2
  | nextUInt32 =>
      simpa only [Keystream.call, nextUInt32_eq, Call.size] using (stands.pad 4).2
  | nextUInt64 =>
      simpa only [Keystream.call, nextUInt64_eq, Call.size] using (stands.pad 8).2

theorem At.after (stands : At seed position stream) (calls : List Call) :
    At seed (position + Call.total calls) (stream.after calls) := by
  induction calls generalizing position stream with
  | nil => exact stands
  | cons call calls inductionHypothesis =>
      rw [Call.total, ← Nat.add_assoc]
      exact inductionHypothesis (stands.call call)

/-- Whatever calls were made before, the next one reads the bytes of the seed's stream that follow
those that they read: it hands them out, adds them to a string, or reads a number from them. -/
theorem calls_read_one_stream
    (C : Type)
    [BlockCipher C]
    (seed : PadSeed)
    (earlier : List Call) :
    let position := Call.total earlier
    let stream := (ofSeed seed : Keystream C).after earlier
    (∀ length, (stream.pad length).1 = seed.streamBytes C position length) ∧
      (∀ buffer,
        (mask buffer stream).1 = buffer.xor (seed.streamBytes C position buffer.length)) ∧
      (∀ buffer, (stream.fill buffer).1 = seed.streamBytes C position buffer.length) ∧
      (∀ buffer, (stream.tryFill buffer).1 = .ok (seed.streamBytes C position buffer.length)) ∧
      stream.nextUInt32.1.toNat = (seed.streamBytes C position 4).littleEndian ∧
      stream.nextUInt64.1.toNat = (seed.streamBytes C position 8).littleEndian := by
  intro position stream
  have stands : At seed position stream := by
    have reached := (at_ofSeed (C := C) seed).after earlier
    rwa [Nat.zero_add] at reached
  refine ⟨fun length => (stands.pad length).1, fun buffer => (stands.mask buffer).1,
    fun buffer => (stands.pad buffer.length).1,
    fun buffer => congrArg Except.ok (stands.pad buffer.length).1, ?_, ?_⟩
  · rw [nextUInt32_eq, (stands.pad 4).1]
    exact UInt32.toNat_ofNat_of_lt' (seed.littleEndian_streamBytes_lt C position 4)
  · rw [nextUInt64_eq, (stands.pad 8).1]
    exact UInt64.toNat_ofNat_of_lt' (seed.littleEndian_streamBytes_lt C position 8)

/-- From the largest counter the stream goes on with the block of counter zero. -/
example (key : Block) :
    PadSeed.streamBlock C ⟨key, Vector.replicate 16 0xff⟩ 1 =
      PadSeed.streamBlock C ⟨key, Vector.replicate 16 0⟩ 0 :=
  have wraps :
      (Bytes.bigEndian (List.replicate 16 0xff) + 1) % 2 ^ 128 =
        (Bytes.bigEndian (List.replicate 16 0) + 0) % 2 ^ 128 := by decide
  congrArg
    (fun number => BlockCipher.encrypt (BlockCipher.ofKey key : C) (PadSeed.counterBlock number))
    wraps

end Keystream
end ObliviousLog
