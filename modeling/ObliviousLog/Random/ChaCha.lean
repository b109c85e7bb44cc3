import ObliviousLog.Random.Source

/-!
# The seeded generator

The generator is the ChaCha block function with twelve rounds, a key stretched from a 64-bit seed,
and a zero nonce.  Its output is one stream of 32-bit words: the words of block zero, then those of
block one, and so on.  Coins, indices and byte strings are all read from this stream.
-/

namespace ObliviousLog

/-- A generator positioned somewhere in the word stream of its key. -/
structure ChaCha where
  /-- The eight key words. -/
  key : Vector UInt32 8
  /-- The number of the block to be computed next. -/
  counter : UInt64
  /-- The words of the last computed block that are still unread. -/
  unread : List UInt32
deriving DecidableEq

namespace ChaCha

/-- The place of the last word in a block. -/
def lastPlace : Nat := 15

/-- The sixteen words that a block is computed on. -/
abbrev Block := Vector UInt32 (lastPlace + 1)

/-- The word rotated towards its high end. -/
def rotateLeft (word amount : UInt32) : UInt32 :=
  (word <<< amount) ||| (word >>> (32 - amount))

/-- The quarter round on the words at four places. -/
def quarterRound (a b c d : Fin (lastPlace + 1)) (block : Block) : Block :=
  let step (target addend mixed : Fin (lastPlace + 1)) (amount : UInt32) (block : Block) : Block :=
    let block := block.set target (block[target] + block[addend])
    block.set mixed (rotateLeft (block[mixed] ^^^ block[target]) amount)
  block |> step a b d 16 |> step c d b 12 |> step a b d 8 |> step c d b 7

/-- Four quarter rounds down the columns, then four along the diagonals. -/
def doubleRound (block : Block) : Block :=
  block
    |> quarterRound 0 4 8 12
    |> quarterRound 1 5 9 13
    |> quarterRound 2 6 10 14
    |> quarterRound 3 7 11 15
    |> quarterRound 0 5 10 15
    |> quarterRound 1 6 11 12
    |> quarterRound 2 7 8 13
    |> quarterRound 3 4 9 14

/-- The number of double rounds in one block. -/
def doubleRounds : Nat := 6

/-- The state that block `counter` starts from: four constant words, the key, the block number and
a zero nonce. -/
def initialBlock (key : Vector UInt32 8) (counter : UInt64) : Block :=
  (#v[0x61707865, 0x3320646e, 0x79622d32, 0x6b206574] : Vector UInt32 4) ++ key ++
    (#v[counter.toUInt32, (counter >>> 32).toUInt32, 0, 0] : Vector UInt32 4)

/-- The words of block `counter`. -/
def block (key : Vector UInt32 8) (counter : UInt64) : Block :=
  let start := initialBlock key counter
  Vector.zipWith (· + ·) (doubleRounds.repeat doubleRound start) start

/-- One step of the congruential sequence that stretches a seed. -/
def nextState (state : UInt64) : UInt64 :=
  state * 6364136223846793005 + 11634580027462260723

/-- The output permutation of the congruential sequence: a rotation by the state's top bits. -/
def permute (state : UInt64) : UInt32 :=
  let folded := (((state >>> 18) ^^^ state) >>> 27).toUInt32
  let amount := (state >>> 59).toUInt32
  (folded >>> amount) ||| (folded <<< ((32 - amount) % 32))

/-- The generator at the start of the stream grown from a seed. -/
def ofSeed (seed : UInt64) : ChaCha where
  key := Vector.ofFn fun index => permute ((index.val + 1).repeat nextState seed)
  counter := 0
  unread := []

/-- Reads the next word of the stream. -/
def nextWord (generator : ChaCha) : UInt32 × ChaCha :=
  match generator.unread with
  | word :: unread => (word, { generator with unread })
  | [] =>
    let words := block generator.key generator.counter
    (words.head, { generator with
      counter := generator.counter + 1
      unread := words.toList.tail })

/-- Reads the next two words as one, the first being the low half. -/
def nextDoubleWord (generator : ChaCha) : UInt64 × ChaCha :=
  let (low, generator) := generator.nextWord
  let (high, generator) := generator.nextWord
  (low.toUInt64 ||| (high.toUInt64 <<< 32), generator)

/-- Flips a coin: the top bit of the next word. -/
def flip (generator : ChaCha) : Bool × ChaCha :=
  let (word, generator) := generator.nextWord
  (word.toNat.testBit 31, generator)

/-- The most draws that are made for one index, after which index zero is taken.  At most half of
all draws are turned down, so that the chance of getting there is at most one in `2 ^ 256`. -/
def maxAttempts : Nat := 256

/-- The largest low half that an index draw below `bound` may have: one less than the greatest
doubling of `bound` that fits in 64 bits, so that every index has equally many draws. -/
def acceptanceZone (bound : Nat) : Nat :=
  bound <<< (63 - bound.log2) - 1

/-- The high half of the 128-bit product of a draw and a bound. -/
def highHalf (draw : UInt64) (bound : Nat) : Nat :=
  draw.toNat * bound / UInt64.size

theorem highHalf_lt (draw : UInt64) {bound : Nat} (positive : 0 < bound) :
    highHalf draw bound < bound := by
  rw [highHalf, Nat.div_lt_iff_lt_mul (by decide), Nat.mul_comm bound]
  exact Nat.mul_lt_mul_of_pos_right draw.toNat_lt_size positive

/-- Picks an index: the high half of a draw times the bound, drawn again while the low half lies
outside the acceptance zone. -/
def pickBelow
    (bound : Nat)
    (positive : 0 < bound) :
    (attempts : Nat) → ChaCha → Fin bound × ChaCha
  | 0, generator => (⟨0, positive⟩, generator)
  | attempts + 1, generator =>
    let (draw, generator) := generator.nextDoubleWord
    if draw.toNat * bound % UInt64.size ≤ acceptanceZone bound then
      (⟨highHalf draw bound, highHalf_lt draw positive⟩, generator)
    else
      pickBelow bound positive attempts generator

instance : CoinSource ChaCha where
  ofSeed := ofSeed
  flip := flip
  below bound positive generator := pickBelow bound positive maxAttempts generator

/-- Reads the bytes of the next `count` words, each word low byte first. -/
def nextWords : (count : Nat) → ChaCha → Bytes × ChaCha
  | 0, generator => ([], generator)
  | count + 1, generator =>
    let (word, generator) := generator.nextWord
    let (rest, generator) := nextWords count generator
    (Bytes.ofLittleEndian 4 word.toNat ++ rest, generator)

theorem length_nextWords (count : Nat) (generator : ChaCha) :
    (nextWords count generator).1.length = 4 * count := by
  induction count generalizing generator with
  | zero => rfl
  | succ count inductionHypothesis =>
    simp [nextWords, inductionHypothesis, Nat.mul_succ, Nat.add_comm]

/-- Draws bytes by whole words, dropping what is left of the last word. -/
def draw (generator : ChaCha) (length : Nat) : Bytes × ChaCha :=
  let (bytes, generator) := nextWords ((length + 3) / 4) generator
  (bytes.take length, generator)

instance : ByteSource ChaCha where
  draw := draw
  length_draw generator length := by
    simp only [draw, List.length_take, length_nextWords]
    omega

end ChaCha
end ObliviousLog
