import ObliviousLog.Bytes

/-!
# Sources of randomness

Two kinds of randomness enter the log.  A table flips coins and picks eviction victims; a reader
draws byte strings.  Each kind is a class, so that what is proved of tables and reads holds for
every sequence of outcomes and not for one generator alone.
-/

namespace ObliviousLog

/-- A generator of the coin flips and indices that steer a table. -/
class CoinSource (G : Type) where
  /-- The generator grown from a seed. -/
  ofSeed : UInt64 → G
  /-- Flips a coin. -/
  flip : G → Bool × G
  /-- Picks an index below a positive bound. -/
  below :
    (bound : Nat) →
    0 < bound →
    G →
    Fin bound × G

/-- A generator of byte strings of any requested length. -/
class ByteSource (R : Type) where
  /-- Draws the next `length` bytes. -/
  draw : R → (length : Nat) → Bytes × R
  /-- As many bytes are drawn as were asked for. -/
  length_draw :
    ∀ (source : R) (length : Nat), (draw source length).1.length = length

end ObliviousLog
