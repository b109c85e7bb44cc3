import ObliviousLog.Pad.Keystream

/-!
# Masks cancel

A keystream laid on a string is taken off again by laying the same stream on it a second time,
whatever the cipher.
-/

namespace ObliviousLog

variable {C : Type} [BlockCipher C]

namespace Keystream

theorem mask_mask (bytes : Bytes) (stream : Keystream C) :
    (mask (mask bytes stream).1 stream).1 = bytes := by
  induction bytes generalizing stream with
  | nil => rfl
  | cons byte rest inductionHypothesis =>
      have cancelled : byte ^^^ stream.nextByte.1 ^^^ stream.nextByte.1 = byte := by
        rw [UInt8.xor_assoc, UInt8.xor_self, UInt8.xor_zero]
      have later := inductionHypothesis stream.nextByte.2
      change (byte ^^^ stream.nextByte.1 ^^^ stream.nextByte.1) ::
        (mask (mask rest stream.nextByte.2).1 stream.nextByte.2).1 = byte :: rest
      rw [cancelled, later]

end Keystream

/-- Laying a pad on a response a second time takes it off. -/
@[simp] theorem PadSeed.apply_apply (seed : PadSeed) (response : Bytes) :
    seed.apply C (seed.apply C response) = response :=
  Keystream.mask_mask response _

end ObliviousLog
