import ObliviousLog.Pad.Aes
import ObliviousLog.Retrieval
import ObliviousLog.Proofs.Bytes.Xor
import ObliviousLog.Proofs.Bytes.Sum
import ObliviousLog.Proofs.Bytes.Sharings
import ObliviousLog.Proofs.Bytes.Pieces
import ObliviousLog.Proofs.Table.Slots
import ObliviousLog.Proofs.Table.Valid
import ObliviousLog.Proofs.Table.Chain
import ObliviousLog.Proofs.Table.Items
import ObliviousLog.Proofs.Table.Reachable
import ObliviousLog.Proofs.Table.Contention
import ObliviousLog.Proofs.Table.Conservation
import ObliviousLog.Proofs.Table.Displacement
import ObliviousLog.Proofs.Table.Layout
import ObliviousLog.Proofs.Table.Buckets
import ObliviousLog.Proofs.Table.Removal
import ObliviousLog.Proofs.Table.Distinct
import ObliviousLog.Proofs.Shard.Selection
import ObliviousLog.Proofs.Shard.Answer
import ObliviousLog.Proofs.Shard.Reads
import ObliviousLog.Proofs.Request.Sharing
import ObliviousLog.Proofs.Request.Secrecy
import ObliviousLog.Proofs.Pad.Mask
import ObliviousLog.Proofs.Pad.Counter
import ObliviousLog.Proofs.Replica.Apply
import ObliviousLog.Proofs.Replica.Eviction
import ObliviousLog.Proofs.Replica.Session
import ObliviousLog.Proofs.Replica.Calls
import ObliviousLog.Proofs.Replica.InStep
import ObliviousLog.Proofs.Replica.Writes
import ObliviousLog.Proofs.Replica.Standard
import ObliviousLog.Proofs.Replica.History
import ObliviousLog.Proofs.Replica.Displacement
import ObliviousLog.Proofs.Replica.Accounting
import ObliviousLog.Proofs.Replica.Order
import ObliviousLog.Proofs.Replica.Padded
import ObliviousLog.Proofs.Replica.Published
import ObliviousLog.Proofs.Replica.Store
import ObliviousLog.Proofs.Replica.Refinement
import ObliviousLog.Proofs.Retrieval
import ObliviousLog.Proofs.Numeric.Order
import ObliviousLog.Proofs.Replica.Load
import ObliviousLog.Proofs.Replica.Refusal
import ObliviousLog.Proofs.Replica.FailedFlop
import ObliviousLog.Proofs.Replica.Overtaking
import ObliviousLog.Proofs.Pad.Stream
import ObliviousLog.Proofs.Request.Recombination
import ObliviousLog.Proofs.Table.Lookup
import ObliviousLog.Proofs.Table.Confinement
import ObliviousLog.Proofs.Table.Room
import ObliviousLog.Proofs.Table.Guarded
import ObliviousLog.Proofs.Table.Safety
import ObliviousLog.Proofs.Shard.Linearity
import ObliviousLog.Proofs.Request.Positions
import ObliviousLog.Proofs.Replica.Pointwise
import ObliviousLog.Proofs.Replica.Creation
