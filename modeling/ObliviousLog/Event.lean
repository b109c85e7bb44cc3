import ObliviousLog.Error

/-!
# Events

What an operator of the log is told while it runs.  Operations report what happened in their
results; an event is one such fact with its severity and its wording.
-/

namespace ObliviousLog

/-- How urgent an event is. -/
inductive Severity where
  | debug
  | info
  | warn
deriving DecidableEq

namespace Severity

/-- The word that stands before a message of this severity. -/
def label : Severity → String
  | debug => "DEBUG"
  | info => "INFO"
  | warn => "WARN"

end Severity

/-- A fact worth telling an operator. -/
inductive Event where
  /-- A scan engine was registered under a name. -/
  | engineRegistered (name : String)
  /-- A table was created. -/
  | tableCreated (numBuckets bucketDepth itemSize : Nat)
  /-- An item was placed at the end of a chain of evictions. -/
  | itemRelocated (evictions : Nat)
  /-- A chain of evictions ran out of budget. -/
  | budgetExhausted (displaced : UInt64)
  /-- A replica is being created. -/
  | replicaCreated (numBuckets bucketDepth itemSize : Nat) (engine : String)
  /-- Housekeeping removed the oldest entries. -/
  | entriesEvicted (count : Nat)
  /-- A write displaced an item. -/
  | writeDisplaced (written displaced : UInt64)
  /-- The replay of a write met an error. -/
  | replayRefused (written : UInt64) (error : Error)
  /-- An epoch was published. -/
  | epochPublished (epoch : UInt64) (replayed : Nat)
  /-- A batch of requests arrived. -/
  | batchRead (length : Nat) (epoch : UInt64)
deriving DecidableEq

namespace Event

/-- The severity of an event. -/
def severity : Event → Severity
  | engineRegistered _ => .debug
  | tableCreated .. => .info
  | itemRelocated _ => .debug
  | budgetExhausted _ => .debug
  | replicaCreated .. => .info
  | entriesEvicted _ => .debug
  | writeDisplaced .. => .warn
  | replayRefused .. => .warn
  | epochPublished .. => .info
  | batchRead .. => .debug

/-- The dimensions as they are told at a creation. -/
def dimensions (numBuckets bucketDepth itemSize : Nat) : String :=
  "buckets = " ++ toString numBuckets ++ ", depth = " ++ toString bucketDepth ++
    ", item_size = " ++ toString itemSize

/-- The wording of an event. -/
def message : Event → String
  | engineRegistered name => "BackendRegistry::register(" ++ name ++ ")"
  | tableCreated numBuckets bucketDepth itemSize =>
    "CuckooTable::new(" ++ dimensions numBuckets bucketDepth itemSize ++ ")"
  | itemRelocated evictions =>
    "CuckooTable::insert -- placed after " ++ toString evictions ++ " evictions"
  | budgetExhausted displaced =>
    "CuckooTable::insert -- eviction budget exhausted, displacing item " ++
      toString displaced.toNat
  | replicaCreated numBuckets bucketDepth itemSize engine =>
    "Replica::new(" ++ dimensions numBuckets bucketDepth itemSize ++ ", backend = " ++ engine ++
      ")"
  | entriesEvicted count =>
    "Replica -- load factor exceeded, evicted " ++ toString count ++ " entries"
  | writeDisplaced written displaced =>
    "Replica::write -- item " ++ toString written.toNat ++ " displaced item " ++
      toString displaced.toNat
  | replayRefused written error =>
    "Replica::flop -- replay of item " ++ toString written.toNat ++ ": " ++ error.message
  | epochPublished epoch replayed =>
    "Replica::flop -- published epoch " ++ toString epoch.toNat ++ ", replayed " ++
      toString replayed ++ " writes"
  | batchRead length epoch =>
    "Replica::batch_read -- " ++ toString length ++ " bytes against epoch " ++
      toString epoch.toNat

/-- An event as one line of text. -/
def line (event : Event) : String :=
  event.severity.label ++ " " ++ event.message

end Event
end ObliviousLog
