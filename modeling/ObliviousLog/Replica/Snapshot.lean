import ObliviousLog.Event
import ObliviousLog.Replica.Config
import ObliviousLog.Table.Insert
import ObliviousLog.Table.Remove

/-!
# Snapshots

A snapshot is a table together with the keys of its entries in the order of their insertion, oldest
first.  Applying a write to a snapshot runs housekeeping when the table is over its load factor, and
then inserts the item.
-/

namespace ObliviousLog

/-- A table with the history of its entries. -/
structure Snapshot (G : Type) where
  /-- The table. -/
  table : Table G
  /-- The keys of the entries, oldest first. -/
  history : List Key
deriving DecidableEq

/-- What applying a write did to a snapshot. -/
structure WriteReport where
  /-- The number of entries that housekeeping removed, if it ran. -/
  evicted : Option Nat
  /-- How the item was placed. -/
  placement : Placement
deriving DecidableEq

namespace WriteReport

/-- The outcome that a writer sees. -/
def outcome (report : WriteReport) : Except Error Unit :=
  report.placement.outcome

/-- What is told of a write. -/
def events (report : WriteReport) : List Event :=
  (report.evicted.map Event.entriesEvicted).toList ++ report.placement.events

end WriteReport

namespace Snapshot

variable {G : Type} [CoinSource G]

/-- The empty snapshot of a configuration. -/
def empty (config : Config) : Except Error (Snapshot G) :=
  match Geometry.ofDimensions config.numBuckets config.bucketDepth config.itemSize with
  | .error error => .error error
  | .ok geometry => .ok { table := Table.empty geometry config.seed, history := [] }

/-- Removes the oldest `count` entries, passing over keys that the table does not hold.  Answers how
many were removed, what is left of the history, and the table. -/
def evictKeys :
    (count : Nat) →
    (history : List Key) →
    Table G →
    Nat × List Key × Table G
  | 0, history, table => (0, history, table)
  | _ + 1, [], table => (0, [], table)
  | count + 1, oldest :: history, table =>
    match table.remove oldest with
    | (true, table) =>
      let (evicted, history, table) := evictKeys count history table
      (evicted + 1, history, table)
    | (false, table) => evictKeys (count + 1) history table

/-- Removes the oldest `count` entries, and tells how many there were. -/
def evictOldest (snapshot : Snapshot G) (count : Nat) : Nat × Snapshot G :=
  let (evicted, history, table) := evictKeys count snapshot.history snapshot.table
  (evicted, { table, history })

/-- Removes the oldest entries if the table is over its load factor. -/
def housekeep (snapshot : Snapshot G) (config : Config) : Option Nat × Snapshot G :=
  if config.overloaded snapshot.table.count then
    let (evicted, snapshot) := snapshot.evictOldest config.evictionCount
    (some evicted, snapshot)
  else
    (none, snapshot)

/-- The history after an item was placed: the item comes last, and what it displaced drops out. -/
def record (history : List Key) (item : Item) : Placement → List Key
  | .immediate => history ++ [item.toKey]
  | .relocated _ => history ++ [item.toKey]
  | .displaced displaced => (history ++ [item.toKey]).erase displaced.toKey

/-- Applies a write.  An item that does not fit the table is refused before anything changes. -/
def apply
    (snapshot : Snapshot G)
    (config : Config)
    (item : Item) : Except Error WriteReport × Snapshot G :=
  match snapshot.table.check item with
  | .error error => (.error error, snapshot)
  | .ok () =>
    let (evicted, snapshot) := snapshot.housekeep config
    match snapshot.table.insert item with
    | (.error error, table) => (.error error, { snapshot with table })
    | (.ok placement, table) =>
      (.ok { evicted, placement },
        { table, history := record snapshot.history item placement })

end Snapshot
end ObliviousLog
