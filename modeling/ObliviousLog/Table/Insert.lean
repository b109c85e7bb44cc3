import ObliviousLog.Table.Basic

/-!
# Insertion

An item goes to the first free slot of a candidate bucket chosen by a coin.  When that bucket is
full the other one is tried, and from there on a chain of evictions: the carried item takes the slot
of a random victim, and the victim is carried on to its own other bucket.  After a fixed number of
evictions the chain gives up and hands back the item it is left carrying.
-/

namespace ObliviousLog

/-- The most evictions that one insertion performs. -/
def maxEvictions : Nat := 500

/-- How an accepted item was placed. -/
inductive Placement where
  /-- The first bucket that was tried had a free slot. -/
  | immediate
  /-- A free slot was found after a chain of evictions. -/
  | relocated (evictions : Nat)
  /-- The eviction budget ran out with `item` left without a slot. -/
  | displaced (item : Item)
deriving DecidableEq

namespace Placement

/-- The outcome that a writer sees: a displaced item is handed back in an error. -/
def outcome : Placement → Except Error Unit
  | immediate => .ok ()
  | relocated _ => .ok ()
  | displaced item => .error (.capacity item)

/-- What is told of a placement. -/
def events : Placement → List Event
  | immediate => []
  | relocated evictions => [.itemRelocated evictions]
  | displaced item => [.budgetExhausted item.id]

end Placement

namespace Table

variable {G : Type} [CoinSource G]

/-- Carries an item through a chain of at most `budget` evictions, of which `evictions` are past.
A free slot of the target bucket ends the chain, as would a victim slot that holds nothing. -/
def relocate :
    (budget evictions target : Nat) →
    (carried : Item) →
    Table G →
    Placement × Table G
  | 0, _, _, carried, table => (.displaced carried, table)
  | budget + 1, evictions, target, carried, table =>
    match table.freeSlot? target with
    | some index => (.relocated evictions, table.put index carried)
    | none =>
      let (index, table) := table.pickSlot target
      match table.itemAt? index with
      | none => (.relocated evictions, table.put index carried)
      | some victim =>
        relocate budget (evictions + 1) (victim.otherBucket target) victim
          (table.put index carried)

/-- Places an item that fits the table. -/
def place (table : Table G) (item : Item) : Placement × Table G :=
  let (heads, table) := table.flip
  let start := item.candidate heads
  match table.freeSlot? start with
  | some index => (.immediate, table.put index item)
  | none => relocate maxEvictions 0 (item.otherBucket start) item table

/-- Places an item, or refuses one that does not fit and leaves the table as it was. -/
def insert (table : Table G) (item : Item) : Except Error Placement × Table G :=
  match table.check item with
  | .error error => (.error error, table)
  | .ok () =>
    let (placement, table) := table.place item
    (.ok placement, table)

end Table
end ObliviousLog
