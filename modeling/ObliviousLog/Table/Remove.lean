import ObliviousLog.Table.Basic

/-!
# Lookup and removal

Items are looked up by key alone, in their two candidate buckets.  A removal searches these in an
order that a coin decides and frees the first slot it finds; of several items under one key exactly
one goes.
-/

namespace ObliviousLog
namespace Table

variable {G : Type}

/-- Whether a candidate bucket of a key holds the key. -/
def contains (table : Table G) (key : Key) : Bool :=
  match table.checkKey key with
  | .error _ => false
  | .ok () =>
    (table.slotOf? key.bucket1 key).isSome || (table.slotOf? key.bucket2 key).isSome

/-- Removes one item with a key, and tells whether there was one.  A key whose buckets do not exist
is refused before any coin is flipped. -/
def remove [CoinSource G] (table : Table G) (key : Key) : Bool × Table G :=
  match table.checkKey key with
  | .error _ => (false, table)
  | .ok () =>
    let (heads, table) := table.flip
    let first := key.candidate heads
    let found :=
      (table.slotOf? first key).or (table.slotOf? (key.otherBucket first) key)
    match found with
    | none => (false, table)
    | some index => (true, table.clear index)

end Table
end ObliviousLog
