import ObliviousLog.Proofs.Replica.History
import ObliviousLog.Proofs.Table.FirstSlots

/-!
# Items under one key

The history has keys and no payloads, so its oldest records say how many items of a key housekeeping
takes away, but not which.  In each bucket those in the first slots go, and coins decide how many of
them go in which of the two buckets.  An item in a later slot, or in the other bucket, stays behind
even if it was written first.
-/

namespace ObliviousLog
namespace Snapshot

variable {G : Type} [CoinSource G]

/-- When the history lists the keys of the table, an eviction frees first slots only, of each key as
many as its oldest records have. -/
theorem freesFirst_evictKeys
    {history : List Key}
    {table : Table G}
    (valid : table.Valid)
    (recorded : history.Perm table.keys)
    (count : Nat) :
    ∃ freed,
      table.FreesFirst (evictKeys count history table).2.2 freed ∧
      ∀ key : Key, ∑ bucket ∈ key.buckets, freed key bucket = (history.take count).count key := by
  induction history generalizing count table with
  | nil =>
      refine ⟨fun _ _ => 0, ?_, fun key => by simp⟩
      cases count <;> exact .refl table
  | cons oldest history inductionHypothesis =>
      cases count with
      | zero => exact ⟨fun _ _ => 0, .refl table, fun key => by simp⟩
      | succ count =>
          obtain ⟨next, removed, validNext, recordedNext⟩ := valid.remove_of_recorded recorded
          obtain ⟨bucket, allowed, frees⟩ := Table.freesFirst_remove valid.toSized removed
          obtain ⟨freed, freesLater, counted⟩ :=
            inductionHypothesis validNext recordedNext count
          refine ⟨Table.once oldest bucket + freed, ?_, fun key => ?_⟩
          · rw [evictKeys, removed]
            exact frees.trans freesLater
          · simp only [Pi.add_apply]
            rw [Finset.sum_add_distrib, Table.sum_once allowed, counted, List.take_succ_cons,
              List.count_cons, Nat.add_comm]
            simp only [beq_iff_eq]

theorem table_evictOldest (snapshot : Snapshot G) (count : Nat) :
    (snapshot.evictOldest count).2.table =
      (evictKeys count snapshot.history snapshot.table).2.2 := rfl

/-- Above the threshold, housekeeping frees first slots only, of each key as many as its oldest
records have. -/
theorem Consistent.freesFirst_housekeep
    {snapshot : Snapshot G}
    (consistent : snapshot.Consistent)
    {config : Config}
    (overloaded : config.overloaded snapshot.table.count = true) :
    ∃ rest freed,
      snapshot.housekeep config =
        (some (min config.evictionCount snapshot.table.count), rest) ∧
      rest.Consistent ∧
      snapshot.table.FreesFirst rest.table freed ∧
      ∀ key : Key,
        ∑ bucket ∈ key.buckets, freed key bucket =
          (snapshot.history.take config.evictionCount).count key := by
  obtain ⟨rest, housekept, restConsistent, _⟩ := consistent.housekeep_of_overloaded overloaded
  obtain ⟨freed, frees, counted⟩ :=
    freesFirst_evictKeys consistent.valid consistent.recorded config.evictionCount
  refine ⟨rest, freed, housekept, restConsistent, ?_, counted⟩
  rw [Snapshot.housekeep_of_overloaded overloaded] at housekept
  rwa [← (Prod.mk.inj housekept).2, table_evictOldest]

end Snapshot

namespace Replica

open Session

variable {G E S : Type} [CoinSource G] [ShardLike S] [ScanEngine E S]

/-- Whenever housekeeping runs, in any snapshot that a replica ever holds, it frees the first slots
of each key in each bucket, in both buckets together as many as the oldest records have the key, and
it changes nothing else.  So of two items under one key it removes the younger one and leaves the
older one exactly if each slot with the younger is among the freed places of its bucket and a slot
with the older is not.  In one bucket this cannot happen to an older item in the lower slot. -/
theorem housekeeping_frees_first_slots
    {config : Config}
    {registry : Registry E}
    {fresh : Replica G E S}
    (created : create config registry = .ok fresh)
    (calls : List Call)
    {snapshot : Snapshot G}
    (held : (fresh.after calls).Holds snapshot)
    (overloaded : config.overloaded snapshot.table.count = true) :
    ∃ rest freed,
      snapshot.housekeep config =
        (some (min config.evictionCount snapshot.table.count), rest) ∧
      snapshot.table.FreesFirst rest.table freed ∧
      (∀ key : Key,
        ∑ bucket ∈ key.buckets, freed key bucket =
          (snapshot.history.take config.evictionCount).count key) ∧
      ∀ older younger : Item, older.toKey = younger.toKey →
        (younger ∉ rest.table.items ∧ older ∈ rest.table.items ↔
          (∀ index, snapshot.table.itemAt? index = some younger →
            snapshot.table.rank younger.toKey index <
              freed younger.toKey (index / config.bucketDepth)) ∧
          ∃ index, snapshot.table.itemAt? index = some older ∧
            freed older.toKey (index / config.bucketDepth) ≤
              snapshot.table.rank older.toKey index) ∧
        ∀ lower higher,
          lower / config.bucketDepth = higher / config.bucketDepth →
          lower < higher →
          snapshot.table.itemAt? higher = some younger →
          rest.table.itemAt? lower = some older →
          rest.table.itemAt? higher = some younger := by
  have consistent := consistent_of_held created calls held
  obtain ⟨_, sameDepth, _⟩ := (describes_of_held created calls held).dimensions
  obtain ⟨rest, freed, housekept, restConsistent, frees, counted⟩ :=
    consistent.freesFirst_housekeep overloaded
  refine ⟨rest, freed, housekept, frees, counted, fun older younger sameKey => ⟨?_, ?_⟩⟩
  · have sized := restConsistent.valid.toSized
    rw [frees.mem_items_iff sized, frees.mem_items_iff sized, ← sameDepth]
    push Not
    rfl
  · intro lower higher sameBucket below heldHigher keptLower
    rw [sameDepth] at sameBucket
    exact frees.itemAt?_of_lower sameBucket below sameKey heldHigher keptLower

/-- An item, another one, and a second one under the key of that one, all pinned to a bucket of two
slots.  The third write evicts the first item, and takes its slot. -/
def reusingCalls : List Call :=
  [.write ⟨⟨1, 0, 0⟩, [4]⟩, .write ⟨⟨2, 0, 0⟩, [5]⟩, .write ⟨⟨2, 0, 0⟩, [6]⟩]

/-- In a replica of one bucket of two one-byte slots, the younger of two items under one key lies in
the lower slot, and housekeeping removes it before the older one. -/
theorem housekeeping_frees_first_slots_of_reused :
    ∃ (fresh : Replica ChaCha ScanMethod Shard) (rest : Snapshot ChaCha),
      create (Config.ofDimensions 1 2 1) Registry.standard = .ok fresh ∧
      (fresh.after reusingCalls).alternate.history = [⟨2, 0, 0⟩, ⟨2, 0, 0⟩] ∧
      (fresh.after reusingCalls).alternate.housekeep (Config.ofDimensions 1 2 1) =
        (some 1, rest) ∧
      ⟨⟨2, 0, 0⟩, [6]⟩ ∉ rest.table.items ∧
      ⟨⟨2, 0, 0⟩, [5]⟩ ∈ rest.table.items := by
  have evaluated :
      ((create (Config.ofDimensions 1 2 1) Registry.standard :
          Except Error (Replica ChaCha ScanMethod Shard)).map fun fresh =>
        ((fresh.after reusingCalls).alternate.history,
          (fresh.after reusingCalls).alternate.table.count,
          [0, 1].map (fresh.after reusingCalls).alternate.table.itemAt?,
          [0, 1].map ((fresh.after reusingCalls).alternate.table.rank ⟨2, 0, 0⟩))).toOption =
        some ([⟨2, 0, 0⟩, ⟨2, 0, 0⟩], 2,
          [some ⟨⟨2, 0, 0⟩, [6]⟩, some ⟨⟨2, 0, 0⟩, [5]⟩], [0, 1]) := by
    decide +kernel
  have one : (Config.ofDimensions 1 2 1).evictionCount = 1 := by decide +kernel
  have above : (Config.ofDimensions 1 2 1).overloaded 2 = true := by decide +kernel
  obtain ⟨fresh, created, seen⟩ := Error.toOption_map_eq_some.mp evaluated
  simp only [Prod.mk.injEq, List.map_cons, List.map_nil, List.cons.injEq, and_true] at seen
  obtain ⟨history, two, ⟨lower, higher⟩, lowerRank, higherRank⟩ := seen
  have overloaded : (Config.ofDimensions 1 2 1).overloaded
      (fresh.after reusingCalls).alternate.table.count = true := by
    rw [two]
    exact above
  obtain ⟨rest, freed, housekept, _, counted, pairs⟩ :=
    housekeeping_frees_first_slots created reusingCalls .alternate overloaded
  have consistent := consistent_of_held created reusingCalls .alternate
  obtain ⟨sameBuckets, sameDepth, _⟩ :=
    (describes_of_held created reusingCalls .alternate).dimensions
  have capacity : (fresh.after reusingCalls).alternate.table.geometry.capacity = 2 := by
    rw [Geometry.capacity, ← sameBuckets, ← sameDepth]
    rfl
  -- One slot is freed for the key, in its only bucket.
  have freedOne : freed ⟨2, 0, 0⟩ 0 = 1 := by
    have total := counted ⟨2, 0, 0⟩
    rw [one, history] at total
    exact total
  have overtaken := (pairs ⟨⟨2, 0, 0⟩, [5]⟩ ⟨⟨2, 0, 0⟩, [6]⟩ rfl).1.mpr ⟨?_, 1, higher, ?_⟩
  · rw [one, two] at housekept
    exact ⟨fresh, rest, created, history, housekept, overtaken⟩
  · intro index stored
    have inside := Table.lt_capacity_of_keyAt? consistent.valid.toSized
      (Table.keyAt?_of_itemAt? stored)
    rw [capacity] at inside
    obtain rfl | rfl : index = 0 ∨ index = 1 := by omega
    · change _ < freed ⟨2, 0, 0⟩ 0
      rw [freedOne, lowerRank]
      exact Nat.zero_lt_one
    · rw [higher] at stored
      cases stored
  · change freed ⟨2, 0, 0⟩ 0 ≤ _
    rw [freedOne, higherRank]

/-- Two writes under one key that fill a replica of two one-byte slots, one in each bucket. -/
def splitCalls : List Call :=
  [.write ⟨⟨1, 0, 1⟩, [5]⟩, .write ⟨⟨1, 0, 1⟩, [6]⟩]

/-- In a replica of two buckets of one slot each, a coin has housekeeping remove the younger of two
items under one key, and the older one stays. -/
theorem housekeeping_removes_younger :
    ∃ (fresh : Replica ChaCha ScanMethod Shard) (report : WriteReport)
        (next : Replica ChaCha ScanMethod Shard),
      create { Config.ofDimensions 2 1 1 with seed := 2 } Registry.standard = .ok fresh ∧
      acceptedWrites (fresh.trace splitCalls) = [⟨⟨1, 0, 1⟩, [5]⟩, ⟨⟨1, 0, 1⟩, [6]⟩] ∧
      (fresh.after splitCalls).alternate.table.items =
        [⟨⟨1, 0, 1⟩, [6]⟩, ⟨⟨1, 0, 1⟩, [5]⟩] ∧
      (fresh.after splitCalls).write ⟨⟨2, 0, 1⟩, [7]⟩ = (.ok report, next) ∧
      report.evicted = some 1 ∧
      ((fresh.after splitCalls).alternate.housekeep fresh.config).2.table.items =
        [⟨⟨1, 0, 1⟩, [5]⟩] := by
  have evaluated :
      ((create { Config.ofDimensions 2 1 1 with seed := 2 } Registry.standard :
          Except Error (Replica ChaCha ScanMethod Shard)).map fun fresh =>
        (acceptedWrites (fresh.trace splitCalls),
          (fresh.after splitCalls).alternate.table.items,
          ((fresh.after splitCalls).alternate.housekeep fresh.config).2.table.items,
          ((fresh.after splitCalls).write ⟨⟨2, 0, 1⟩, [7]⟩).1.toOption.map
            WriteReport.evicted)).toOption =
        some ([⟨⟨1, 0, 1⟩, [5]⟩, ⟨⟨1, 0, 1⟩, [6]⟩], [⟨⟨1, 0, 1⟩, [6]⟩, ⟨⟨1, 0, 1⟩, [5]⟩],
          [⟨⟨1, 0, 1⟩, [5]⟩], some (some 1)) := by
    decide +kernel
  obtain ⟨fresh, created, seen⟩ := Error.toOption_map_eq_some.mp evaluated
  simp only [Prod.mk.injEq, Option.map_eq_some_iff] at seen
  obtain ⟨accepted, stored, left, report, answered, ran⟩ := seen
  rcases written : (fresh.after splitCalls).write ⟨⟨2, 0, 1⟩, [7]⟩ with ⟨outcome, next⟩
  rw [written] at answered
  cases Error.toOption_eq_some.mp answered
  exact ⟨fresh, report, next, created, accepted, stored, written, ran, left⟩

end Replica
end ObliviousLog
