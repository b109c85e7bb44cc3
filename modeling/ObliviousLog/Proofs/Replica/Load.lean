import ObliviousLog.Proofs.Numeric.Order
import ObliviousLog.Proofs.Replica.History

/-!
# A bound on the load

Housekeeping runs before an item is inserted, and only on a table that is above its threshold
already.  Since it always removes an entry if there is one, no table is ever more than one entry
above the threshold.
-/

namespace ObliviousLog

namespace Config

/-- Whether a table with so many entries is at most one entry above the threshold. -/
def Tolerates (config : Config) (count : Nat) : Prop :=
  count ≤ 1 ∨ config.overloaded (count - 1) = false

variable {config : Config} {less more : Nat}

/-- More entries than too many are too many. -/
theorem overloaded_mono
    (ordered : less ≤ more)
    (overloaded : config.overloaded less = true) :
    config.overloaded more = true :=
  Binary64.lt_ofNat_mono ordered overloaded

theorem evictionCount_pos (config : Config) : 0 < config.evictionCount :=
  Nat.le_max_right _ 1

theorem Tolerates.mono
    (tolerates : config.Tolerates more)
    (ordered : less ≤ more) :
    config.Tolerates less := by
  rcases tolerates with few | room
  · exact Or.inl (Nat.le_trans ordered few)
  · refine Or.inr (Bool.eq_false_iff.mpr fun overloaded => ?_)
    rw [overloaded_mono (Nat.sub_le_sub_right ordered 1) overloaded] at room
    cases room

end Config

namespace Snapshot

variable {G : Type}

/-- A consistent snapshot whose table is at most one entry above the threshold. -/
structure Bounded (snapshot : Snapshot G) (config : Config) : Prop
    extends snapshot.Consistent where
  tolerated : config.Tolerates snapshot.table.count

variable [CoinSource G]

namespace Bounded

variable {snapshot : Snapshot G} {config : Config}

/-- Housekeeping leaves room for one more entry. -/
theorem housekeep
    (bounded : snapshot.Bounded config) :
    config.Tolerates ((snapshot.housekeep config).2.table.count + 1) := by
  cases load : config.overloaded snapshot.table.count with
  | false =>
      rw [housekeep_of_room load]
      exact Or.inr load
  | true =>
      obtain ⟨rest, housekept, _, left⟩ := bounded.housekeep_of_overloaded load
      have removesSome := config.evictionCount_pos
      rw [housekept, left]
      rcases Nat.eq_zero_or_pos snapshot.table.count with none | some
      · exact Or.inl (by omega)
      · exact bounded.tolerated.mono (by omega)

/-- A write leaves a table at most one entry above the threshold. -/
theorem apply
    (bounded : snapshot.Bounded config)
    (item : Item) :
    (snapshot.apply config item).2.Bounded config := by
  refine ⟨bounded.toConsistent.apply config item, ?_⟩
  cases checked : snapshot.table.check item with
  | error error =>
      rw [apply_of_misfit checked]
      exact bounded.tolerated
  | ok =>
      obtain ⟨placement, next, applied, balance, _⟩ :=
        bounded.toConsistent.apply_of_fits config checked
      have atMostOneMore : next.table.count ≤ (snapshot.housekeep config).2.table.count + 1 := by
        omega
      rw [applied]
      exact bounded.housekeep.mono atMostOneMore

end Bounded
end Snapshot

namespace Replica

variable {G E S : Type} [CoinSource G] [ShardLike S] [ScanEngine E S]

theorem bounded_of_held
    {config : Config}
    {registry : Registry E}
    {fresh : Replica G E S}
    (created : create config registry = .ok fresh)
    (calls : List Call)
    {snapshot : Snapshot G}
    (held : (fresh.after calls).Holds snapshot) :
    snapshot.Bounded config := by
  obtain ⟨_, emptied, _⟩ := snapshots_of_create created
  have consistent := Snapshot.consistent_of_empty emptied
  have empty : fresh.alternate.table.count = 0 := by
    obtain ⟨_, _, alternateEmpty⟩ := Snapshot.eq_of_empty emptied
    rw [← consistent.length_history, alternateEmpty, List.length_nil]
  have start : fresh.alternate.Bounded config := ⟨consistent, Or.inl (by omega)⟩
  exact held_keeps (Snapshot.Bounded · config) created start
    (fun _ item bounded => bounded.apply item) calls held

/-- In every snapshot that a replica ever holds, both of its own among them, there are no more
entries than slots, and unless there is a single one, the entries without the last are not above
the threshold. -/
theorem load_bounded
    {config : Config}
    {registry : Registry E}
    {fresh : Replica G E S}
    (created : create config registry = .ok fresh)
    (calls : List Call)
    {snapshot : Snapshot G}
    (held : (fresh.after calls).Holds snapshot) :
    snapshot.table.count ≤ config.numBuckets * config.bucketDepth ∧
      (snapshot.table.count ≤ 1 ∨
        (Binary64.ofNat config.capacity * config.maxLoadFactor).lt
          (Binary64.ofNat (snapshot.table.count - 1)) = false) := by
  have bounded := bounded_of_held created calls held
  have described := describes_of_held created calls held
  refine ⟨?_, bounded.tolerated⟩
  obtain ⟨sameBuckets, sameDepth, _⟩ := described.dimensions
  rw [Table.count_eq_length_items bounded.valid.toSized, sameBuckets, sameDepth]
  exact snapshot.table.length_items_le

/-- A replica of two one-byte slots that are both occupied, which is one entry above the threshold.
-/
theorem load_bounded_of_full :
    ∃ fresh : Replica ChaCha ScanMethod Shard,
      create (Config.ofDimensions 2 1 1) Registry.standard = .ok fresh ∧
      (fresh.after fillingCalls).alternate.table.count = 2 ∧
      (Config.ofDimensions 2 1 1).overloaded 2 = true ∧
      2 ≤ 2 * 1 ∧
      (2 ≤ 1 ∨ (Config.ofDimensions 2 1 1).overloaded (2 - 1) = false) := by
  have evaluated :
      ((create (Config.ofDimensions 2 1 1) Registry.standard :
          Except Error (Replica ChaCha ScanMethod Shard)).map fun fresh =>
        (fresh.after fillingCalls).alternate.table.count).toOption = some 2 := by
    decide +kernel
  have above : (Config.ofDimensions 2 1 1).overloaded 2 = true := by decide +kernel
  obtain ⟨fresh, created, two⟩ := Error.toOption_map_eq_some.mp evaluated
  have bounds := load_bounded created fillingCalls .alternate
  rw [two] at bounds
  exact ⟨fresh, created, two, above, bounds⟩

end Replica
end ObliviousLog
