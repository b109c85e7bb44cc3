import ObliviousLog.Proofs.Replica.Eviction
import ObliviousLog.Proofs.Replica.Standard
import ObliviousLog.Proofs.Replica.Writes
import ObliviousLog.Proofs.Table.Conservation

/-!
# The history lists the entries

The history of a snapshot has one record for each entry of its table, whatever was written,
displaced and evicted before.  Every write keeps this, because an insertion conserves the keys
together with what it displaces.  So a displaced item is always found in the history, evictions
never miss, and what housekeeping reports is what it did.
-/

namespace ObliviousLog
namespace Snapshot

variable {G : Type}

/-- A snapshot of a valid table whose history lists the keys of the table. -/
structure Consistent (snapshot : Snapshot G) : Prop where
  valid : snapshot.table.Valid
  recorded : snapshot.history.Perm snapshot.table.keys

variable {snapshot : Snapshot G} {config : Config} {item : Item}

theorem Consistent.length_history (consistent : snapshot.Consistent) :
    snapshot.history.length = snapshot.table.count :=
  consistent.recorded.length_eq.trans (Table.length_keys consistent.valid.toSized)

variable [CoinSource G]

theorem consistent_of_empty (emptied : Snapshot.empty config = .ok snapshot) :
    snapshot.Consistent := by
  obtain ⟨geometry, _, rfl⟩ := eq_of_empty emptied
  have nothing : (Table.empty geometry config.seed : Table G).keys = [] := by
    rw [Table.keys, Table.empty, Array.toList_replicate, List.filterMap_replicate_of_none rfl]
  exact ⟨Table.valid_empty geometry config.seed, by rw [nothing]⟩

namespace Consistent

/-! ## Housekeeping -/

/-- An eviction removes as many entries as were asked for or as there are. -/
theorem evictOldest
    (consistent : snapshot.Consistent)
    (count : Nat) :
    ∃ rest,
      snapshot.evictOldest count = (min count snapshot.table.count, rest) ∧
      rest.Consistent ∧
      rest.table.count = snapshot.table.count - min count snapshot.table.count := by
  obtain ⟨table, evicted, valid, recorded⟩ :=
    evictKeys_of_recorded consistent.valid consistent.recorded count
  have restConsistent : Consistent ⟨table, snapshot.history.drop count⟩ := ⟨valid, recorded⟩
  refine ⟨⟨table, snapshot.history.drop count⟩, ?_, restConsistent, ?_⟩
  · rw [Snapshot.evictOldest, evicted, consistent.length_history]
  · rw [← restConsistent.length_history, List.length_drop, consistent.length_history]
    omega

/-- Above the threshold, housekeeping removes as many entries as are configured or as there are. -/
theorem housekeep_of_overloaded
    (consistent : snapshot.Consistent)
    (overloaded : config.overloaded snapshot.table.count = true) :
    ∃ rest,
      snapshot.housekeep config =
        (some (min config.evictionCount snapshot.table.count), rest) ∧
      rest.Consistent ∧
      rest.table.count =
        snapshot.table.count - min config.evictionCount snapshot.table.count := by
  obtain ⟨rest, evicted, restConsistent, left⟩ := consistent.evictOldest config.evictionCount
  refine ⟨rest, ?_, restConsistent, left⟩
  rw [Snapshot.housekeep_of_overloaded overloaded, evicted]

/-- Housekeeping leaves the history with one record for each entry. -/
theorem housekeep
    (consistent : snapshot.Consistent)
    (config : Config) :
    (snapshot.housekeep config).2.Consistent := by
  cases load : config.overloaded snapshot.table.count with
  | false => rwa [housekeep_of_room load]
  | true =>
      obtain ⟨rest, housekept, restConsistent, _⟩ := consistent.housekeep_of_overloaded load
      rwa [housekept]

/-! ## Writes -/

/-- What a placement displaces is on record, and dropping it from the record leaves one record for
each entry. -/
theorem place
    (consistent : snapshot.Consistent)
    (fits : snapshot.table.check item = .ok ()) :
    (∀ displaced, (snapshot.table.place item).1 = .displaced displaced →
      displaced.toKey ∈ snapshot.history ++ [item.toKey]) ∧
    Consistent {
      table := (snapshot.table.place item).2
      history := record snapshot.history item (snapshot.table.place item).1 } := by
  have valid := consistent.valid
  have validNext := valid.place fits
  -- The conservation law of insertions, read for keys and with the history for the stored ones.
  have conserved :
      ((snapshot.table.place item).1.leftOver.map Item.toKey ++
        (snapshot.table.place item).2.keys).Perm (snapshot.history ++ [item.toKey]) := by
    rw [← Table.map_toKey_items validNext.toSized, ← List.map_append]
    refine ((Table.items_place valid fits).map Item.toKey).trans ?_
    rw [List.map_cons, Table.map_toKey_items valid.toSized]
    exact (consistent.recorded.symm.cons _).trans (List.perm_append_singleton _ _).symm
  rcases placed : snapshot.table.place item with ⟨placement, next⟩
  rw [placed] at conserved validNext
  cases placement with
  | immediate => exact ⟨fun _ same => (nomatch same), validNext, conserved.symm⟩
  | relocated evictions => exact ⟨fun _ same => (nomatch same), validNext, conserved.symm⟩
  | displaced displaced =>
      have found : displaced.toKey ∈ snapshot.history ++ [item.toKey] :=
        conserved.subset List.mem_cons_self
      refine ⟨fun other same => Placement.displaced.inj same ▸ found, validNext, ?_⟩
      exact ((List.perm_cons_erase found).symm.trans conserved.symm).cons_inv

/-- Every write leaves the history with one record for each entry. -/
theorem apply
    (consistent : snapshot.Consistent)
    (config : Config)
    (item : Item) :
    (snapshot.apply config item).2.Consistent := by
  cases checked : snapshot.table.check item with
  | error error => rwa [apply_of_misfit checked]
  | ok =>
      have restConsistent := consistent.housekeep config
      rcases housekept : snapshot.housekeep config with ⟨evicted, rest⟩
      rw [housekept] at restConsistent
      obtain ⟨stillFits, applied⟩ := apply_of_fits housekept checked
      rw [applied]
      exact (restConsistent.place stillFits).2

/-- A write that fits adds one entry to what housekeeping leaves or exchanges one that is on record,
and it reports what housekeeping removed. -/
theorem apply_of_fits
    (consistent : snapshot.Consistent)
    (config : Config)
    (fits : snapshot.table.check item = .ok ()) :
    ∃ placement next,
      snapshot.apply config item =
        (.ok { evicted := (snapshot.housekeep config).1, placement }, next) ∧
      placement.leftOver.length + next.table.count =
        (snapshot.housekeep config).2.table.count + 1 ∧
      ∀ displaced, placement = .displaced displaced →
        displaced.toKey ∈ (snapshot.housekeep config).2.history ++ [item.toKey] := by
  have restConsistent := consistent.housekeep config
  rcases housekept : snapshot.housekeep config with ⟨evicted, rest⟩
  rw [housekept] at restConsistent
  obtain ⟨stillFits, applied⟩ := Snapshot.apply_of_fits housekept fits
  exact ⟨_, _, applied, Table.count_place restConsistent.valid stillFits,
    (restConsistent.place stillFits).1⟩

end Consistent
end Snapshot

namespace Replica

variable {G E S : Type} [CoinSource G]

/-- The snapshots that a replica holds: the two that writes and reads go to, and those that the
active one passes through in the replay of the pending writes. -/
inductive Holds (replica : Replica G E S) : Snapshot G → Prop
  | active : Holds replica replica.active
  | alternate : Holds replica replica.alternate
  | replaying (count : Nat) :
      Holds replica (replica.active.applyAll replica.config (replica.pending.take count))

variable [ShardLike S] [ScanEngine E S]

/-- What the empty snapshots of a fresh replica have and every write keeps, all snapshots have that
the replica ever holds. -/
theorem held_keeps
    (Invariant : Snapshot G → Prop)
    {config : Config}
    {registry : Registry E}
    {fresh : Replica G E S}
    (created : create config registry = .ok fresh)
    (start : Invariant fresh.alternate)
    (keeps : ∀ snapshot item, Invariant snapshot → Invariant (snapshot.apply config item).2)
    (calls : List Call)
    {snapshot : Snapshot G}
    (held : (fresh.after calls).Holds snapshot) :
    Invariant snapshot := by
  obtain ⟨sameConfig, _, equal⟩ := snapshots_of_create created
  have inStep := inStep_of_create created
  have keepsAll {first : Snapshot G} (start : Invariant first) (items : List Item) :
      Invariant (first.applyAll config items) :=
    Snapshot.applyAll_keeps Invariant config keeps start items
  have active : Invariant (fresh.after calls).active := by
    rw [inStep.active_after equal, sameConfig]
    exact keepsAll start _
  cases held with
  | active => exact active
  | alternate =>
      rw [inStep.alternate_after, sameConfig]
      exact keepsAll start _
  | replaying count =>
      rw [config_after_of_create created]
      exact keepsAll active _

theorem consistent_of_held
    {config : Config}
    {registry : Registry E}
    {fresh : Replica G E S}
    (created : create config registry = .ok fresh)
    (calls : List Call)
    {snapshot : Snapshot G}
    (held : (fresh.after calls).Holds snapshot) :
    snapshot.Consistent := by
  obtain ⟨_, emptied, _⟩ := snapshots_of_create created
  exact held_keeps Snapshot.Consistent created (Snapshot.consistent_of_empty emptied)
    (fun _ item consistent => consistent.apply config item) calls held

/-- Every snapshot that a replica ever holds has the dimensions of the configuration. -/
theorem describes_of_held
    {config : Config}
    {registry : Registry E}
    {fresh : Replica G E S}
    (created : create config registry = .ok fresh)
    (calls : List Call)
    {snapshot : Snapshot G}
    (held : (fresh.after calls).Holds snapshot) :
    config.Describes snapshot.table.geometry := by
  obtain ⟨_, emptied, _⟩ := snapshots_of_create created
  obtain ⟨geometry, described, empty⟩ := Snapshot.eq_of_empty emptied
  refine held_keeps (fun later => config.Describes later.table.geometry) created ?_ ?_ calls held
  · rw [empty]
    exact described
  · intro later item describes
    rwa [later.geometry_apply config item]

/-- In every snapshot that a replica ever holds, the history has one record for each entry of the
table.  So the removals of an eviction are those of the oldest keys and none of them misses;
housekeeping removes as many entries as are configured or as there are, and reports that number; a
displaced item is found in the history; and a write above the threshold adds one entry to what
housekeeping leaves, unless it displaces one. -/
theorem history_lists_entries
    {config : Config}
    {registry : Registry E}
    {fresh : Replica G E S}
    (created : create config registry = .ok fresh)
    (calls : List Call)
    {snapshot : Snapshot G}
    (held : (fresh.after calls).Holds snapshot) :
    (snapshot.history : Multiset Key) = (snapshot.table.keys : Multiset Key) ∧
      snapshot.history.length = snapshot.table.count ∧
      (∀ count,
        (Snapshot.removals count snapshot.history snapshot.table).map Prod.snd =
          snapshot.history.take count ∧
        ∀ removal ∈ Snapshot.removals count snapshot.history snapshot.table,
          (removal.1.remove removal.2).1 = true) ∧
      (config.overloaded snapshot.table.count = true →
        ∃ rest,
          snapshot.housekeep config =
            (some (min config.evictionCount snapshot.table.count), rest) ∧
          rest.table.count =
            snapshot.table.count - min config.evictionCount snapshot.table.count) ∧
      ∀ item, snapshot.table.check item = .ok () →
        ∃ report next,
          snapshot.apply config item = (.ok report, next) ∧
          (∀ displaced, report.outcome = .error (.capacity displaced) →
            displaced.toKey ∈ (snapshot.housekeep config).2.history ++ [item.toKey]) ∧
          (config.overloaded snapshot.table.count = true →
            report.events =
              .entriesEvicted (min config.evictionCount snapshot.table.count) ::
                report.placement.events ∧
            (report.outcome = .ok () →
              next.table.count =
                snapshot.table.count - min config.evictionCount snapshot.table.count + 1) ∧
            ∀ displaced, report.outcome = .error (.capacity displaced) →
              next.table.count =
                snapshot.table.count - min config.evictionCount snapshot.table.count) := by
  have consistent := consistent_of_held created calls held
  refine ⟨Multiset.coe_eq_coe.mpr consistent.recorded, consistent.length_history,
    Snapshot.removals_of_recorded consistent.valid consistent.recorded, ?_, ?_⟩
  · intro overloaded
    obtain ⟨rest, housekept, _, left⟩ := consistent.housekeep_of_overloaded overloaded
    exact ⟨rest, housekept, left⟩
  · intro item fits
    obtain ⟨placement, next, applied, balance, onRecord⟩ := consistent.apply_of_fits config fits
    refine ⟨_, next, applied, ?_, ?_⟩
    · intro displaced handedBack
      exact onRecord displaced (Placement.eq_displaced_of_outcome handedBack)
    · intro overloaded
      obtain ⟨rest, housekept, _, left⟩ := consistent.housekeep_of_overloaded overloaded
      rw [housekept, left] at balance
      rw [housekept]
      refine ⟨rfl, ?_, ?_⟩
      · intro accepted
        rw [Placement.leftOver_of_accepted accepted, List.length_nil, Nat.zero_add] at balance
        exact balance
      · intro displaced handedBack
        have same : placement = .displaced displaced :=
          Placement.eq_displaced_of_outcome handedBack
        rw [same, Placement.leftOver, List.length_singleton, Nat.add_comm] at balance
        exact Nat.add_right_cancel balance

/-- Two writes that fill two slots, the first of which a flop publishes. -/
def fillingCalls : List Call :=
  [.write ⟨⟨1, 0, 1⟩, [5]⟩, .flop, .write ⟨⟨2, 0, 1⟩, [6]⟩]

/-- A replica of two one-byte slots that are both occupied: the next write evicts one entry first.
-/
theorem history_lists_entries_of_full :
    ∃ (fresh : Replica ChaCha ScanMethod Shard) (report : WriteReport) (next : Snapshot ChaCha),
      create (Config.ofDimensions 2 1 1) Registry.standard = .ok fresh ∧
      (fresh.after fillingCalls).alternate.history.length = 2 ∧
      (fresh.after fillingCalls).alternate.apply (Config.ofDimensions 2 1 1)
        ⟨⟨3, 0, 1⟩, [7]⟩ = (.ok report, next) ∧
      report.events = .entriesEvicted 1 :: report.placement.events ∧
      (report.outcome = .ok () → next.table.count = 2) := by
  have evaluated :
      ((create (Config.ofDimensions 2 1 1) Registry.standard :
          Except Error (Replica ChaCha ScanMethod Shard)).map fun fresh =>
        ((fresh.after fillingCalls).alternate.table.count,
          ((fresh.after fillingCalls).alternate.table.check
            ⟨⟨3, 0, 1⟩, [7]⟩).toOption)).toOption =
        some (2, some ()) := by
    decide +kernel
  have one : (Config.ofDimensions 2 1 1).evictionCount = 1 := by decide +kernel
  have above : (Config.ofDimensions 2 1 1).overloaded 2 = true := by decide +kernel
  obtain ⟨fresh, created, seen⟩ := Error.toOption_map_eq_some.mp evaluated
  obtain ⟨two, fits⟩ := Prod.mk.inj seen
  obtain ⟨_, listed, _, _, writes⟩ := history_lists_entries created fillingCalls .alternate
  obtain ⟨report, next, applied, _, reports⟩ := writes _ (Error.toOption_eq_some.mp fits)
  rw [two, one] at reports
  obtain ⟨told, added, _⟩ := reports above
  exact ⟨fresh, report, next, created, listed.trans two, applied, told, added⟩

end Replica
end ObliviousLog
