import ObliviousLog.Proofs.Replica.History
import ObliviousLog.Proofs.Table.Displacement

/-!
# What a failed write hands back

A write whose insertion runs out of budget is accepted and recorded all the same.  The alternate
table then stores the written item in exchange for the one that is handed back, unless these two are
the same: such a write stores nothing, and neither will its replay.
-/

namespace ObliviousLog

namespace Snapshot

variable {G : Type} [CoinSource G] {snapshot : Snapshot G} {config : Config}

/-- A write whose budget runs out is accepted, and exchanges the written item for the displaced one
in what housekeeping leaves. -/
theorem handsBack_of_apply
    (valid : snapshot.table.Valid)
    {item displaced : Item}
    (failed :
      (snapshot.apply config item).1.bind WriteReport.outcome = .error (.capacity displaced)) :
    snapshot.table.check item = .ok () ∧
      (snapshot.housekeep config).2.table.HandsBack item displaced
        (snapshot.apply config item).2.table := by
  cases checked : snapshot.table.check item with
  | error error =>
      rw [apply_of_misfit checked] at failed
      cases failed
      exact absurd checked (snapshot.table.check_ne_capacity item displaced)
  | ok =>
      rcases housekept : snapshot.housekeep config with ⟨evicted, rest⟩
      have validRest :=
        housekeep_keeps Table.Valid (fun _ key valid => valid.remove key) housekept valid
      obtain ⟨stillFits, applied⟩ := apply_of_fits housekept checked
      rw [applied] at failed ⊢
      have placed : (rest.table.place item).1 = .displaced displaced :=
        Placement.eq_displaced_of_outcome failed
      exact ⟨rfl, validRest.handsBack_of_place stillFits placed⟩

/-- Below the threshold, the write of an item that is pinned to a single slot in which another
pinned item sits hands the written item back. -/
theorem apply_of_contends
    (room : config.overloaded snapshot.table.count = false)
    {bucket : Nat}
    {item occupant : Item}
    (contends : snapshot.table.Contends bucket item occupant) :
    (snapshot.apply config item).1.bind WriteReport.outcome = .error (.capacity item) := by
  obtain ⟨next, placed, _⟩ := contends.place
  rw [(apply_of_fits (housekeep_of_room room) contends.fits).2, placed]
  rfl

end Snapshot

namespace Replica

section

variable {G E S : Type} [CoinSource G] {replica : Replica G E S}

/-- A write returns what applying it to the alternate snapshot returns. -/
theorem write_fst (replica : Replica G E S) (item : Item) :
    (replica.write item).1 = (replica.alternate.apply replica.config item).1 := by
  rw [write]
  rcases replica.alternate.apply replica.config item with ⟨outcome, alternate⟩
  cases outcome <;> rfl

/-- A write whose budget runs out exchanges the written item for the displaced one in what
housekeeping leaves, and is recorded. -/
theorem handsBack_of_write
    (valid : replica.alternate.table.Valid)
    {item displaced : Item}
    (failed : (replica.write item).1.bind WriteReport.outcome = .error (.capacity displaced)) :
    (replica.alternate.housekeep replica.config).2.table.HandsBack item displaced
        (replica.write item).2.alternate.table ∧
      (replica.write item).2.pending = replica.pending ++ [item] := by
  rw [write_fst] at failed
  obtain ⟨fits, handsBack⟩ := Snapshot.handsBack_of_apply valid failed
  obtain ⟨report, alternate, applied, written⟩ := write_of_fits fits
  rw [applied] at handsBack
  rw [written]
  exact ⟨handsBack, rfl⟩

end

variable {G E S : Type} [CoinSource G] [ShardLike S] [ScanEngine E S]

/-- When the budget of an insertion or of a write runs out, the item is afterwards stored in one of
its buckets, and what is handed back was stored before, exactly if the item is not handed back
itself or was stored before already.  If it is handed back itself, the table stores what it stored
before, or what housekeeping left of that.  In either case the write is recorded. -/
theorem capacity_keeps_item_iff
    {table : Table G}
    (reachable : table.Reachable)
    {config : Config}
    {registry : Registry E}
    {fresh : Replica G E S}
    (created : create config registry = .ok fresh)
    (calls : List Call)
    (item displaced : Item) :
    ((table.insert item).1.bind Placement.outcome = .error (.capacity displaced) →
      table.HandsBack item displaced (table.insert item).2) ∧
    (((fresh.after calls).write item).1.bind WriteReport.outcome = .error (.capacity displaced) →
      ((fresh.after calls).alternate.housekeep config).2.table.HandsBack item displaced
          ((fresh.after calls).write item).2.alternate.table ∧
        ((fresh.after calls).write item).2.pending = (fresh.after calls).pending ++ [item]) := by
  have valid := (consistent_of_held created calls .alternate).valid
  have sameConfig := config_after_of_create created calls
  refine ⟨reachable.valid.handsBack_of_insert, fun failed => ?_⟩
  have handsBack := handsBack_of_write valid failed
  rwa [sameConfig] at handsBack

/-- A replica of a single one-byte slot whose housekeeping waits until the slot is overfull. -/
def singleSlot : Config :=
  { Config.ofDimensions 1 1 1 with maxLoadFactor := Binary64.one }

/-- A write that fills the slot. -/
def occupyingCalls : List Call :=
  [.write ⟨⟨1, 0, 0⟩, [7]⟩]

/-- The slot of the replica is occupied, and a second item is on its way there. -/
theorem exists_occupied_singleSlot :
    ∃ fresh : Replica ChaCha ScanMethod Shard,
      create singleSlot Registry.standard = .ok fresh ∧
      (fresh.after occupyingCalls).config = singleSlot ∧
      (fresh.after occupyingCalls).alternate.table.items = [⟨⟨1, 0, 0⟩, [7]⟩] ∧
      (fresh.after occupyingCalls).alternate.table.Contends 0
        ⟨⟨2, 0, 0⟩, [9]⟩ ⟨⟨1, 0, 0⟩, [7]⟩ ∧
      singleSlot.overloaded (fresh.after occupyingCalls).alternate.table.count = false := by
  have evaluated :
      ((create singleSlot Registry.standard : Except Error (Replica ChaCha ScanMethod Shard)).map
        fun fresh =>
          ((fresh.after occupyingCalls).alternate.table.items,
            (fresh.after occupyingCalls).alternate.table.itemAt? 0,
            (fresh.after occupyingCalls).alternate.table.geometry.bucketDepth,
            ((fresh.after occupyingCalls).alternate.table.check ⟨⟨2, 0, 0⟩, [9]⟩).toOption,
            singleSlot.overloaded (fresh.after occupyingCalls).alternate.table.count)).toOption =
        some ([⟨⟨1, 0, 0⟩, [7]⟩], some ⟨⟨1, 0, 0⟩, [7]⟩, 1, some (), false) := by
    decide +kernel
  obtain ⟨fresh, created, seen⟩ := Error.toOption_map_eq_some.mp evaluated
  simp only [Prod.mk.injEq] at seen
  obtain ⟨items, held, single, fits, room⟩ := seen
  refine ⟨fresh, created, config_after_of_create created _, items, ?_, room⟩
  exact
    { valid := (consistent_of_held created occupyingCalls .alternate).valid
      fits := Error.toOption_eq_some.mp fits
      allowed := Or.inl rfl
      single, held
      pinned := ⟨rfl, rfl⟩
      occupantPinned := ⟨rfl, rfl⟩ }

/-- An insertion into an occupied slot and a write to one, both of an item that is pinned to it:
each hands its own item back, which fixes what the tables store. -/
theorem capacity_keeps_item_iff_of_singleSlot :
    ∃ fresh : Replica ChaCha ScanMethod Shard,
      create singleSlot Registry.standard = .ok fresh ∧
      Table.occupiedSlot.Reachable ∧
      Table.occupiedSlot.HandsBack ⟨⟨2, 0, 0⟩, [9]⟩ ⟨⟨2, 0, 0⟩, [9]⟩
        (Table.occupiedSlot.insert ⟨⟨2, 0, 0⟩, [9]⟩).2 ∧
      ((fresh.after occupyingCalls).alternate.housekeep singleSlot).2.table.HandsBack
        ⟨⟨2, 0, 0⟩, [9]⟩ ⟨⟨2, 0, 0⟩, [9]⟩
        ((fresh.after occupyingCalls).write ⟨⟨2, 0, 0⟩, [9]⟩).2.alternate.table ∧
      ((fresh.after occupyingCalls).write ⟨⟨2, 0, 0⟩, [9]⟩).2.pending =
        (fresh.after occupyingCalls).pending ++ [⟨⟨2, 0, 0⟩, [9]⟩] := by
  obtain ⟨fresh, created, sameConfig, _, contends, room⟩ := exists_occupied_singleSlot
  have reachable : Table.occupiedSlot.Reachable := .insert (.empty _ _) _
  obtain ⟨ofInsert, ofWrite⟩ :=
    capacity_keeps_item_iff reachable created occupyingCalls ⟨⟨2, 0, 0⟩, [9]⟩ ⟨⟨2, 0, 0⟩, [9]⟩
  rw [write_fst, sameConfig] at ofWrite
  obtain ⟨handsBack, recorded⟩ := ofWrite (Snapshot.apply_of_contends room contends)
  refine ⟨fresh, created, reachable, ofInsert ?_, handsBack, recorded⟩
  exact Table.occupiedSlot_contends.insert_outcome

/-- An insertion and a write that run out of budget, after which the item that was to be inserted or
written is not stored: the error hands back this item, which was not stored before. -/
theorem capacity_hands_back_written_item :
    ((Table.occupiedSlot.insert ⟨⟨2, 0, 0⟩, [9]⟩).1.bind Placement.outcome =
        .error (.capacity ⟨⟨2, 0, 0⟩, [9]⟩) ∧
      ⟨⟨2, 0, 0⟩, [9]⟩ ∉ Table.occupiedSlot.items ∧
      ¬(Table.occupiedSlot.insert ⟨⟨2, 0, 0⟩, [9]⟩).2.Stores ⟨⟨2, 0, 0⟩, [9]⟩) ∧
    ∃ fresh : Replica ChaCha ScanMethod Shard,
      create singleSlot Registry.standard = .ok fresh ∧
      ((fresh.after occupyingCalls).write ⟨⟨2, 0, 0⟩, [9]⟩).1.bind WriteReport.outcome =
        .error (.capacity ⟨⟨2, 0, 0⟩, [9]⟩) ∧
      ¬((fresh.after occupyingCalls).write ⟨⟨2, 0, 0⟩, [9]⟩).2.alternate.table.Stores
        ⟨⟨2, 0, 0⟩, [9]⟩ := by
  constructor
  · have contends := Table.occupiedSlot_contends
    have absent : ⟨⟨2, 0, 0⟩, [9]⟩ ∉ Table.occupiedSlot.items := by decide +kernel
    have handsBack := contends.valid.handsBack_of_insert contends.insert_outcome
    refine ⟨contends.insert_outcome, absent, fun stored => ?_⟩
    exact (handsBack.keeps_iff.mp stored).elim (fun different => different rfl) absent
  · obtain ⟨fresh, created, sameConfig, items, contends, room⟩ := exists_occupied_singleSlot
    have failed :
        ((fresh.after occupyingCalls).write ⟨⟨2, 0, 0⟩, [9]⟩).1.bind WriteReport.outcome =
          .error (.capacity ⟨⟨2, 0, 0⟩, [9]⟩) := by
      rw [write_fst, sameConfig]
      exact Snapshot.apply_of_contends room contends
    have handsBack := (handsBack_of_write contends.valid failed).1
    rw [sameConfig, Snapshot.housekeep_of_room room] at handsBack
    refine ⟨fresh, created, failed, fun stored => ?_⟩
    rcases handsBack.keeps_iff.mp stored with different | wasStored
    · exact different rfl
    · rw [items] at wasStored
      simp at wasStored

end Replica
end ObliviousLog
