import ObliviousLog.Proofs.Replica.Accounting
import ObliviousLog.Proofs.Replica.History
import ObliviousLog.Proofs.Table.Distinct

/-!
# Housekeeping takes the oldest entries first

A write is live from its acceptance until an error hands its item back or housekeeping evicts it.
As long as no item is written under the key of a stored one, the history of the alternate snapshot
has the keys of the live writes in the order of their acceptance, and the table stores their items.
What housekeeping evicts are then the items of the earliest live writes, and every other item stays
in its slot.
-/

namespace ObliviousLog

/-! ## Evictions from a table of distinct keys -/

namespace Snapshot

variable {G : Type} [CoinSource G]

/-- An eviction by the keys of listed items takes out the first of these items, and it leaves every
other slot as it was. -/
theorem evictKeys_of_lists
    {table : Table G}
    {live : List Item}
    (lists : table.Lists live)
    (count : Nat) :
    takenOut (removals count (live.map Item.toKey) table) = live.take count ∧
      ∃ rest,
        evictKeys count (live.map Item.toKey) table =
          (min count live.length, (live.drop count).map Item.toKey, rest) ∧
        rest.Lists (live.drop count) ∧
        ∀ index, rest.itemAt? index = (table.itemAt? index).filter (· ∉ live.take count) := by
  induction live generalizing count table with
  | nil =>
      refine ⟨by cases count <;> rfl, table, by cases count <;> rfl, ?_, fun index => ?_⟩
      · rwa [List.drop_nil]
      · cases table.itemAt? index <;> simp [Option.filter_some]
  | cons oldest live inductionHypothesis =>
      cases count with
      | zero =>
          refine ⟨rfl, table, ?_, lists, fun index => ?_⟩
          · rw [evictKeys, Nat.zero_min, List.drop_zero]
          · cases table.itemAt? index <;> simp [Option.filter_some]
      | succ count =>
          obtain ⟨taken, next, removed, listsNext, frame⟩ := lists.remove
          obtain ⟨takenLater, rest, evicted, listsRest, frameRest⟩ :=
            inductionHypothesis listsNext count
          refine ⟨?_, rest, ?_, listsRest, fun index => ?_⟩
          · rw [List.map_cons, removals, takenOut, List.flatMap_cons, taken, removed]
            exact congrArg (oldest :: ·) takenLater
          · rw [List.map_cons, evictKeys, removed]
            dsimp only
            rw [evicted, List.length_cons, Nat.succ_min_succ, List.drop_succ_cons]
          · rw [frameRest, frame, Option.filter_filter, List.take_succ_cons]
            simp [not_or]

/-- A snapshot stores the listed items, whose keys are distinct, and its history has their keys in
the order of the list. -/
structure InOrder (snapshot : Snapshot G) (live : List Item) : Prop
    extends snapshot.table.Lists live where
  history_eq : snapshot.history = live.map Item.toKey

theorem inOrder_of_empty
    {config : Config}
    {snapshot : Snapshot G}
    (emptied : Snapshot.empty config = .ok snapshot) :
    snapshot.InOrder [] := by
  obtain ⟨geometry, _, rfl⟩ := eq_of_empty emptied
  exact {
    valid := Table.valid_empty geometry config.seed
    stored := by rw [Table.items_empty]
    distinct := List.nodup_nil
    history_eq := rfl }

namespace InOrder

variable {snapshot : Snapshot G} {live : List Item} {config : Config} {item : Item}

/-- An eviction takes out the first of the listed items, and it leaves every other slot as it was.
-/
theorem evictOldest
    (inOrder : snapshot.InOrder live)
    (count : Nat) :
    takenOut (removals count snapshot.history snapshot.table) = live.take count ∧
      ∃ rest,
        snapshot.evictOldest count = (min count live.length, rest) ∧
        rest.InOrder (live.drop count) ∧
        ∀ index,
          rest.table.itemAt? index =
            (snapshot.table.itemAt? index).filter (· ∉ live.take count) := by
  obtain ⟨taken, rest, evicted, listsRest, frame⟩ := evictKeys_of_lists inOrder.toLists count
  rw [Snapshot.evictOldest, inOrder.history_eq, evicted]
  exact ⟨taken, _, rfl, ⟨listsRest, rfl⟩, frame⟩

/-- Above the threshold, housekeeping evicts the first of the listed items, and it leaves every
other slot as it was. -/
theorem housekeep_of_overloaded
    (inOrder : snapshot.InOrder live)
    (overloaded : config.overloaded snapshot.table.count = true) :
    snapshot.housekept config = live.take config.evictionCount ∧
      ∃ rest,
        snapshot.housekeep config = (some (min config.evictionCount live.length), rest) ∧
        rest.InOrder (live.drop config.evictionCount) ∧
        ∀ index,
          rest.table.itemAt? index =
            (snapshot.table.itemAt? index).filter (· ∉ live.take config.evictionCount) := by
  obtain ⟨taken, rest, evicted, restInOrder, frame⟩ := inOrder.evictOldest config.evictionCount
  refine ⟨?_, rest, ?_, restInOrder, frame⟩
  · rw [housekept, if_pos overloaded, taken]
  · rw [Snapshot.housekeep_of_overloaded overloaded, evicted]

/-- Housekeeping leaves the listed items that it does not evict, in order. -/
theorem housekeep
    (inOrder : snapshot.InOrder live)
    (config : Config) :
    (snapshot.housekeep config).2.InOrder (live.filter (· ∉ snapshot.housekept config)) := by
  cases load : config.overloaded snapshot.table.count with
  | false =>
      have nothing : snapshot.housekept config = [] := by
        rw [housekept, load, if_neg Bool.false_ne_true]
      rw [housekeep_of_room load, nothing]
      simpa using inOrder
  | true =>
      obtain ⟨evicted, rest, housekept, restInOrder, _⟩ := inOrder.housekeep_of_overloaded load
      have nodup := inOrder.nodup
      rw [← List.take_append_drop config.evictionCount live] at nodup
      have left := filter_notMem_append nodup
      rw [List.take_append_drop] at left
      rwa [housekept, evicted, left]

/-- Placing an item under a new key lists it last, but for what the placement displaces. -/
theorem place
    (inOrder : snapshot.InOrder live)
    (fits : snapshot.table.check item = .ok ())
    (new : item.toKey ∉ snapshot.table.keys) :
    InOrder {
        table := (snapshot.table.place item).2
        history := record snapshot.history item (snapshot.table.place item).1 }
      ((live ++ [item]).filter (· ∉ (snapshot.table.place item).1.leftOver)) := by
  obtain ⟨distinct, leftListed, lists⟩ := inOrder.toLists.place fits new
  refine ⟨lists, ?_⟩
  change record snapshot.history item (snapshot.table.place item).1 = _
  have appended : snapshot.history ++ [item.toKey] = (live ++ [item]).map Item.toKey := by
    rw [inOrder.history_eq, List.map_append, List.map_singleton]
  cases placed : (snapshot.table.place item).1 with
  | immediate => simp [record, Placement.leftOver, appended]
  | relocated evictions => simp [record, Placement.leftOver, appended]
  | displaced displaced =>
      rw [placed] at leftListed
      rw [record, appended, erase_map_toKey distinct (leftListed List.mem_cons_self),
        Placement.leftOver]

/-- A write under a new key lists the written item last, but for what it evicts and displaces. -/
theorem apply
    (inOrder : snapshot.InOrder live)
    (config : Config)
    (fits : snapshot.table.check item = .ok ())
    (new : item.toKey ∉ snapshot.table.keys) :
    ∃ report next,
      snapshot.apply config item = (.ok report, next) ∧
      next.InOrder
        ((live.filter (· ∉ snapshot.evictedFor config item) ++ [item]).filter
          (· ∉ (handedBack? (.ok report)).toList)) := by
  have restInOrder := inOrder.housekeep config
  rcases housekept : snapshot.housekeep config with ⟨evicted, rest⟩
  rw [housekept] at restInOrder
  obtain ⟨stillFits, applied⟩ := apply_of_fits housekept fits
  -- Housekeeping only makes keys fewer, so the item's key is still a new one.
  have stillNew : item.toKey ∉ rest.table.keys := by
    intro stored
    rw [← restInOrder.recorded.mem_iff] at stored
    exact new (inOrder.recorded.subset ((List.filter_sublist.map Item.toKey).subset stored))
  refine ⟨_, _, applied, ?_⟩
  rw [toList_handedBack?_of_accepted, evictedFor, fits]
  exact restInOrder.place stillFits stillNew

end InOrder
end Snapshot

namespace Replica

open Session

variable {G E S : Type} [CoinSource G] [ShardLike S] [ScanEngine E S] {replica : Replica G E S}

/-! ## Live writes -/

/-- A call writes no item whose key is stored already.  A write that is refused does not count. -/
def WritesNewKey (replica : Replica G E S) : Call → Prop
  | .write item =>
    replica.alternate.table.check item = .ok () → item.toKey ∉ replica.alternate.table.keys
  | _ => True

/-- The calls of a session write no item whose key is stored at that time. -/
def WritesNewKeys (replica : Replica G E S) : List Call → Prop
  | [] => True
  | call :: calls => replica.WritesNewKey call ∧ (replica.call call).2.WritesNewKeys calls

instance (table : Table G) (item : Item) : Decidable (table.check item = .ok ()) :=
  decidable_of_iff _ (table.check_eq_ok_iff item).symm

instance (replica : Replica G E S) : (call : Call) → Decidable (replica.WritesNewKey call)
  | .write item =>
    inferInstanceAs (Decidable
      (replica.alternate.table.check item = .ok () → item.toKey ∉ replica.alternate.table.keys))
  | .flop | .read _ | .bucket _ | .epoch | .pendingWrites | .count => isTrue trivial

/-- Whether a session writes no stored keys can be decided by running it. -/
def decidableWritesNewKeys :
    (replica : Replica G E S) → (calls : List Call) → Decidable (replica.WritesNewKeys calls)
  | _, [] => isTrue trivial
  | replica, call :: calls =>
    have := decidableWritesNewKeys (replica.call call).2 calls
    inferInstanceAs (Decidable
      (replica.WritesNewKey call ∧ (replica.call call).2.WritesNewKeys calls))

instance (replica : Replica G E S) (calls : List Call) : Decidable (replica.WritesNewKeys calls) :=
  decidableWritesNewKeys replica calls

/-- The live writes after a session, in the order of their acceptance: those whose item neither an
error of the write itself or of a later one has handed back nor housekeeping has evicted since. -/
def liveWrites (replica : Replica G E S) : List Call → List Item
  | [] => []
  | call :: calls =>
    (acceptedItem? (call, (replica.call call).1)).toList.filter
        (fun item =>
          item ∉ handedBackItems (replica.trace (call :: calls)) ∧
            item ∉ (replica.call call).2.evictedItems calls) ++
      (replica.call call).2.liveWrites calls

theorem writesNewKeys_concat
    {calls : List Call}
    {call : Call} :
    replica.WritesNewKeys (calls ++ [call]) ↔
      replica.WritesNewKeys calls ∧ (replica.after calls).WritesNewKey call := by
  induction calls generalizing replica with
  | nil => exact and_comm
  | cons first calls inductionHypothesis =>
      rw [List.cons_append, WritesNewKeys, inductionHypothesis, WritesNewKeys, and_assoc]
      rfl

theorem evictedItems_concat (replica : Replica G E S) (calls : List Call) (call : Call) :
    replica.evictedItems (calls ++ [call]) =
      replica.evictedItems calls ++ (replica.after calls).evictedIn call := by
  induction calls generalizing replica with
  | nil => exact List.append_nil _
  | cons first calls inductionHypothesis =>
      rw [List.cons_append, evictedItems, inductionHypothesis, evictedItems, List.append_assoc]
      rfl

theorem handedBackItems_concat (replica : Replica G E S) (calls : List Call) (call : Call) :
    handedBackItems (replica.trace (calls ++ [call])) =
      handedBackItems (replica.trace calls) ++
        (handedBackItem? (call, ((replica.after calls).call call).1)).toList := by
  rw [trace_concat, handedBackItems, List.filterMap_append,
    List.filterMap_eq_flatMap_toList handedBackItem? [_], List.flatMap_singleton, handedBackItems]

/-- Live writes were accepted, in the same order. -/
theorem liveWrites_sublist (replica : Replica G E S) (calls : List Call) :
    (replica.liveWrites calls).Sublist (acceptedWrites (replica.trace calls)) := by
  induction calls generalizing replica with
  | nil => exact List.Sublist.refl _
  | cons call calls inductionHypothesis =>
      have split : replica.trace (call :: calls) =
          (call, (replica.call call).1) :: (replica.call call).2.trace calls := rfl
      rw [liveWrites, split, acceptedWrites_cons]
      exact List.filter_sublist.append (inductionHypothesis _)

/-- One more call ends the life of the writes whose items it evicts or hands back, and it adds the
write that it accepts, unless it hands that back at once. -/
theorem liveWrites_concat (replica : Replica G E S) (calls : List Call) (call : Call) :
    replica.liveWrites (calls ++ [call]) =
      ((replica.liveWrites calls).filter (· ∉ (replica.after calls).evictedIn call) ++
          (acceptedItem? (call, ((replica.after calls).call call).1)).toList).filter
        (· ∉ (handedBackItem? (call, ((replica.after calls).call call).1)).toList) := by
  induction calls generalizing replica with
  | nil => simp [liveWrites, evictedItems, handedBackItems, trace, Session.trace, after, final]
  | cons first calls inductionHypothesis =>
      have handedBack := replica.handedBackItems_concat (first :: calls) call
      have evicted := (replica.call first).2.evictedItems_concat calls call
      have sameEnd : replica.after (first :: calls) = (replica.call first).2.after calls := rfl
      rw [List.cons_append] at handedBack ⊢
      rw [liveWrites, handedBack, evicted, inductionHypothesis, liveWrites, sameEnd]
      -- Only the fate of the first call's own write is left to compare.
      simp only [List.filter_append, List.filter_filter, List.append_assoc]
      refine congrArg (· ++ _) (List.filter_congr fun item _ => ?_)
      rw [Bool.eq_iff_iff]
      simp only [List.mem_append, decide_eq_true_eq, Bool.and_eq_true]
      tauto

/-! ## The alternate snapshot lists the live writes -/

/-- A call that writes no stored key keeps the alternate snapshot in the order of what it leaves
live. -/
theorem InStep.inOrder_call
    (inStep : replica.InStep)
    {live : List Item}
    (inOrder : replica.alternate.InOrder live)
    {call : Call}
    (new : replica.WritesNewKey call) :
    (replica.call call).2.alternate.InOrder
      ((live.filter (· ∉ replica.evictedIn call) ++
          (acceptedItem? (call, (replica.call call).1)).toList).filter
        (· ∉ (handedBackItem? (call, (replica.call call).1)).toList)) := by
  have alternateAfter := inStep.alternate_call call
  cases call with
  | write item =>
      cases checked : replica.alternate.table.check item with
      | error error =>
          rw [Replica.call, write_of_misfit checked]
          simpa [acceptedItem?, handedBackItem?, handedBack?_of_misfit checked, evictedIn,
            Snapshot.evictedFor, checked] using inOrder
      | ok =>
          obtain ⟨report, alternate, applied, inOrderNext⟩ :=
            inOrder.apply replica.config checked (new checked)
          obtain ⟨_, _, appliedAlso, written⟩ := write_of_fits checked
          cases applied.symm.trans appliedAlso
          rw [Replica.call, written]
          exact inOrderNext
  | _ =>
      have unchanged : (replica.call _).2.alternate = replica.alternate := alternateAfter
      rw [unchanged]
      simpa [acceptedItem?, handedBackItem?, evictedIn, Replica.call] using inOrder

/-- A session that writes no stored keys leaves the alternate snapshot in the order of the live
writes. -/
theorem InStep.inOrder_after
    (inStep : replica.InStep)
    (nothing : replica.alternate.InOrder [])
    {calls : List Call}
    (new : replica.WritesNewKeys calls) :
    (replica.after calls).alternate.InOrder (replica.liveWrites calls) := by
  induction calls using List.reverseRecOn with
  | nil => exact nothing
  | append_singleton calls call inductionHypothesis =>
      obtain ⟨newBefore, newLast⟩ := writesNewKeys_concat.mp new
      rw [after_concat, liveWrites_concat]
      exact (inStep.after calls).inOrder_call (inductionHypothesis newBefore) newLast

/-- In a session with a freshly created replica that writes no key while it is stored, the history
of the alternate snapshot has the keys of the live writes in the order of their acceptance, and the
table stores their items.  When an accepted write runs housekeeping, this evicts the items of the
earliest live writes, as many as are configured or as there are, and leaves every other item in its
slot. -/
theorem housekeeping_first_in_first_out
    {config : Config}
    {registry : Registry E}
    {fresh : Replica G E S}
    (created : create config registry = .ok fresh)
    {calls : List Call}
    (new : fresh.WritesNewKeys calls) :
    (fresh.liveWrites calls).Sublist (acceptedWrites (fresh.trace calls)) ∧
    (fresh.after calls).alternate.history = (fresh.liveWrites calls).map Item.toKey ∧
    ((fresh.after calls).alternate.table.items : Multiset Item) = fresh.liveWrites calls ∧
    ∀ item report next, (fresh.after calls).write item = (.ok report, next) →
      ∀ count, report.evicted = some count →
        count = min config.evictionCount (fresh.liveWrites calls).length ∧
        (fresh.after calls).evictedIn (.write item) = (fresh.liveWrites calls).take count ∧
        ∃ rest,
          (fresh.after calls).alternate.housekeep config = (some count, rest) ∧
          next.alternate.table = (rest.table.insert item).2 ∧
          ∀ index,
            rest.table.itemAt? index =
              ((fresh.after calls).alternate.table.itemAt? index).filter
                (· ∉ (fresh.liveWrites calls).take count) := by
  obtain ⟨_, emptied, _⟩ := snapshots_of_create created
  have inOrder :=
    (inStep_of_create created).inOrder_after (Snapshot.inOrder_of_empty emptied) new
  have sameConfig := config_after_of_create created calls
  refine ⟨fresh.liveWrites_sublist calls, inOrder.history_eq,
    Multiset.coe_eq_coe.mpr inOrder.stored.symm, ?_⟩
  intro item report next written count ran
  obtain ⟨fits, rest, housekept, inserted⟩ := eq_of_write written
  rw [sameConfig, ran] at housekept
  cases load : config.overloaded (fresh.after calls).alternate.table.count with
  | false =>
      rw [Snapshot.housekeep_of_room load] at housekept
      cases housekept
  | true =>
      obtain ⟨evicted, restAlso, housekeptAlso, _, frame⟩ := inOrder.housekeep_of_overloaded load
      obtain ⟨sameCount, rfl⟩ := Prod.mk.inj (housekept.symm.trans housekeptAlso)
      have oldest : (fresh.liveWrites calls).take config.evictionCount =
          (fresh.liveWrites calls).take count := by
        rw [List.take_eq_take_min, ← Option.some.inj sameCount]
      rw [oldest] at evicted frame
      refine ⟨Option.some.inj sameCount, ?_, rest, housekept, inserted, frame⟩
      rw [evictedIn, Snapshot.evictedFor, fits, sameConfig]
      exact evicted

/-- Two writes fill a replica of two one-byte slots, and a third has housekeeping evict the first of
them. -/
theorem housekeeping_first_in_first_out_of_full :
    ∃ (fresh : Replica ChaCha ScanMethod Shard) (report : WriteReport)
        (next : Replica ChaCha ScanMethod Shard),
      create (Config.ofDimensions 2 1 1) Registry.standard = .ok fresh ∧
      fresh.WritesNewKeys fillingCalls ∧
      (fresh.after fillingCalls).write ⟨⟨3, 0, 1⟩, [7]⟩ = (.ok report, next) ∧
      report.evicted = some 1 ∧
      (fresh.after fillingCalls).alternate.history = [⟨1, 0, 1⟩, ⟨2, 0, 1⟩] ∧
      (fresh.after fillingCalls).evictedIn (.write ⟨⟨3, 0, 1⟩, [7]⟩) = [⟨⟨1, 0, 1⟩, [5]⟩] := by
  have evaluated :
      ((create (Config.ofDimensions 2 1 1) Registry.standard :
          Except Error (Replica ChaCha ScanMethod Shard)).map fun fresh =>
        (decide (fresh.WritesNewKeys fillingCalls),
          fresh.liveWrites fillingCalls,
          ((fresh.after fillingCalls).write
            ⟨⟨3, 0, 1⟩, [7]⟩).1.toOption.map WriteReport.evicted)).toOption =
        some (true, [⟨⟨1, 0, 1⟩, [5]⟩, ⟨⟨2, 0, 1⟩, [6]⟩], some (some 1)) := by
    decide +kernel
  obtain ⟨fresh, created, seen⟩ := Error.toOption_map_eq_some.mp evaluated
  simp only [Prod.mk.injEq, decide_eq_true_eq, Option.map_eq_some_iff] at seen
  obtain ⟨new, live, report, accepted, ran⟩ := seen
  rcases written : (fresh.after fillingCalls).write ⟨⟨3, 0, 1⟩, [7]⟩ with ⟨outcome, next⟩
  rw [written] at accepted
  cases Error.toOption_eq_some.mp accepted
  obtain ⟨_, ordered, _, passes⟩ := housekeeping_first_in_first_out created new
  obtain ⟨_, evicted, _⟩ := passes _ report next written 1 ran
  rw [live] at ordered evicted
  exact ⟨fresh, report, next, created, new, written, ran, ordered, evicted⟩

end Replica
end ObliviousLog
