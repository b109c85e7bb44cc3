import ObliviousLog.Proofs.Table.Reachable
import ObliviousLog.Replica.Basic

/-!
# Applying writes to a snapshot

Whether a write fits depends on the geometry alone, which no write changes.  A write that does not
fit leaves the snapshot as it was; any other is accepted, after housekeeping if the table is over
its load factor.  Replaying a list of writes applies them one after the other.
-/

namespace ObliviousLog

namespace Table

variable {G : Type}

/-- Whether an item fits depends on the geometry alone. -/
theorem check_congr
    {before after : Table G}
    (same : after.geometry = before.geometry)
    (item : Item) :
    after.check item = before.check item := by
  unfold check checkKey
  rw [same]

end Table

/-! ## The engine has no part in a write -/

namespace Config

variable (config : Config) (engine : String)

theorem capacity_engine : capacity { config with engine } = config.capacity := rfl

theorem evictionThreshold_engine :
    evictionThreshold { config with engine } = config.evictionThreshold := by
  rw [evictionThreshold, capacity_engine, evictionThreshold]

theorem overloaded_engine (count : Nat) :
    overloaded { config with engine } count = config.overloaded count := by
  rw [overloaded, evictionThreshold_engine, overloaded]

theorem evictionCount_engine : evictionCount { config with engine } = config.evictionCount := by
  rw [evictionCount, capacity_engine, evictionCount]

end Config

namespace Snapshot

variable {G : Type} [CoinSource G]

theorem housekeep_engine (snapshot : Snapshot G) (config : Config) (engine : String) :
    snapshot.housekeep { config with engine } = snapshot.housekeep config := by
  unfold housekeep
  rw [Config.overloaded_engine, Config.evictionCount_engine]

/-- A write does not depend on the engine that the configuration names. -/
theorem apply_engine
    (snapshot : Snapshot G)
    (config : Config)
    (engine : String)
    (item : Item) :
    snapshot.apply { config with engine } item = snapshot.apply config item := by
  unfold apply
  rw [housekeep_engine]

/-! ## Housekeeping -/

/-- Whatever every removal from the table keeps, housekeeping keeps. -/
theorem evictKeys_keeps
    (Invariant : Table G → Prop)
    (keeps : ∀ table key, Invariant table → Invariant (table.remove key).2)
    (count : Nat)
    (history : List Key)
    (table : Table G)
    (start : Invariant table) :
    Invariant (evictKeys count history table).2.2 := by
  induction history generalizing count table with
  | nil => cases count <;> exact start
  | cons oldest history inductionHypothesis =>
      cases count with
      | zero => exact start
      | succ count =>
          have next := keeps table oldest start
          rw [evictKeys]
          rcases removed : table.remove oldest with ⟨found, rest⟩
          rw [removed] at next
          cases found with
          | true => exact inductionHypothesis count rest next
          | false => exact inductionHypothesis (count + 1) rest next

/-- Above the threshold, housekeeping removes as many of the oldest entries as are configured. -/
theorem housekeep_of_overloaded
    {snapshot : Snapshot G}
    {config : Config}
    (overloaded : config.overloaded snapshot.table.count = true) :
    snapshot.housekeep config =
      (some (snapshot.evictOldest config.evictionCount).1,
        (snapshot.evictOldest config.evictionCount).2) := by
  rw [housekeep, if_pos overloaded]

/-- Up to the threshold, housekeeping does nothing. -/
theorem housekeep_of_room
    {snapshot : Snapshot G}
    {config : Config}
    (room : config.overloaded snapshot.table.count = false) :
    snapshot.housekeep config = (none, snapshot) := by
  rw [housekeep, if_neg (Bool.eq_false_iff.mp room)]

/-- Housekeeping leaves a snapshot alone, or it removes the oldest entries from it. -/
theorem housekeep_cases (snapshot : Snapshot G) (config : Config) :
    snapshot.housekeep config = (none, snapshot) ∨
      ∃ count, snapshot.housekeep config =
        (some (snapshot.evictOldest count).1, (snapshot.evictOldest count).2) := by
  cases load : config.overloaded snapshot.table.count with
  | false => exact Or.inl (housekeep_of_room load)
  | true => exact Or.inr ⟨config.evictionCount, housekeep_of_overloaded load⟩

/-- Whatever every removal from the table keeps, holds after housekeeping. -/
theorem housekeep_keeps
    (Invariant : Table G → Prop)
    (keeps : ∀ table key, Invariant table → Invariant (table.remove key).2)
    {snapshot rest : Snapshot G}
    {config : Config}
    {evicted : Option Nat}
    (housekept : snapshot.housekeep config = (evicted, rest))
    (start : Invariant snapshot.table) :
    Invariant rest.table := by
  rcases snapshot.housekeep_cases config with idle | ⟨count, removed⟩
  · cases idle.symm.trans housekept
    exact start
  · cases removed.symm.trans housekept
    exact evictKeys_keeps Invariant keeps count snapshot.history snapshot.table start

theorem geometry_of_housekeep
    {snapshot rest : Snapshot G}
    {config : Config}
    {evicted : Option Nat}
    (housekept : snapshot.housekeep config = (evicted, rest)) :
    rest.table.geometry = snapshot.table.geometry :=
  housekeep_keeps (fun table => table.geometry = snapshot.table.geometry)
    (fun table key same => (table.geometry_remove key).trans same) housekept rfl

/-! ## One write -/

/-- A write that does not fit changes nothing. -/
theorem apply_of_misfit
    {snapshot : Snapshot G}
    {item : Item}
    {error : Error}
    (misfit : snapshot.table.check item = .error error)
    (config : Config) :
    snapshot.apply config item = (.error error, snapshot) := by
  rw [apply, misfit]

/-- A write that fits is accepted: after housekeeping the item is placed and recorded. -/
theorem apply_of_fits
    {snapshot rest : Snapshot G}
    {config : Config}
    {evicted : Option Nat}
    (housekept : snapshot.housekeep config = (evicted, rest))
    {item : Item}
    (fits : snapshot.table.check item = .ok ()) :
    rest.table.check item = .ok () ∧
      snapshot.apply config item =
        (.ok { evicted, placement := (rest.table.place item).1 },
          { table := (rest.table.place item).2
            history := record rest.history item (rest.table.place item).1 }) := by
  have stillFits : rest.table.check item = .ok () :=
    (Table.check_congr (geometry_of_housekeep housekept) item).trans fits
  refine ⟨stillFits, ?_⟩
  rw [apply, fits, housekept]
  dsimp only
  rw [Table.insert_of_fits stillFits]

@[simp] theorem geometry_apply (snapshot : Snapshot G) (config : Config) (item : Item) :
    (snapshot.apply config item).2.table.geometry = snapshot.table.geometry := by
  cases checked : snapshot.table.check item with
  | error error => rw [apply_of_misfit checked]
  | ok =>
      rcases housekept : snapshot.housekeep config with ⟨evicted, rest⟩
      rw [(apply_of_fits housekept checked).2]
      exact (rest.table.geometry_place item).trans (geometry_of_housekeep housekept)

/-- A write keeps the table valid. -/
theorem valid_apply
    {snapshot : Snapshot G}
    (valid : snapshot.table.Valid)
    (config : Config)
    (item : Item) :
    (snapshot.apply config item).2.table.Valid := by
  cases checked : snapshot.table.check item with
  | error error => rwa [apply_of_misfit checked]
  | ok =>
      rcases housekept : snapshot.housekeep config with ⟨evicted, rest⟩
      obtain ⟨stillFits, applied⟩ := apply_of_fits housekept checked
      have validRest :=
        housekeep_keeps Table.Valid (fun _ key valid => valid.remove key) housekept valid
      rw [applied]
      exact validRest.place stillFits

/-! ## Several writes -/

/-- The snapshot after several writes, whatever became of each of them. -/
def applyAll (snapshot : Snapshot G) (config : Config) (items : List Item) : Snapshot G :=
  items.foldl (fun snapshot item => (snapshot.apply config item).2) snapshot

@[simp] theorem applyAll_nil (snapshot : Snapshot G) (config : Config) :
    snapshot.applyAll config [] = snapshot := rfl

@[simp] theorem applyAll_cons
    (snapshot : Snapshot G)
    (config : Config)
    (item : Item)
    (items : List Item) :
    snapshot.applyAll config (item :: items) =
      (snapshot.apply config item).2.applyAll config items := rfl

theorem applyAll_append
    (snapshot : Snapshot G)
    (config : Config)
    (front back : List Item) :
    snapshot.applyAll config (front ++ back) =
      (snapshot.applyAll config front).applyAll config back :=
  List.foldl_append

/-- Whatever every write keeps, several writes keep. -/
theorem applyAll_keeps
    (Invariant : Snapshot G → Prop)
    (config : Config)
    (keeps : ∀ snapshot item, Invariant snapshot → Invariant (snapshot.apply config item).2)
    {snapshot : Snapshot G}
    (start : Invariant snapshot)
    (items : List Item) :
    Invariant (snapshot.applyAll config items) := by
  induction items generalizing snapshot with
  | nil => exact start
  | cons item items inductionHypothesis =>
      exact inductionHypothesis (keeps snapshot item start)

theorem valid_applyAll
    {snapshot : Snapshot G}
    (valid : snapshot.table.Valid)
    (config : Config)
    (items : List Item) :
    (snapshot.applyAll config items).table.Valid :=
  applyAll_keeps (fun later => later.table.Valid) config
    (fun _ item valid => valid_apply valid config item) valid items

theorem applyAll_engine
    (snapshot : Snapshot G)
    (config : Config)
    (engine : String)
    (items : List Item) :
    snapshot.applyAll { config with engine } items = snapshot.applyAll config items := by
  unfold applyAll
  simp only [apply_engine]

end Snapshot

namespace Replica

variable {G : Type} [CoinSource G]

/-- A replay leaves the snapshot that its writes make. -/
theorem replay_snd (config : Config) (items : List Item) (snapshot : Snapshot G) :
    (replay config items snapshot).2 = snapshot.applyAll config items := by
  induction items generalizing snapshot with
  | nil => rfl
  | cons item items inductionHypothesis =>
      exact inductionHypothesis (snapshot.apply config item).2

@[simp] theorem replay_singleton (config : Config) (item : Item) (snapshot : Snapshot G) :
    (replay config [item] snapshot).1 = [(item, (snapshot.apply config item).1)] := rfl

/-- The outcomes of a replay come one after the other. -/
theorem replay_fst_append
    (config : Config)
    (front back : List Item)
    (snapshot : Snapshot G) :
    (replay config (front ++ back) snapshot).1 =
      (replay config front snapshot).1 ++
        (replay config back (snapshot.applyAll config front)).1 := by
  induction front generalizing snapshot with
  | nil => rfl
  | cons item front inductionHypothesis =>
      exact congrArg (_ :: ·) (inductionHypothesis (snapshot.apply config item).2)

end Replica
end ObliviousLog
