import ObliviousLog.Proofs.Replica.Standard
import ObliviousLog.Proofs.Replica.Store
import ObliviousLog.Proofs.Replica.Writes

/-!
# A replica is a store with a single snapshot

A replica with a standard engine answers every call as the store with a single snapshot does.  The
alternate snapshot stands for the store's snapshot, and the active table, which a flop swaps with
it, for the published copy.  That the two are in step is what makes the swap invisible.
-/

namespace ObliviousLog

namespace Store

variable {G : Type} [CoinSource G] {store : Store G} {item : Item}

/-- A write that does not fit changes nothing. -/
theorem write_of_misfit
    {error : Error}
    (misfit : store.snapshot.table.check item = .error error) :
    store.write item = (.error error, store) := by
  rw [write, Snapshot.apply_of_misfit misfit]

/-- A write that the snapshot accepts is counted. -/
theorem write_of_apply
    {report : WriteReport}
    {snapshot : Snapshot G}
    (applied : store.snapshot.apply store.config item = (.ok report, snapshot)) :
    store.write item =
      (.ok report, { store with snapshot, unpublished := store.unpublished + 1 }) := by
  rw [write, applied]

end Store

namespace Replica

open Session

variable {G : Type} [CoinSource G]

/-- The store with a single snapshot that a replica stands for. -/
def toStore (replica : Replica G ScanMethod Shard) : Store G where
  config := replica.config
  snapshot := replica.alternate
  published := replica.active.table.data
  epoch := replica.epoch
  unpublished := replica.pending.length

/-! ## One call -/

/-- A write does the same to a replica and to the store it stands for. -/
theorem call_write_toStore (replica : Replica G ScanMethod Shard) (item : Item) :
    (replica.call (.write item)).1 = (replica.toStore.call (.write item)).1 ∧
      (replica.call (.write item)).2.toStore = (replica.toStore.call (.write item)).2 := by
  cases checked : replica.alternate.table.check item with
  | error error =>
      have misfit : replica.toStore.snapshot.table.check item = .error error := checked
      rw [Replica.call, write_of_misfit checked, Store.call, Store.write_of_misfit misfit]
      exact ⟨rfl, rfl⟩
  | ok =>
      obtain ⟨report, alternate, applied, written⟩ := write_of_fits checked
      have accepted :
          replica.toStore.snapshot.apply replica.toStore.config item = (.ok report, alternate) :=
        applied
      rw [Replica.call, written, Store.call, Store.write_of_apply accepted]
      refine ⟨rfl, ?_⟩
      rw [toStore, List.length_append, List.length_singleton]
      rfl

namespace Sound

variable {replica : Replica G ScanMethod Shard}

/-- A flop of a sound replica does what a flop does to the store it stands for. -/
theorem call_flop_toStore (sound : replica.Sound) :
    (replica.call .flop).1 = (replica.toStore.call .flop).1 ∧
      (replica.call .flop).2.toStore = (replica.toStore.call .flop).2 := by
  refine ⟨sound.call_flop, ?_⟩
  rw [Replica.call, sound.flop_eq, sound.caughtUp]
  rfl

/-- A sound replica answers a call as the store it stands for does, and stands for the store that
the call leaves. -/
theorem call_toStore
    (sound : replica.Sound)
    (call : Call) :
    (replica.call call).1 = (replica.toStore.call call).1 ∧
      (replica.call call).2.toStore = (replica.toStore.call call).2 := by
  cases call with
  | write item => exact call_write_toStore replica item
  | flop => exact sound.call_flop_toStore
  | read requests =>
      refine ⟨?_, rfl⟩
      rw [Replica.call, sound.batchRead_eq]
      rfl
  | bucket index =>
      refine ⟨?_, rfl⟩
      rw [Replica.call, sound.bucket_eq]
      rfl
  | epoch => exact ⟨rfl, rfl⟩
  | pendingWrites => exact ⟨rfl, rfl⟩
  | count => exact ⟨rfl, rfl⟩

/-! ## Whole sessions -/

/-- A session with a sound replica cannot be told from one with the store it stands for. -/
theorem trace_toStore
    (sound : replica.Sound)
    (calls : List Call) :
    replica.trace calls = replica.toStore.trace calls := by
  refine trace_eq_of_simulation
    (fun (replica : Replica G ScanMethod Shard) (store : Store G) =>
      replica.Sound ∧ replica.toStore = store) ?_ ⟨sound, rfl⟩ calls
  rintro replica _ call ⟨sound, rfl⟩
  obtain ⟨sameResponse, sameStore⟩ := sound.call_toStore call
  exact ⟨sameResponse, sound.call call, sameStore⟩

/-- After a flop, the published bytes are those that all accepted writes make of the first alternate
table. -/
theorem published_after_flop
    (sound : replica.Sound)
    (calls : List Call) :
    (replica.after (calls ++ [.flop])).published.data =
      (replica.alternate.applyAll replica.config
        (acceptedWrites (replica.trace (calls ++ [.flop])))).table.data := by
  have publication : isPublication (.flop, ((replica.after calls).call .flop).1) = true := by
    rw [(sound.after calls).call_flop]
    rfl
  rw [(sound.after (calls ++ [Call.flop])).published_data, after_concat, active_call,
    if_pos publication, sound.alternate_after, trace_concat, acceptedWrites_append,
    acceptedWrites_of_publication publication, List.append_nil]

end Sound

/-! ## Creation -/

/-- With a standard engine, a replica is refused for the same reason as a store, or both are created
and the one stands for the other. -/
theorem create_toStore
    {config : Config}
    (standardEngine : config.engine = "cpu" ∨ config.engine = "cpu64") :
    (∃ error,
      (create config Registry.standard : Except Error (Replica G ScanMethod Shard)) = .error error ∧
      (Store.create config : Except Error (Store G)) = .error error) ∨
    ∃ fresh : Replica G ScanMethod Shard,
      create config Registry.standard = .ok fresh ∧
      Store.create config = .ok fresh.toStore := by
  obtain ⟨method, found⟩ := Registry.get_standard standardEngine
  cases validated : config.validate with
  | error error =>
      refine Or.inl ⟨error, ?_, ?_⟩
      · rw [create, validated]
        rfl
      · rw [Store.create, validated]
        rfl
  | ok =>
      cases emptied : (Snapshot.empty config : Except Error (Snapshot G)) with
      | error error =>
          refine Or.inl ⟨error, ?_, ?_⟩
          · rw [create, validated, found, emptied]
            rfl
          · rw [Store.create, validated, emptied]
            rfl
      | ok snapshot =>
          obtain ⟨geometry, described, rfl⟩ := Snapshot.eq_of_empty emptied
          refine Or.inr ⟨_, create_standard validated found described, ?_⟩
          rw [Store.create, validated, emptied]
          rfl

/-- With a standard engine, a replica and a store with a single snapshot are refused alike, or else
no session tells them apart.  So what a replica answers to reads changes with flops alone, and after
a flop it publishes what the accepted writes make, wherever the earlier flops were. -/
theorem refines_store
    {config : Config}
    (standardEngine : config.engine = "cpu" ∨ config.engine = "cpu64") :
    (∃ error,
      (create config Registry.standard : Except Error (Replica G ScanMethod Shard)) = .error error ∧
      (Store.create config : Except Error (Store G)) = .error error) ∨
    ∃ (fresh : Replica G ScanMethod Shard) (store : Store G),
      create config Registry.standard = .ok fresh ∧
      Store.create config = .ok store ∧
      (∀ calls, fresh.trace calls = store.trace calls) ∧
      (∀ calls later, Call.flop ∉ later →
        (∀ requests,
          (fresh.after (calls ++ later)).batchRead requests =
            (fresh.after calls).batchRead requests) ∧
        ∀ index,
          (fresh.after (calls ++ later)).published.bucket index =
            (fresh.after calls).published.bucket index) ∧
      ∀ first second,
        acceptedWrites (fresh.trace (first ++ [.flop])) =
          acceptedWrites (fresh.trace (second ++ [.flop])) →
        (fresh.after (first ++ [.flop])).published.data =
          (fresh.after (second ++ [.flop])).published.data := by
  refine (create_toStore standardEngine).imp_right ?_
  rintro ⟨fresh, created, stored⟩
  have sound := sound_of_create created
  refine ⟨fresh, fresh.toStore, created, stored, sound.trace_toStore, ?_, ?_⟩
  · intro calls later noFlop
    have split : fresh.after (calls ++ later) = (fresh.after calls).after later :=
      final_append fresh calls later
    have unchanged := published_after_of_no_flop (fresh.after calls) noFlop
    refine ⟨fun requests => ?_, fun index => ?_⟩
    · rw [split, batchRead, unchanged, config_after, batchRead]
    · rw [split, unchanged]
  · intro first second sameWrites
    rw [sound.published_after_flop, sound.published_after_flop, sameWrites]

/-- A replica of two one-byte slots on which more is written than fits. -/
theorem refines_store_of_overfilled :
    ∃ (fresh : Replica ChaCha ScanMethod Shard) (store : Store ChaCha),
      create (Config.ofDimensions 2 1 1) Registry.standard = .ok fresh ∧
      Store.create (Config.ofDimensions 2 1 1) = .ok store ∧
      fresh.trace overfillingCalls = store.trace overfillingCalls := by
  have standardEngine :
      (Config.ofDimensions 2 1 1).engine = "cpu" ∨ (Config.ofDimensions 2 1 1).engine = "cpu64" :=
    Or.inl rfl
  obtain ⟨fresh, created⟩ := create_twoSlots (G := ChaCha) standardEngine
  obtain ⟨error, refused, _⟩ | ⟨fresh, store, created, stored, sameTrace, _⟩ :=
    refines_store (G := ChaCha) standardEngine
  · cases created.symm.trans refused
  · exact ⟨fresh, store, created, stored, sameTrace overfillingCalls⟩

end Replica
end ObliviousLog
