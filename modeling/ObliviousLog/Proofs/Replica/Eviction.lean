import ObliviousLog.Proofs.Replica.Apply
import ObliviousLog.Proofs.Table.Removal

/-!
# Evictions removal by removal

An eviction asks the table to remove one key after the other.  What these removals take out is what
the table loses, whatever the history says.  When the history lists the keys of the table exactly,
no removal misses: the oldest keys go, as many as were asked for or as there are, and what is left
of the history lists the keys of what is left of the table.
-/

namespace ObliviousLog
namespace Snapshot

variable {G : Type} [CoinSource G]

/-- The removals that an eviction of the oldest `count` entries asks for, in order: each time the
table, and the key to remove from it. -/
def removals : (count : Nat) → (history : List Key) → Table G → List (Table G × Key)
  | 0, _, _ => []
  | _ + 1, [], _ => []
  | count + 1, oldest :: history, table =>
    (table, oldest) ::
      match table.remove oldest with
      | (true, table) => removals count history table
      | (false, table) => removals (count + 1) history table

/-- The items that removals take out. -/
def takenOut (removals : List (Table G × Key)) : List Item :=
  removals.flatMap fun removal => (removal.1.removedItem? removal.2).toList

/-- What an eviction takes out and what it leaves are together what the table held. -/
theorem items_evictKeys
    (count : Nat)
    (history : List Key)
    {table : Table G}
    (valid : table.Valid) :
    (takenOut (removals count history table) ++
      (evictKeys count history table).2.2.items).Perm table.items := by
  induction history generalizing count table with
  | nil => cases count <;> exact List.Perm.refl _
  | cons oldest history inductionHypothesis =>
      cases count with
      | zero => exact List.Perm.refl _
      | succ count =>
          have validRest := valid.remove oldest
          have balance := Table.items_remove valid.toSized oldest
          rw [removals, evictKeys, takenOut, List.flatMap_cons, List.append_assoc]
          rcases removed : table.remove oldest with ⟨found, rest⟩
          rw [removed] at validRest balance
          cases found with
          | true => exact ((inductionHypothesis count validRest).append_left _).trans balance
          | false => exact ((inductionHypothesis (count + 1) validRest).append_left _).trans balance

/-- The items that housekeeping takes out of a snapshot. -/
def housekept (snapshot : Snapshot G) (config : Config) : List Item :=
  if config.overloaded snapshot.table.count then
    takenOut (removals config.evictionCount snapshot.history snapshot.table)
  else
    []

/-- What housekeeping takes out and what it leaves are together what the table held. -/
theorem items_housekeep
    {snapshot : Snapshot G}
    (valid : snapshot.table.Valid)
    (config : Config) :
    (snapshot.housekept config ++ (snapshot.housekeep config).2.table.items).Perm
      snapshot.table.items := by
  cases load : config.overloaded snapshot.table.count with
  | false =>
      rw [housekept, load, housekeep_of_room load]
      exact List.Perm.refl _
  | true =>
      have balance := items_evictKeys config.evictionCount snapshot.history valid
      rw [housekept, load, if_pos rfl, housekeep_of_overloaded load]
      generalize config.evictionCount = count at balance ⊢
      exact balance

section

variable {history : List Key} {table : Table G}

/-- When the history lists the keys of the table, an eviction takes the oldest of them away, as many
as were asked for or as there are. -/
theorem evictKeys_of_recorded
    (valid : table.Valid)
    (recorded : history.Perm table.keys)
    (count : Nat) :
    ∃ rest,
      evictKeys count history table = (min count history.length, history.drop count, rest) ∧
      rest.Valid ∧
      (history.drop count).Perm rest.keys := by
  induction history generalizing count table with
  | nil =>
      refine ⟨table, ?_, valid, ?_⟩
      · cases count <;> rfl
      · rwa [List.drop_nil]
  | cons oldest history inductionHypothesis =>
      cases count with
      | zero => exact ⟨table, by rw [evictKeys, Nat.zero_min, List.drop_zero], valid, recorded⟩
      | succ count =>
          obtain ⟨next, removed, validNext, recordedNext⟩ := valid.remove_of_recorded recorded
          obtain ⟨rest, evicted, validRest, recordedRest⟩ :=
            inductionHypothesis validNext recordedNext count
          refine ⟨rest, ?_, validRest, recordedRest⟩
          rw [evictKeys, removed]
          dsimp only
          rw [evicted, List.length_cons, Nat.succ_min_succ, List.drop_succ_cons]

/-- When the history lists the keys of the table, an eviction asks for its oldest keys in order, and
every one of these removals succeeds. -/
theorem removals_of_recorded
    (valid : table.Valid)
    (recorded : history.Perm table.keys)
    (count : Nat) :
    (removals count history table).map Prod.snd = history.take count ∧
      ∀ removal ∈ removals count history table, (removal.1.remove removal.2).1 = true := by
  induction history generalizing count table with
  | nil =>
      cases count with
      | zero => exact ⟨rfl, fun _ member => nomatch member⟩
      | succ count => exact ⟨rfl, fun _ member => nomatch member⟩
  | cons oldest history inductionHypothesis =>
      cases count with
      | zero => exact ⟨rfl, fun _ member => nomatch member⟩
      | succ count =>
          obtain ⟨next, removed, validNext, recordedNext⟩ := valid.remove_of_recorded recorded
          obtain ⟨asked, succeed⟩ := inductionHypothesis validNext recordedNext count
          rw [removals, removed]
          dsimp only
          constructor
          · rw [List.map_cons, asked, List.take_succ_cons]
          · intro removal member
            rcases List.mem_cons.mp member with rfl | later
            · rw [removed]
            · exact succeed removal later

end

end Snapshot
end ObliviousLog
