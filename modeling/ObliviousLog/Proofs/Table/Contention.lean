import ObliviousLog.Proofs.Table.Reachable
import ObliviousLog.Random.ChaCha

/-!
# Two items for one slot

Two items that are pinned to one single slot throw each other out for as long as the budget of an
insertion lasts.  Every second eviction puts the first of them back, and the budget is even.  So the
item that comes last is handed back, whatever the coins, and the slot holds what it held before.
-/

namespace ObliviousLog

namespace Key

/-- Whether a bucket is the only candidate bucket of a key. -/
structure PinnedTo (key : Key) (bucket : Nat) : Prop where
  first : key.bucket1 = bucket
  second : key.bucket2 = bucket

namespace PinnedTo

variable {key : Key} {bucket : Nat}

theorem candidate_eq (pinned : key.PinnedTo bucket) (heads : Bool) :
    key.candidate heads = bucket := by
  cases heads
  · exact pinned.second
  · exact pinned.first

theorem otherBucket_eq (pinned : key.PinnedTo bucket) : key.otherBucket bucket = bucket := by
  rw [Key.otherBucket, if_pos pinned.first.symm, pinned.second]

end PinnedTo
end Key

namespace Table

variable {G : Type}

/-- An item carried to a bucket whose only slot holds another item, where neither of the two may
live elsewhere. -/
structure Contends (table : Table G) (bucket : Nat) (carried occupant : Item) : Prop
    extends table.Carries bucket carried where
  single : table.geometry.bucketDepth = 1
  held : table.itemAt? bucket = some occupant
  pinned : carried.PinnedTo bucket
  occupantPinned : occupant.PinnedTo bucket

theorem Contends.freeSlot?_eq_none
    {table : Table G}
    {bucket : Nat}
    {carried occupant : Item}
    (contends : table.Contends bucket carried occupant) :
    table.freeSlot? bucket = none := by
  cases found : table.freeSlot? bucket with
  | none => rfl
  | some index =>
      obtain ⟨member, free⟩ := free_of_freeSlot?_eq_some found
      rw [contends.single, Nat.div_one] at member
      have held := contends.held
      rw [← member, itemAt?, free] at held
      cases held

variable [CoinSource G]

namespace Contends

variable {table : Table G} {bucket : Nat} {carried occupant : Item}

/-- The only slot of the bucket is the one that an eviction picks. -/
theorem victimSlot_eq (contends : table.Contends bucket carried occupant) :
    table.victimSlot bucket = bucket := by
  have member := table.victimSlot_mem bucket
  rwa [contends.single, Nat.div_one] at member

theorem itemAt?_victimSlot (contends : table.Contends bucket carried occupant) :
    table.itemAt? (table.victimSlot bucket) = some occupant := by
  rw [contends.victimSlot_eq, contends.held]

/-- An eviction exchanges the roles of the two items. -/
theorem evict (contends : table.Contends bucket carried occupant) :
    (table.evict bucket carried).Contends bucket occupant carried where
  toCarries := by
    have next := contends.toCarries.evict contends.itemAt?_victimSlot
    rwa [contends.occupantPinned.otherBucket_eq] at next
  single := contends.single
  held := by
    have drawn := contends.toCarries.withCoins (table.pickSlot bucket).2.coins
    have fills := ((table.check_eq_ok_iff carried).mp contends.fits).1
    have stored :=
      itemAt?_put_self drawn.valid.toSized (drawn.slot_lt (table.victimSlot_mem bucket)) fills
    rw [contends.victimSlot_eq] at stored
    rw [Table.evict, contends.victimSlot_eq]
    exact stored
  pinned := contends.occupantPinned
  occupantPinned := contends.pinned

theorem relocate_succ
    (contends : table.Contends bucket carried occupant)
    (budget evictions : Nat) :
    relocate (budget + 1) evictions bucket carried table =
      relocate budget (evictions + 1) bucket occupant (table.evict bucket carried) := by
  rw [relocate_of_full contends.freeSlot?_eq_none contends.itemAt?_victimSlot,
    contends.occupantPinned.otherBucket_eq]

/-- After an even number of evictions the item that came last is carried again, and the other one is
back in the slot. -/
theorem relocate_even
    (contends : table.Contends bucket carried occupant)
    (rounds evictions : Nat) :
    ∃ next,
      relocate (2 * rounds) evictions bucket carried table = (.displaced carried, next) ∧
      next.Contends bucket carried occupant := by
  induction rounds generalizing evictions table with
  | zero => exact ⟨table, rfl, contends⟩
  | succ rounds inductionHypothesis =>
      rw [Nat.mul_succ, contends.relocate_succ, contends.evict.relocate_succ]
      exact inductionHypothesis contends.evict.evict (evictions + 2)

/-- An item that is pinned to a single slot in which another pinned item sits is handed back itself,
and the other item keeps the slot. -/
theorem place (contends : table.Contends bucket carried occupant) :
    ∃ next,
      table.place carried = (.displaced carried, next) ∧
      next.Contends bucket carried occupant := by
  have flipped : table.flip.2.Contends bucket carried occupant :=
    { contends.toCarries.withCoins table.flip.2.coins, contends with }
  have evenBudget : maxEvictions = 2 * 250 := rfl
  unfold Table.place
  simp only [contends.pinned.candidate_eq, flipped.freeSlot?_eq_none,
    contends.pinned.otherBucket_eq, evenBudget]
  exact flipped.relocate_even 250 0

theorem insert (contends : table.Contends bucket carried occupant) :
    ∃ next,
      table.insert carried = (.ok (.displaced carried), next) ∧
      next.Contends bucket carried occupant := by
  obtain ⟨next, placed, stillContends⟩ := contends.place
  exact ⟨next, by rw [insert_of_fits contends.fits, placed], stillContends⟩

theorem insert_outcome (contends : table.Contends bucket carried occupant) :
    (table.insert carried).1.bind Placement.outcome = .error (.capacity carried) := by
  obtain ⟨next, inserted, _⟩ := contends.insert
  rw [inserted]
  rfl

end Contends

/-- A table of a single slot of one byte, which holds an item. -/
def occupiedSlot : Table ChaCha :=
  ((empty ⟨1, 1, 1, by decide, by decide, by decide, by decide⟩ 0).insert ⟨⟨1, 0, 0⟩, [7]⟩).2

theorem geometry_occupiedSlot :
    occupiedSlot.geometry = ⟨1, 1, 1, by decide, by decide, by decide, by decide⟩ :=
  geometry_insert _ _

/-- A table of a single one-byte slot with an item in it, and a second item on its way there. -/
theorem occupiedSlot_contends :
    occupiedSlot.Contends 0 ⟨⟨2, 0, 0⟩, [9]⟩ ⟨⟨1, 0, 0⟩, [7]⟩ where
  valid := (Reachable.insert (.empty _ _) _ : occupiedSlot.Reachable).valid
  fits := by
    rw [check_eq_ok_iff, geometry_occupiedSlot]
    decide
  allowed := Or.inl rfl
  single := by rw [geometry_occupiedSlot]
  held := by decide +kernel
  pinned := ⟨rfl, rfl⟩
  occupantPinned := ⟨rfl, rfl⟩

end Table
end ObliviousLog
