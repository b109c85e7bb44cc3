import ObliviousLog.Proofs.Table.Chain

/-!
# Reachable tables

A table is reachable when insertions and removals, accepted or not, built it from an empty one.
Neither operation changes the geometry, both keep a table valid, and so every reachable table is
valid.
-/

namespace ObliviousLog
namespace Table

variable {G : Type}

/-- A slot found by its key lies in the bucket and holds the key. -/
theorem held_of_slotOf?_eq_some
    {table : Table G}
    {bucket index : Nat}
    {key : Key}
    (found : table.slotOf? bucket key = some index) :
    index / table.geometry.bucketDepth = bucket ∧ table.keyAt? index = some key := by
  unfold slotOf? at found
  have member := List.mem_of_find?_eq_some found
  have held := List.find?_some found
  exact ⟨(table.geometry.mem_bucketSlots bucket index).mp member, beq_iff_eq.mp held⟩

variable [CoinSource G]

/-- The tables that insertions and removals build from an empty one. -/
inductive Reachable : Table G → Prop
  | empty (geometry : Geometry) (seed : UInt64) : Reachable (empty geometry seed)
  | insert {table : Table G} (reachable : Reachable table) (item : Item) :
      Reachable (table.insert item).2
  | remove {table : Table G} (reachable : Reachable table) (key : Key) :
      Reachable (table.remove key).2

/-! ## Removal -/

/-- The slot that a removal of a key frees, if the key is found. -/
def removalSlot? (table : Table G) (key : Key) : Option Nat :=
  match table.checkKey key with
  | .error _ => none
  | .ok () =>
    let first := key.candidate table.flip.1
    (table.slotOf? first key).or (table.slotOf? (key.otherBucket first) key)

/-- The slot that a removal frees held the key. -/
theorem held_of_removalSlot?_eq_some
    {table : Table G}
    {key : Key}
    {index : Nat}
    (found : table.removalSlot? key = some index) :
    table.keyAt? index = some key := by
  unfold removalSlot? at found
  cases checked : table.checkKey key with
  | error error =>
      rw [checked] at found
      cases found
  | ok =>
      rw [checked] at found
      rcases Option.or_eq_some_iff.mp found with first | ⟨_, second⟩
      · exact (held_of_slotOf?_eq_some first).2
      · exact (held_of_slotOf?_eq_some second).2

theorem remove_of_slot
    {table : Table G}
    {key : Key}
    {index : Nat}
    (found : table.removalSlot? key = some index) :
    table.remove key = (true, table.flip.2.clear index) := by
  unfold removalSlot? at found
  unfold remove
  cases checked : table.checkKey key with
  | error error =>
      rw [checked] at found
      cases found
  | ok =>
      rw [checked] at found
      have foundAfterFlip :
          (table.flip.2.slotOf? (key.candidate table.flip.1) key).or
            (table.flip.2.slotOf? (key.otherBucket (key.candidate table.flip.1)) key) =
              some index := found
      simp only [foundAfterFlip]

/-- A removal that finds no slot leaves the slots alone. -/
theorem remove_of_no_slot
    {table : Table G}
    {key : Key}
    (missing : table.removalSlot? key = none) :
    table.remove key = (false, table) ∨ table.remove key = (false, table.flip.2) := by
  unfold removalSlot? at missing
  unfold remove
  cases checked : table.checkKey key with
  | error error => exact Or.inl rfl
  | ok =>
      rw [checked] at missing
      have missingAfterFlip :
          (table.flip.2.slotOf? (key.candidate table.flip.1) key).or
            (table.flip.2.slotOf? (key.otherBucket (key.candidate table.flip.1)) key) =
              none := missing
      exact Or.inr (by simp only [missingAfterFlip])

/-- A removal leaves the slots alone, or it clears one that holds the key. -/
theorem remove_cases (table : Table G) (key : Key) :
    (table.remove key).1 = false ∧
        ((table.remove key).2 = table ∨ (table.remove key).2 = table.flip.2) ∨
      ∃ index, table.keyAt? index = some key ∧
        table.remove key = (true, table.flip.2.clear index) := by
  cases found : table.removalSlot? key with
  | none =>
      rcases remove_of_no_slot found with unchanged | flipped
      · rw [unchanged]
        exact Or.inl ⟨rfl, Or.inl rfl⟩
      · rw [flipped]
        exact Or.inl ⟨rfl, Or.inr rfl⟩
  | some index =>
      exact Or.inr ⟨index, held_of_removalSlot?_eq_some found, remove_of_slot found⟩

@[simp] theorem geometry_remove (table : Table G) (key : Key) :
    (table.remove key).2.geometry = table.geometry := by
  rcases table.remove_cases key with ⟨_, unchanged | flipped⟩ | ⟨index, _, removed⟩
  · rw [unchanged]
  · rw [flipped]
    rfl
  · rw [removed]
    rfl

/-- A removal keeps a table valid. -/
theorem Valid.remove
    {table : Table G}
    (valid : table.Valid)
    (key : Key) :
    (table.remove key).2.Valid := by
  rcases table.remove_cases key with ⟨_, unchanged | flipped⟩ | ⟨index, held, removed⟩
  · rwa [unchanged]
  · rw [flipped]
    exact valid.withCoins _
  · rw [removed]
    exact (valid.withCoins (CoinSource.flip table.coins).2).clear
      (lt_capacity_of_keyAt? valid.toSized held)

/-! ## Insertion -/

theorem insert_of_fits
    {table : Table G}
    {item : Item}
    (fits : table.check item = .ok ()) :
    table.insert item = (.ok (table.place item).1, (table.place item).2) := by
  rw [insert, fits]

theorem insert_of_misfit
    {table : Table G}
    {item : Item}
    {error : Error}
    (misfit : table.check item = .error error) :
    table.insert item = (.error error, table) := by
  rw [insert, misfit]

@[simp] theorem geometry_relocate
    (budget evictions target : Nat)
    (carried : Item)
    (table : Table G) :
    (relocate budget evictions target carried table).2.geometry = table.geometry := by
  induction budget generalizing evictions target carried table with
  | zero => rfl
  | succ budget inductionHypothesis =>
      rw [relocate]
      cases table.freeSlot? target with
      | some index => rfl
      | none =>
          cases held : (table.pickSlot target).2.itemAt? (table.pickSlot target).1 with
          | none =>
              simp only [held]
              rfl
          | some victim =>
              simp only [held, inductionHypothesis]
              rfl

@[simp] theorem geometry_place (table : Table G) (item : Item) :
    (table.place item).2.geometry = table.geometry := by
  unfold place
  cases found : table.flip.2.freeSlot? (item.candidate table.flip.1) with
  | some index =>
      simp only [found]
      rfl
  | none =>
      simp only [found, geometry_relocate]
      rfl

@[simp] theorem geometry_insert (table : Table G) (item : Item) :
    (table.insert item).2.geometry = table.geometry := by
  cases checked : table.check item with
  | ok => rw [insert_of_fits checked, geometry_place]
  | error error => rw [insert_of_misfit checked]

/-- Placing an item that fits keeps a table valid. -/
theorem Valid.place
    {table : Table G}
    (valid : table.Valid)
    {item : Item}
    (fits : table.check item = .ok ()) :
    (table.place item).2.Valid := by
  have ends : Ends (fun _ _ _ => True) (table.place item) :=
    place_ends (fun _ _ _ _ => trivial) valid fits fun _ _ => trivial
  generalize placed : table.place item = result at ends
  cases ends with
  | placed carries _ found _ => exact carries.put (free_of_freeSlot?_eq_some found).1
  | displaced carries _ => exact carries.valid

/-- An insertion keeps a table valid, whatever becomes of it. -/
theorem Valid.insert
    {table : Table G}
    (valid : table.Valid)
    (item : Item) :
    (table.insert item).2.Valid := by
  cases checked : table.check item with
  | ok =>
      rw [insert_of_fits checked]
      exact valid.place checked
  | error error => rwa [insert_of_misfit checked]

/-- Every reachable table is valid. -/
theorem Reachable.valid
    {table : Table G}
    (reachable : table.Reachable) :
    table.Valid := by
  induction reachable with
  | empty geometry seed => exact valid_empty geometry seed
  | insert _ item inductionHypothesis => exact inductionHypothesis.insert item
  | remove _ key inductionHypothesis => exact inductionHypothesis.remove key

end Table
end ObliviousLog
