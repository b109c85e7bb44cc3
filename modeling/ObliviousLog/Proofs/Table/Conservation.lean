import ObliviousLog.Proofs.Table.Contention
import ObliviousLog.Proofs.Table.Items
import Mathlib.Data.Multiset.AddSub

/-!
# Insertion conserves items

What an insertion stores and what it hands back are together what was stored before and the inserted
item, as full values with their payloads.  Each eviction of the chain keeps the carried item
together with the stored ones the same, wherever the chain wanders.
-/

namespace ObliviousLog

/-- The items that a placement leaves without a slot. -/
def Placement.leftOver : Placement → List Item
  | immediate => []
  | relocated _ => []
  | displaced item => [item]

/-- A placement is accepted and leaves nothing over, or it hands back one item. -/
theorem Placement.accepted_or_displaced (placement : Placement) :
    placement.outcome = .ok () ∧ placement.leftOver = [] ∨
      ∃ item, placement = .displaced item := by
  cases placement with
  | immediate => exact Or.inl ⟨rfl, rfl⟩
  | relocated evictions => exact Or.inl ⟨rfl, rfl⟩
  | displaced item => exact Or.inr ⟨item, rfl⟩

theorem Placement.leftOver_of_accepted
    {placement : Placement}
    (accepted : placement.outcome = .ok ()) :
    placement.leftOver = [] := by
  cases placement with
  | immediate => rfl
  | relocated evictions => rfl
  | displaced item => cases accepted

/-- Only a displaced item is handed back in an error. -/
theorem Placement.eq_displaced_of_outcome
    {placement : Placement}
    {item : Item}
    (handedBack : placement.outcome = .error (.capacity item)) :
    placement = .displaced item := by
  cases placement with
  | immediate => cases handedBack
  | relocated evictions => cases handedBack
  | displaced other =>
      cases handedBack
      rfl

/-- A rearrangement of a list with one item in front is the rest and that item. -/
theorem coe_eq_add_singleton
    {items rest : List Item}
    {item : Item}
    (rearranged : items.Perm (item :: rest)) :
    (items : Multiset Item) = (rest : Multiset Item) + {item} := by
  rw [Multiset.add_comm, Multiset.singleton_add, Multiset.cons_coe]
  exact Multiset.coe_eq_coe.mpr rearranged

/-- Two lists that agree up to order with an item in front of each differ by these items. -/
theorem coe_add_singleton_eq
    {left right : List Item}
    {first second : Item}
    (rearranged : (first :: left).Perm (second :: right)) :
    (left : Multiset Item) + {first} = (right : Multiset Item) + {second} :=
  (coe_eq_add_singleton (List.Perm.refl (first :: left))).symm.trans
    (coe_eq_add_singleton rearranged)

namespace Table

variable {G : Type} [CoinSource G]

/-- An eviction exchanges the carried item for the victim. -/
theorem items_evict
    {table : Table G}
    {target : Nat}
    {carried victim : Item}
    (carries : table.Carries target carried)
    (held : table.itemAt? (table.victimSlot target) = some victim) :
    (victim :: (table.evict target carried).items).Perm (carried :: table.items) := by
  have fills := ((table.check_eq_ok_iff carried).mp carries.fits).1
  have sized := (carries.withCoins (table.pickSlot target).2.coins).valid.toSized
  have exchanged :=
    items_put sized (carries.slot_lt (table.victimSlot_mem target)) fills
  have heldAfterDraw :
      (table.withCoins (table.pickSlot target).2.coins).itemAt? (table.victimSlot target) =
        some victim := held
  rw [heldAfterDraw] at exchanged
  exact exchanged

/-- Placing an item conserves the stored items together with what is left over. -/
theorem items_place
    {table : Table G}
    (valid : table.Valid)
    {item : Item}
    (fits : table.check item = .ok ()) :
    ((table.place item).1.leftOver ++ (table.place item).2.items).Perm (item :: table.items) := by
  -- The chain keeps the carried item together with the stored ones.
  have ends :
      Ends (fun current _ carried => (carried :: current.items).Perm (item :: table.items))
        (table.place item) := by
    apply place_ends _ valid fits
    · intro bucket _
      exact List.Perm.refl _
    · intro current target carried victim carries _ held kept
      exact (items_evict carries held).trans kept
  generalize placed : table.place item = result at ends
  cases ends with
  | displaced carries kept => exact kept
  | @placed current target index carried placement carries kept found accepted =>
      obtain ⟨member, free⟩ := free_of_freeSlot?_eq_some found
      have fills := ((current.check_eq_ok_iff carried).mp carries.fits).1
      have stored := items_put carries.valid.toSized (carries.slot_lt member) fills
      rw [itemAt?, free, Option.map_none] at stored
      rcases placement.accepted_or_displaced with ⟨_, nothingLeft⟩ | ⟨item, rfl⟩
      · rw [nothingLeft]
        exact stored.trans kept
      · cases accepted

/-- Placing an item adds one entry, or exchanges one for what is left over. -/
theorem count_place
    {table : Table G}
    (valid : table.Valid)
    {item : Item}
    (fits : table.check item = .ok ()) :
    (table.place item).1.leftOver.length + (table.place item).2.count = table.count + 1 := by
  have lengths := (items_place valid fits).length_eq
  rwa [List.length_append, List.length_cons, ← count_eq_length_items valid.toSized,
    ← count_eq_length_items (valid.place fits).toSized] at lengths

/-- Inserting an item that fits a reachable table either stores it beside all that was stored
before, or hands back exactly one of these items in exchange; the latter is certain when the table
is full. -/
theorem insert_conserves_items
    {table : Table G}
    (reachable : table.Reachable)
    {item : Item}
    (fits : table.check item = .ok ()) :
    ∃ placement next,
      table.insert item = (.ok placement, next) ∧
      (placement.outcome = .ok () ∧
          (next.items : Multiset Item) = (table.items : Multiset Item) + {item} ∧
          next.count = table.count + 1 ∨
        ∃ displaced,
          placement.outcome = .error (.capacity displaced) ∧
          (next.items : Multiset Item) + {displaced} = (table.items : Multiset Item) + {item} ∧
          next.count = table.count) ∧
      (table.count = table.geometry.capacity →
        ∃ displaced, placement.outcome = .error (.capacity displaced)) := by
  have valid := reachable.valid
  have conserved := items_place valid fits
  have countBefore := count_eq_length_items valid.toSized
  have countAfter := count_eq_length_items (valid.place fits).toSized
  have room := length_items_le (table.place item).2
  rw [geometry_place] at room
  refine ⟨(table.place item).1, (table.place item).2, insert_of_fits fits, ?_⟩
  have lengths := conserved.length_eq
  rw [List.length_append, List.length_cons, ← countBefore, ← countAfter] at lengths
  rcases (table.place item).1.accepted_or_displaced with
    ⟨accepted, nothingLeft⟩ | ⟨displaced, placed⟩
  · rw [nothingLeft] at conserved lengths
    rw [List.length_nil] at lengths
    exact ⟨Or.inl ⟨accepted, coe_eq_add_singleton conserved, by omega⟩, fun full => by omega⟩
  · rw [placed] at conserved lengths ⊢
    rw [Placement.leftOver, List.length_singleton] at lengths
    have exchanged :=
      (coe_eq_add_singleton (List.Perm.refl (displaced :: (table.place item).2.items))).symm.trans
        (coe_eq_add_singleton conserved)
    exact ⟨Or.inr ⟨displaced, rfl, exchanged, by omega⟩, fun _ => ⟨displaced, rfl⟩⟩

/-- A second item on its way into an occupied single slot is handed back itself, and the first item
is stored alone as before. -/
theorem insert_conserves_items_in_occupiedSlot :
    occupiedSlot.Reachable ∧
      occupiedSlot.check ⟨⟨2, 0, 0⟩, [9]⟩ = .ok () ∧
      occupiedSlot.count = occupiedSlot.geometry.capacity ∧
      ∃ next,
        occupiedSlot.insert ⟨⟨2, 0, 0⟩, [9]⟩ = (.ok (.displaced ⟨⟨2, 0, 0⟩, [9]⟩), next) ∧
        next.items = [⟨⟨1, 0, 0⟩, [7]⟩] ∧
        next.count = 1 := by
  have reachable : occupiedSlot.Reachable := .insert (.empty _ _) _
  have full : occupiedSlot.count = occupiedSlot.geometry.capacity := by decide +kernel
  have one : occupiedSlot.count = 1 := by decide +kernel
  have stored : occupiedSlot.items = [⟨⟨1, 0, 0⟩, [7]⟩] := by decide +kernel
  obtain ⟨next, handedBack, _⟩ := occupiedSlot_contends.insert
  obtain ⟨_, _, inserted, conserved, _⟩ :=
    insert_conserves_items reachable occupiedSlot_contends.fits
  cases inserted.symm.trans handedBack
  refine ⟨reachable, occupiedSlot_contends.fits, full, next, handedBack, ?_⟩
  rcases conserved with ⟨accepted, _⟩ | ⟨displaced, isDisplaced, exchanged, sameCount⟩
  · cases accepted
  · cases isDisplaced
    rw [stored] at exchanged
    exact ⟨Multiset.coe_eq_singleton.mp (Multiset.add_left_inj.mp exchanged), sameCount.trans one⟩

end Table
end ObliviousLog
