import ObliviousLog.Proofs.Table.Conservation
import ObliviousLog.Proofs.Table.Layout
import Mathlib.Data.Finset.Basic

/-!
# Insertions stay among buckets that are closed

Some buckets are closed when what they hold may live in no other bucket.  A chain of evictions that
starts in such buckets never leaves them: every victim comes from one of them, and so its other
bucket is one of them too.  The rest of the table is not touched, and if these buckets are full, the
insertion fails, however much room there is elsewhere.
-/

namespace ObliviousLog

/-- Both candidate buckets of a key are among given buckets. -/
structure Key.Within (key : Key) (buckets : Finset Nat) : Prop where
  first : key.bucket1 ∈ buckets
  second : key.bucket2 ∈ buckets

theorem Key.Within.mem_of_allows
    {key : Key}
    {buckets : Finset Nat}
    (within : key.Within buckets)
    {bucket : Nat}
    (allowed : key.Allows bucket) :
    bucket ∈ buckets := by
  rcases allowed with rfl | rfl
  · exact within.first
  · exact within.second

namespace Table

open scoped List

variable {G : Type} {table : Table G} {buckets : Finset Nat} {item : Item}

/-! ## Closed buckets -/

/-- What given buckets hold may live in no other bucket. -/
def Closed (table : Table G) (buckets : Finset Nat) : Prop :=
  ∀ (index : Nat) (key : Key),
    index / table.geometry.bucketDepth ∈ buckets →
    table.keyAt? index = some key →
    key.Within buckets

/-- No slot of given buckets is free. -/
def Saturated (table : Table G) (buckets : Finset Nat) : Prop :=
  ∀ (index : Nat) (slot : Slot),
    index / table.geometry.bucketDepth ∈ buckets →
    table.slots[index]? = some slot →
    slot.filled = true

/-- Buckets stay closed when an item is put that may live in no other bucket. -/
theorem Closed.put
    (closed : table.Closed buckets)
    (coins : G)
    (within : item.Within buckets)
    (index : Nat) :
    ((table.withCoins coins).put index item).Closed buckets := by
  intro other key inBuckets held
  obtain ⟨slot, found, holds⟩ := Option.bind_eq_some_iff.mp held
  rcases getElem?_slots_assign found with rfl | before
  · cases holds
    exact within
  · exact closed other key inBuckets (Option.bind_eq_some_iff.mpr ⟨slot, before, holds⟩)

/-- What a slot of closed buckets holds may live in no other bucket. -/
theorem Closed.within_of_itemAt?
    (closed : table.Closed buckets)
    {index : Nat}
    (inBuckets : index / table.geometry.bucketDepth ∈ buckets)
    (held : table.itemAt? index = some item) :
    item.Within buckets := by
  obtain ⟨key, occupied, rfl⟩ := Option.map_eq_some_iff.mp held
  exact closed index key inBuckets occupied

/-! ## The items of several buckets -/

/-- The items in the slots of given buckets. -/
def itemsIn (table : Table G) (buckets : Finset Nat) : List Item :=
  ((List.range table.geometry.capacity).filter
    (fun index => index / table.geometry.bucketDepth ∈ buckets)).filterMap table.itemAt?

/-- The items in the slots of all other buckets. -/
def itemsOutside (table : Table G) (buckets : Finset Nat) : List Item :=
  ((List.range table.geometry.capacity).filter
    (fun index => !decide (index / table.geometry.bucketDepth ∈ buckets))).filterMap table.itemAt?

/-- The stored items are those in given buckets and those outside them. -/
theorem itemsIn_append_itemsOutside (table : Table G) (buckets : Finset Nat) :
    (table.itemsIn buckets ++ table.itemsOutside buckets).Perm table.items := by
  rw [itemsIn, itemsOutside, ← List.filterMap_append]
  exact (List.filter_append_perm _ _).filterMap table.itemAt?

theorem Closed.within_of_mem_itemsIn
    (closed : table.Closed buckets)
    (stored : item ∈ table.itemsIn buckets) :
    item.Within buckets := by
  obtain ⟨index, inside, held⟩ := List.mem_filterMap.mp stored
  exact closed.within_of_itemAt? (of_decide_eq_true (List.mem_filter.mp inside).2) held

/-- The items outside given buckets stay when all slots there do. -/
theorem itemsOutside_congr
    {before after : Table G}
    (sameGeometry : after.geometry = before.geometry)
    (sameOutside :
      ∀ index, index / before.geometry.bucketDepth ∉ buckets → before.SameAt after index) :
    after.itemsOutside buckets = before.itemsOutside buckets := by
  unfold itemsOutside
  rw [sameGeometry]
  apply List.filterMap_congr
  intro index member
  have outside := (List.mem_filter.mp member).2
  rw [Bool.not_eq_true', decide_eq_false_iff_not] at outside
  exact (sameOutside index outside).itemAt?_eq

/-- Saturated buckets hold at least as many items as any table of their geometry holds in them. -/
theorem Saturated.length_itemsIn_le
    (saturated : table.Saturated buckets)
    (sized : table.Sized)
    {other : Table G}
    (sameGeometry : other.geometry = table.geometry) :
    (other.itemsIn buckets).length ≤ (table.itemsIn buckets).length := by
  have full : (table.itemsIn buckets).length =
      ((List.range table.geometry.capacity).filter
        (fun index => index / table.geometry.bucketDepth ∈ buckets)).length := by
    rw [itemsIn, List.length_filterMap_eq_countP, List.countP_eq_length]
    intro index member
    obtain ⟨inRange, inBuckets⟩ := List.mem_filter.mp member
    have inside : index < table.slots.size := by
      rw [sized.size_slots]
      exact List.mem_range.mp inRange
    have found := Array.getElem?_eq_getElem inside
    have filled := saturated index _ (of_decide_eq_true inBuckets) found
    rw [itemAt?, Option.isSome_map, keyAt?_of_filled found filled, Option.isSome_some]
  rw [full, itemsIn, sameGeometry]
  exact List.length_filterMap_le _ _

/-! ## Chains of evictions -/

/-- An item is carried among closed buckets, in a table that was another one before: that item may
live in no other bucket, the bucket aimed at is one of them, and nothing has changed elsewhere. -/
structure Confined
    (before : Table G)
    (buckets : Finset Nat)
    (table : Table G)
    (target : Nat)
    (carried : Item) : Prop where
  geometry_eq : table.geometry = before.geometry
  target_mem : target ∈ buckets
  within : carried.Within buckets
  closed : table.Closed buckets
  outside :
    ∀ index, index / before.geometry.bucketDepth ∉ buckets → before.SameAt table index

/-- Putting the carried item into the bucket aimed at changes nothing outside the closed buckets. -/
theorem Confined.sameAt_put
    {before : Table G}
    {target : Nat}
    {carried : Item}
    (confined : before.Confined buckets table target carried)
    (fills : carried.payload.length = table.geometry.itemSize)
    (coins : G)
    {index other : Nat}
    (member : index / table.geometry.bucketDepth = target)
    (outside : other / before.geometry.bucketDepth ∉ buckets) :
    before.SameAt ((table.withCoins coins).put index carried) other := by
  have different : other ≠ index := by
    rintro rfl
    rw [← confined.geometry_eq, member] at outside
    exact outside confined.target_mem
  exact (confined.outside other outside).trans
    (sameAt_assign table coins different (.holding carried.toKey) fills)

variable [CoinSource G]

/-- An eviction from one of several closed buckets stays among them. -/
theorem keptByEvictions_confined (before : Table G) (buckets : Finset Nat) :
    KeptByEvictions (before.Confined buckets) := by
  intro table target carried victim carries _ held confined
  have member := table.victimSlot_mem target
  have fills := ((table.check_eq_ok_iff carried).mp carries.fits).1
  have victimWithin : victim.Within buckets :=
    Closed.within_of_itemAt? confined.closed (member.symm ▸ confined.target_mem) held
  exact {
    geometry_eq := confined.geometry_eq
    target_mem := victimWithin.mem_of_allows (victim.allows_otherBucket target)
    within := victimWithin
    closed := Closed.put confined.closed (table.pickSlot target).2.coins confined.within _
    outside := fun _ outside => confined.sameAt_put fills _ member outside }

/-- Placing an item that may live in closed buckets only changes no slot of any other bucket. -/
theorem Valid.sameAt_place
    (valid : table.Valid)
    (closed : table.Closed buckets)
    (fits : table.check item = .ok ())
    (within : item.Within buckets)
    {index : Nat}
    (outside : index / table.geometry.bucketDepth ∉ buckets) :
    table.SameAt (table.place item).2 index := by
  have ends : Ends (table.Confined buckets) (table.place item) := by
    apply place_ends (keptByEvictions_confined table buckets) valid fits
    intro bucket allowed
    exact {
      geometry_eq := rfl
      target_mem := within.mem_of_allows allowed
      within
      closed
      outside := fun _ _ => ⟨rfl, rfl⟩ }
  generalize placed : table.place item = result at ends
  cases ends with
  | displaced carries confined => exact confined.outside index outside
  | @placed current target slot carried placement carries confined found accepted =>
      have fills := ((current.check_eq_ok_iff carried).mp carries.fits).1
      exact confined.sameAt_put fills current.coins (free_of_freeSlot?_eq_some found).1 outside

/-- Placing an item that may live in closed buckets only conserves the items of these buckets
together with what is left over. -/
theorem Valid.itemsIn_place
    (valid : table.Valid)
    (closed : table.Closed buckets)
    (fits : table.check item = .ok ())
    (within : item.Within buckets) :
    ((table.place item).1.leftOver ++ (table.place item).2.itemsIn buckets).Perm
      (item :: table.itemsIn buckets) := by
  have sameOutside := itemsOutside_congr (geometry_place table item)
    fun _ outside => valid.sameAt_place closed fits within outside
  -- All items are conserved, and those outside are the same ones before and after.
  rw [← List.perm_append_right_iff (table.itemsOutside buckets)]
  calc (table.place item).1.leftOver ++ (table.place item).2.itemsIn buckets ++
        table.itemsOutside buckets
      = (table.place item).1.leftOver ++ ((table.place item).2.itemsIn buckets ++
          (table.place item).2.itemsOutside buckets) := by
        rw [List.append_assoc, sameOutside]
    _ ~ (table.place item).1.leftOver ++ (table.place item).2.items :=
        (itemsIn_append_itemsOutside _ buckets).append_left _
    _ ~ item :: table.items := items_place valid fits
    _ ~ item :: table.itemsIn buckets ++ table.itemsOutside buckets :=
        ((itemsIn_append_itemsOutside table buckets).symm).cons item

/-- If given buckets of a reachable table hold nothing that may live elsewhere, and neither may an
inserted item, then the insertion touches no other bucket.  Either the item is stored beside all
that these buckets held, or one of these items is handed back in exchange; the latter is certain
when these buckets have no free slot. -/
theorem insert_stays_within
    (reachable : table.Reachable)
    (closed : table.Closed buckets)
    (fits : table.check item = .ok ())
    (within : item.Within buckets) :
    ∃ placement next,
      table.insert item = (.ok placement, next) ∧
      (∀ index, index / table.geometry.bucketDepth ∉ buckets → table.SameAt next index) ∧
      (placement.outcome = .ok () ∧
          (next.itemsIn buckets : Multiset Item) =
            (table.itemsIn buckets : Multiset Item) + {item} ∨
        ∃ displaced,
          placement.outcome = .error (.capacity displaced) ∧
          displaced.Within buckets ∧
          (next.itemsIn buckets : Multiset Item) + {displaced} =
            (table.itemsIn buckets : Multiset Item) + {item}) ∧
      (table.Saturated buckets →
        ∃ displaced, placement.outcome = .error (.capacity displaced)) := by
  have valid := reachable.valid
  have conserved := valid.itemsIn_place closed fits within
  refine ⟨(table.place item).1, (table.place item).2, insert_of_fits fits,
    fun _ outside => valid.sameAt_place closed fits within outside, ?_⟩
  rcases (table.place item).1.accepted_or_displaced with
    ⟨accepted, nothingLeft⟩ | ⟨displaced, placed⟩
  · rw [nothingLeft] at conserved
    refine ⟨Or.inl ⟨accepted, coe_eq_add_singleton conserved⟩, fun saturated => ?_⟩
    have noMore := saturated.length_itemsIn_le valid.toSized (geometry_place table item)
    have oneMore := conserved.length_eq
    rw [List.nil_append, List.length_cons] at oneMore
    omega
  · rw [placed] at conserved ⊢
    have displacedWithin : displaced.Within buckets := by
      rcases List.mem_cons.mp (conserved.mem_iff.mp List.mem_cons_self) with rfl | stored
      · exact within
      · exact closed.within_of_mem_itemsIn stored
    exact ⟨Or.inr ⟨displaced, rfl, displacedWithin, coe_add_singleton_eq conserved⟩,
      fun _ => ⟨displaced, rfl⟩⟩

/-- A table of two buckets of one byte each, of which the first one holds an item that may not live
in the second. -/
def halfFull : Table ChaCha :=
  ((empty twoSlots 0).insert ⟨⟨1, 0, 0⟩, [7]⟩).2

theorem geometry_halfFull : halfFull.geometry = twoSlots :=
  geometry_insert _ _

/-- A second item for the first bucket alone fails, although the second bucket is empty. -/
theorem insert_stays_within_of_halfFull :
    halfFull.Reachable ∧
      halfFull.Closed {0} ∧
      halfFull.check ⟨⟨2, 0, 0⟩, [9]⟩ = .ok () ∧
      halfFull.Saturated {0} ∧
      halfFull.keyAt? 1 = none ∧
      ∃ placement next displaced,
        halfFull.insert ⟨⟨2, 0, 0⟩, [9]⟩ = (.ok placement, next) ∧
        halfFull.SameAt next 1 ∧
        placement.outcome = .error (.capacity displaced) := by
  have reachable : halfFull.Reachable := .insert (.empty _ _) _
  obtain ⟨first, second⟩ :
      halfFull.slots[0]? = some ⟨⟨1, 0, 0⟩, true⟩ ∧ halfFull.keyAt? 1 = none := by
    decide +kernel
  have fits : halfFull.check ⟨⟨2, 0, 0⟩, [9]⟩ = .ok () := by
    rw [check_eq_ok_iff, geometry_halfFull]
    decide
  have isFirst : ∀ index, index / halfFull.geometry.bucketDepth ∈ ({0} : Finset Nat) →
      index = 0 := by
    intro index inBuckets
    rw [geometry_halfFull, twoSlots, Nat.div_one] at inBuckets
    exact Finset.mem_singleton.mp inBuckets
  have closed : halfFull.Closed {0} := by
    intro index key inBuckets held
    rw [isFirst index inBuckets, keyAt?, first] at held
    cases held
    exact ⟨Finset.mem_singleton_self 0, Finset.mem_singleton_self 0⟩
  have saturated : halfFull.Saturated {0} := by
    intro index slot inBuckets found
    rw [isFirst index inBuckets, first] at found
    cases found
    rfl
  have secondOutside : 1 / halfFull.geometry.bucketDepth ∉ ({0} : Finset Nat) := by
    rw [geometry_halfFull]
    decide
  obtain ⟨placement, next, inserted, outside, _, displaces⟩ :=
    insert_stays_within reachable closed fits
      ⟨Finset.mem_singleton_self 0, Finset.mem_singleton_self 0⟩
  obtain ⟨displaced, handedBack⟩ := displaces saturated
  exact ⟨reachable, closed, fits, saturated, second, placement, next, displaced, inserted,
    outside 1 secondOutside, handedBack⟩

end Table
end ObliviousLog
