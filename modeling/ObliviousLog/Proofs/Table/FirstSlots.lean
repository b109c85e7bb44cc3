import ObliviousLog.Proofs.Table.Removal
import Mathlib.Algebra.BigOperators.Group.Finset.Piecewise
import Mathlib.Data.List.Nodup

/-!
# First slots go first

Several items may be stored under one key, and a removal by the key does not tell them apart.  It
frees the first slot with the key in the bucket that a coin picks, or else in the other one.  So a
pass of removals frees, in each bucket, the first slots of each key, and which items go is decided
by where they lie.
-/

namespace ObliviousLog

/-- The buckets that a key allows. -/
def Key.buckets (key : Key) : Finset Nat :=
  {key.bucket1, key.bucket2}

namespace Table

variable {G : Type}

/-! ## The slots of a key -/

/-- The slots of a bucket that hold a key, in order. -/
def slotsOf (table : Table G) (bucket : Nat) (key : Key) : List Nat :=
  (table.geometry.bucketSlots bucket).filter fun index => table.keyAt? index == some key

/-- The place of a slot among the slots of its bucket that hold a key. -/
def rank (table : Table G) (key : Key) (index : Nat) : Nat :=
  (table.slotsOf (index / table.geometry.bucketDepth) key).idxOf index

variable {table : Table G} {bucket index : Nat} {key : Key}

/-- The key in a slot is the key of the item in it. -/
theorem keyAt?_of_itemAt?
    {item : Item}
    (held : table.itemAt? index = some item) :
    table.keyAt? index = some item.toKey := by
  rw [← map_toKey_itemAt?, held, Option.map_some]

theorem mem_slotsOf :
    index ∈ table.slotsOf bucket key ↔
      index / table.geometry.bucketDepth = bucket ∧ table.keyAt? index = some key := by
  rw [slotsOf, List.mem_filter, Geometry.mem_bucketSlots, beq_iff_eq]

theorem sorted_slotsOf (table : Table G) (bucket : Nat) (key : Key) :
    (table.slotsOf bucket key).Pairwise (· < ·) :=
  (table.geometry.sorted_bucketSlots bucket).filter _

theorem nodup_slotsOf (table : Table G) (bucket : Nat) (key : Key) :
    (table.slotsOf bucket key).Nodup :=
  (table.sorted_slotsOf bucket key).imp Nat.ne_of_lt

/-- Of two slots of a bucket that hold a key, the lower one has the lower place. -/
theorem rank_lt_rank
    {lower higher : Nat}
    (sameBucket :
      lower / table.geometry.bucketDepth = higher / table.geometry.bucketDepth)
    (below : lower < higher)
    (heldLower : table.keyAt? lower = some key)
    (heldHigher : table.keyAt? higher = some key) :
    table.rank key lower < table.rank key higher := by
  have sorted := table.sorted_slotsOf (higher / table.geometry.bucketDepth) key
  have inLower := mem_slotsOf.mpr ⟨sameBucket, heldLower⟩
  have inHigher := mem_slotsOf.mpr ⟨rfl, heldHigher⟩
  have lowerExists := List.idxOf_lt_length_of_mem inLower
  have higherExists := List.idxOf_lt_length_of_mem inHigher
  rw [rank, rank, sameBucket]
  rcases Nat.lt_trichotomy
      ((table.slotsOf (higher / table.geometry.bucketDepth) key).idxOf lower)
      ((table.slotsOf (higher / table.geometry.bucketDepth) key).idxOf higher) with
    before | same | after
  · exact before
  · rw [(List.idxOf_inj inLower).mp same] at below
    exact absurd below (Nat.lt_irrefl _)
  · have ascends := List.pairwise_iff_getElem.mp sorted _ _ higherExists lowerExists after
    rw [List.getElem_idxOf, List.getElem_idxOf] at ascends
    omega

/-- What a bucket is found to hold a key in is the first of the slots that do. -/
theorem slotOf?_eq_head? (table : Table G) (bucket : Nat) (key : Key) :
    table.slotOf? bucket key = (table.slotsOf bucket key).head? :=
  (List.head?_filter ..).symm

/-- A cleared slot drops out of the slots that hold a key. -/
theorem slotsOf_clear
    (sized : table.Sized)
    (inside : index < table.geometry.capacity)
    (bucket : Nat)
    (key : Key) :
    (table.clear index).slotsOf bucket key = (table.slotsOf bucket key).erase index := by
  rw [(table.nodup_slotsOf bucket key).erase_eq_filter, slotsOf, slotsOf, List.filter_filter]
  refine List.filter_congr fun other _ => ?_
  rw [clear_eq_assign]
  by_cases same : other = index
  · subst same
    simp [keyAt?_assign_self sized inside]
  · simp [keyAt?_assign_of_ne table same, same]

/-! ## What a pass of removals frees -/

/-- One table is left of another when, in each bucket, the first slots of each key were freed, and
nothing else was done.  How many slots that is, in each bucket and for each key, is said by `freed`.
-/
structure FreesFirst (before after : Table G) (freed : Key → Nat → Nat) : Prop where
  geometry_eq : after.geometry = before.geometry
  freed_le : ∀ key bucket, freed key bucket ≤ (before.slotsOf bucket key).length
  slotsOf_eq :
    ∀ key bucket,
      after.slotsOf bucket key = (before.slotsOf bucket key).drop (freed key bucket)
  itemAt?_eq :
    ∀ index, (after.keyAt? index).isSome → after.itemAt? index = before.itemAt? index

namespace FreesFirst

variable {before middle after : Table G} {freed later : Key → Nat → Nat}

theorem refl (table : Table G) : table.FreesFirst table fun _ _ => 0 where
  geometry_eq := rfl
  freed_le _ _ := Nat.zero_le _
  slotsOf_eq _ _ := rfl
  itemAt?_eq _ _ := rfl

/-- Two passes free together what they free one after the other. -/
theorem trans
    (first : before.FreesFirst middle freed)
    (second : middle.FreesFirst after later) :
    before.FreesFirst after (freed + later) where
  geometry_eq := second.geometry_eq.trans first.geometry_eq
  freed_le key bucket := by
    have bound := second.freed_le key bucket
    have boundFirst := first.freed_le key bucket
    rw [first.slotsOf_eq, List.length_drop] at bound
    simp only [Pi.add_apply]
    omega
  slotsOf_eq key bucket := by
    rw [second.slotsOf_eq, first.slotsOf_eq, List.drop_drop]
    rfl
  itemAt?_eq index occupied := by
    have same := second.itemAt?_eq index occupied
    rw [same]
    refine first.itemAt?_eq index ?_
    rw [← middle.map_toKey_itemAt?, ← same, after.map_toKey_itemAt?]
    exact occupied

/-- A slot keeps its key exactly if its place is not among the freed ones. -/
theorem keyAt?_eq_some_iff
    (frees : before.FreesFirst after freed)
    (held : before.keyAt? index = some key) :
    after.keyAt? index = some key ↔
      freed key (index / before.geometry.bucketDepth) ≤ before.rank key index := by
  have inBucket : index ∈ before.slotsOf (index / before.geometry.bucketDepth) key :=
    mem_slotsOf.mpr ⟨rfl, held⟩
  have nodup := before.nodup_slotsOf (index / before.geometry.bucketDepth) key
  have kept : after.keyAt? index = some key ↔
      index ∈ (before.slotsOf (index / before.geometry.bucketDepth) key).drop
        (freed key (index / before.geometry.bucketDepth)) := by
    rw [← frees.slotsOf_eq, mem_slotsOf, frees.geometry_eq]
    exact (and_iff_right rfl).symm
  rw [kept, ← Nat.not_lt, rank, ← List.mem_take_iff_idxOf_lt inBucket]
  constructor
  · intro dropped taken
    exact List.disjoint_take_drop nodup (Nat.le_refl _) taken dropped
  · intro notTaken
    rw [← List.take_append_drop (freed key (index / before.geometry.bucketDepth))
      (before.slotsOf _ key)] at inBucket
    exact (List.mem_append.mp inBucket).resolve_left notTaken

theorem itemAt?_of_keyAt?
    (frees : before.FreesFirst after freed)
    {item : Item}
    (held : before.itemAt? index = some item)
    (kept : after.keyAt? index = some key) :
    after.itemAt? index = some item := by
  rw [frees.itemAt?_eq index (by rw [kept]; rfl), held]

/-- What a slot still holds, it held before. -/
theorem itemAt?_of_kept
    (frees : before.FreesFirst after freed)
    {item : Item}
    (kept : after.itemAt? index = some item) :
    before.itemAt? index = some item := by
  rw [← frees.itemAt?_eq index (by rw [keyAt?_of_itemAt? kept]; rfl), kept]

/-- An item is kept exactly if a slot that held it has a place that is not among the freed ones. -/
theorem mem_items_iff
    (frees : before.FreesFirst after freed)
    (sized : after.Sized)
    {item : Item} :
    item ∈ after.items ↔
      ∃ index,
        before.itemAt? index = some item ∧
        freed item.toKey (index / before.geometry.bucketDepth) ≤
          before.rank item.toKey index := by
  constructor
  · intro stored
    obtain ⟨index, _, held⟩ := List.mem_filterMap.mp stored
    have heldBefore := frees.itemAt?_of_kept held
    refine ⟨index, heldBefore, ?_⟩
    exact (frees.keyAt?_eq_some_iff (keyAt?_of_itemAt? heldBefore)).mp (keyAt?_of_itemAt? held)
  · rintro ⟨index, held, notFreed⟩
    have kept := (frees.keyAt?_eq_some_iff (keyAt?_of_itemAt? held)).mpr notFreed
    exact mem_items_of_itemAt? sized (frees.itemAt?_of_keyAt? held kept)

/-- Of two slots of a bucket that hold the same key, the lower one is freed first. -/
theorem itemAt?_of_lower
    (frees : before.FreesFirst after freed)
    {lower higher : Nat}
    {older younger : Item}
    (sameBucket : lower / before.geometry.bucketDepth = higher / before.geometry.bucketDepth)
    (below : lower < higher)
    (sameKey : older.toKey = younger.toKey)
    (held : before.itemAt? higher = some younger)
    (kept : after.itemAt? lower = some older) :
    after.itemAt? higher = some younger := by
  have heldLower := frees.itemAt?_of_kept kept
  refine frees.itemAt?_of_keyAt? held ((frees.keyAt?_eq_some_iff (keyAt?_of_itemAt? held)).mpr ?_)
  have notFreed := (frees.keyAt?_eq_some_iff (keyAt?_of_itemAt? heldLower)).mp
    (keyAt?_of_itemAt? kept)
  rw [sameBucket, sameKey] at notFreed
  refine notFreed.trans (Nat.le_of_lt (rank_lt_rank sameBucket below ?_ (keyAt?_of_itemAt? held)))
  rw [← sameKey]
  exact keyAt?_of_itemAt? heldLower

end FreesFirst

/-! ## One removal -/

/-- One slot freed for a key in a bucket, and none elsewhere. -/
def once (key : Key) (bucket : Nat) (other : Key) (place : Nat) : Nat :=
  if key = other ∧ place = bucket then 1 else 0

theorem sum_once (allowed : key.Allows bucket) (other : Key) :
    ∑ place ∈ other.buckets, once key bucket other place = if key = other then 1 else 0 := by
  by_cases same : key = other
  · subst same
    have member : bucket ∈ key.buckets := by
      rcases allowed with rfl | rfl <;> simp [Key.buckets]
    simp [once, member]
  · simp [once, same]

/-- Clearing the first of the slots of a bucket that hold a key frees that one. -/
theorem freesFirst_clear
    (sized : table.Sized)
    {later : List Nat}
    (slots : table.slotsOf bucket key = index :: later) :
    table.FreesFirst (table.clear index) (once key bucket) := by
  have inBucket : index ∈ table.slotsOf bucket key := slots ▸ List.mem_cons_self
  have held := (mem_slotsOf.mp inBucket).2
  have inside := lt_capacity_of_keyAt? sized held
  have elsewhere : ∀ {other place}, ¬(key = other ∧ place = bucket) →
      index ∉ table.slotsOf place other := by
    intro other place different member
    obtain ⟨rfl, holdsOther⟩ := mem_slotsOf.mp member
    obtain ⟨rfl, _⟩ := mem_slotsOf.mp inBucket
    exact different ⟨Option.some.inj (held.symm.trans holdsOther), rfl⟩
  refine ⟨rfl, ?_, ?_, ?_⟩
  · intro other place
    rw [once]
    split_ifs with here
    · obtain ⟨rfl, rfl⟩ := here
      rw [slots]
      exact Nat.succ_le_succ (Nat.zero_le _)
    · exact Nat.zero_le _
  · intro other place
    rw [slotsOf_clear sized inside, once]
    split_ifs with here
    · obtain ⟨rfl, rfl⟩ := here
      rw [slots, List.erase_cons_head, List.drop_one, List.tail_cons]
    · rw [List.erase_of_not_mem (elsewhere here), List.drop_zero]
  · intro other occupied
    refine itemAt?_clear_of_ne table ?_
    rintro rfl
    rw [← map_toKey_itemAt?, itemAt?_clear_self sized inside] at occupied
    cases occupied

variable [CoinSource G]

/-- A removal finds the first of the slots that hold the key in one of its buckets. -/
theorem exists_slotsOf_of_removalSlot?
    (found : table.removalSlot? key = some index) :
    ∃ bucket later, key.Allows bucket ∧ table.slotsOf bucket key = index :: later := by
  unfold removalSlot? at found
  cases checked : table.checkKey key with
  | error error =>
      rw [checked] at found
      cases found
  | ok =>
      rw [checked] at found
      rcases Option.or_eq_some_iff.mp found with first | ⟨_, second⟩
      · rw [slotOf?_eq_head?, List.head?_eq_some_iff] at first
        obtain ⟨later, slots⟩ := first
        exact ⟨_, later, key.allows_candidate _, slots⟩
      · rw [slotOf?_eq_head?, List.head?_eq_some_iff] at second
        obtain ⟨later, slots⟩ := second
        exact ⟨_, later, key.allows_otherBucket _, slots⟩

/-- A removal that succeeds frees one first slot of the key. -/
theorem freesFirst_remove
    {next : Table G}
    (sized : table.Sized)
    (removed : table.remove key = (true, next)) :
    ∃ bucket, key.Allows bucket ∧ table.FreesFirst next (once key bucket) := by
  cases found : table.removalSlot? key with
  | none =>
      rcases remove_of_no_slot found with refused | missed
      · rw [refused] at removed
        cases removed
      · rw [missed] at removed
        cases removed
  | some index =>
      rw [remove_of_slot found] at removed
      cases removed
      obtain ⟨bucket, later, allowed, slots⟩ := exists_slotsOf_of_removalSlot? found
      -- The coin leaves the slots alone.
      obtain ⟨sameGeometry, bounds, dropped, kept⟩ :=
        freesFirst_clear (sized.withCoins table.flip.2.coins) slots
      exact ⟨bucket, allowed, sameGeometry, bounds, dropped, kept⟩

end Table
end ObliviousLog
