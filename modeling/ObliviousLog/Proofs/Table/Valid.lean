import ObliviousLog.Proofs.Table.Slots

/-!
# Valid tables

A table is valid when its arrays have the lengths its geometry asks for, every stored key names two
existing buckets and sits in one of them, and every free slot is wiped.  The empty table is valid,
and putting an item that fits into one of its own buckets or clearing a slot keeps a table valid.
-/

namespace ObliviousLog

namespace Key

/-- Whether a bucket is one of the two candidate buckets of a key. -/
def Allows (key : Key) (bucket : Nat) : Prop :=
  bucket = key.bucket1 ∨ bucket = key.bucket2

theorem allows_candidate (key : Key) (heads : Bool) :
    key.Allows (key.candidate heads) := by
  cases heads
  · exact Or.inr rfl
  · exact Or.inl rfl

theorem allows_otherBucket (key : Key) (bucket : Nat) :
    key.Allows (key.otherBucket bucket) := by
  unfold otherBucket
  by_cases first : bucket = key.bucket1
  · rw [if_pos first]
    exact Or.inr rfl
  · rw [if_neg first]
    exact Or.inl rfl

end Key

namespace Table

variable {G : Type}

/-- What holds of every table that insertions and removals build. -/
structure Valid (table : Table G) : Prop extends Sized table where
  bucket1_lt :
    ∀ {index key}, table.keyAt? index = some key → key.bucket1 < table.geometry.numBuckets
  bucket2_lt :
    ∀ {index key}, table.keyAt? index = some key → key.bucket2 < table.geometry.numBuckets
  home :
    ∀ {index key}, table.keyAt? index = some key →
      key.Allows (index / table.geometry.bucketDepth)
  blank :
    ∀ {index : Nat} {slot}, table.slots[index]? = some slot → slot.filled = false →
      slot = Slot.free
  wiped :
    ∀ {index}, index < table.geometry.capacity → table.keyAt? index = none →
      table.payloadAt index = Bytes.zeros table.geometry.itemSize

/-- A key passes when both of its buckets exist. -/
theorem checkKey_eq_ok_iff (table : Table G) (key : Key) :
    table.checkKey key = .ok () ↔
      key.bucket1 < table.geometry.numBuckets ∧ key.bucket2 < table.geometry.numBuckets := by
  unfold checkKey checkBucket
  by_cases first : key.bucket1 < table.geometry.numBuckets
  · by_cases second : key.bucket2 < table.geometry.numBuckets
    · simp [first, second]
    · simp [first, second]
  · simp [first]

/-- An item fits a table when its payload fills a slot and both of its buckets exist. -/
theorem check_eq_ok_iff (table : Table G) (item : Item) :
    table.check item = .ok () ↔
      item.payload.length = table.geometry.itemSize ∧
        item.bucket1 < table.geometry.numBuckets ∧
        item.bucket2 < table.geometry.numBuckets := by
  unfold check
  by_cases fills : item.payload.length = table.geometry.itemSize
  · rw [if_pos fills, checkKey_eq_ok_iff, and_iff_right fills]
  · simp [fills]

/-- The check of an item reports no lack of room. -/
theorem check_ne_capacity (table : Table G) (item displaced : Item) :
    table.check item ≠ .error (.capacity displaced) := by
  unfold check checkKey checkBucket
  grind

/-- The candidate buckets of a key that passes exist. -/
theorem lt_numBuckets_of_checkKey
    {table : Table G}
    {key : Key}
    (passes : table.checkKey key = .ok ())
    {bucket : Nat}
    (allowed : key.Allows bucket) :
    bucket < table.geometry.numBuckets := by
  obtain ⟨first, second⟩ := (table.checkKey_eq_ok_iff key).mp passes
  rcases allowed with rfl | rfl
  · exact first
  · exact second

/-- A bucket that a fitting item may live in exists. -/
theorem lt_numBuckets_of_allows
    {table : Table G}
    {item : Item}
    (fits : table.check item = .ok ())
    {bucket : Nat}
    (allowed : item.Allows bucket) :
    bucket < table.geometry.numBuckets := by
  obtain ⟨_, exist⟩ := (table.check_eq_ok_iff item).mp fits
  exact lt_numBuckets_of_checkKey ((table.checkKey_eq_ok_iff item.toKey).mpr exist) allowed

/-- Every slot of the empty table is free. -/
theorem keyAt?_empty [CoinSource G] (geometry : Geometry) (seed : UInt64) (index : Nat) :
    (empty geometry seed : Table G).keyAt? index = none := by
  change (Array.replicate geometry.capacity Slot.free)[index]?.bind Slot.key? = none
  rw [Array.getElem?_replicate]
  by_cases inside : index < geometry.capacity
  · rw [if_pos inside, Option.bind_some, Slot.key?_free]
  · rw [if_neg inside, Option.bind_none]

/-- Every slot of the empty table is wiped. -/
theorem payloadAt_empty [CoinSource G]
    (geometry : Geometry)
    (seed : UInt64)
    {index : Nat}
    (inside : index < geometry.capacity) :
    (empty geometry seed : Table G).payloadAt index = Bytes.zeros geometry.itemSize := by
  have bounded := geometry.slot_le_size inside
  change ((Array.replicate geometry.size (0 : UInt8)).extract (index * geometry.itemSize)
    (index * geometry.itemSize + geometry.itemSize)).toList = Bytes.zeros geometry.itemSize
  rw [Array.extract_replicate, Array.toList_replicate, Nat.min_eq_left bounded,
    Nat.add_sub_cancel_left, Bytes.zeros]

theorem valid_empty [CoinSource G] (geometry : Geometry) (seed : UInt64) :
    (empty geometry seed : Table G).Valid where
  size_slots := Array.size_replicate
  size_buffer := Array.size_replicate
  bucket1_lt := fun occupied => nomatch (keyAt?_empty geometry seed _).symm.trans occupied
  bucket2_lt := fun occupied => nomatch (keyAt?_empty geometry seed _).symm.trans occupied
  home := fun occupied => nomatch (keyAt?_empty geometry seed _).symm.trans occupied
  blank := fun found _ => (Array.mem_replicate.mp (Array.mem_of_getElem? found)).2
  wiped := fun inside _ => payloadAt_empty geometry seed inside

namespace Valid

variable {table : Table G}

/-- Validity does not depend on the generator. -/
theorem withCoins (valid : table.Valid) (coins : G) : (table.withCoins coins).Valid :=
  { valid with }

/-- Putting a fitting item into a slot of one of its buckets keeps a table valid. -/
theorem put
    (valid : table.Valid)
    {item : Item}
    (fits : table.check item = .ok ())
    {index : Nat}
    (allowed : item.Allows (index / table.geometry.bucketDepth)) :
    (table.put index item).Valid := by
  obtain ⟨fills, first, second⟩ := (table.check_eq_ok_iff item).mp fits
  have inside : index < table.geometry.capacity :=
    (table.geometry.lt_capacity_iff index).mpr (lt_numBuckets_of_allows fits allowed)
  have keyAtSelf : (table.put index item).keyAt? index = some item.toKey :=
    keyAt?_assign_self valid.toSized inside (.holding item.toKey) item.payload
  refine
    { valid.toSized.assign index (.holding item.toKey) item.payload with
      bucket1_lt := ?_, bucket2_lt := ?_, home := ?_, blank := ?_, wiped := ?_ }
  · intro other key occupied
    by_cases same : other = index
    · subst same
      cases keyAtSelf.symm.trans occupied
      exact first
    · exact valid.bucket1_lt ((keyAt?_assign_of_ne table same _ _).symm.trans occupied)
  · intro other key occupied
    by_cases same : other = index
    · subst same
      cases keyAtSelf.symm.trans occupied
      exact second
    · exact valid.bucket2_lt ((keyAt?_assign_of_ne table same _ _).symm.trans occupied)
  · intro other key occupied
    by_cases same : other = index
    · subst same
      cases keyAtSelf.symm.trans occupied
      exact allowed
    · exact valid.home ((keyAt?_assign_of_ne table same _ _).symm.trans occupied)
  · intro other slot found unfilled
    rcases getElem?_slots_assign found with rfl | before
    · cases unfilled
    · exact valid.blank before unfilled
  · intro other otherInside free
    by_cases same : other = index
    · subst same
      exact nomatch keyAtSelf.symm.trans free
    · exact (payloadAt_assign_of_ne table same _ fills).trans
        (valid.wiped otherInside ((keyAt?_assign_of_ne table same _ _).symm.trans free))

/-- Clearing an existing slot keeps a table valid. -/
theorem clear
    (valid : table.Valid)
    {index : Nat}
    (inside : index < table.geometry.capacity) :
    (table.clear index).Valid := by
  have zeros := Bytes.length_zeros table.geometry.itemSize
  have keyAtSelf : (table.clear index).keyAt? index = none :=
    keyAt?_assign_self valid.toSized inside .free (Bytes.zeros table.geometry.itemSize)
  -- An occupied slot is not the cleared one, so its key was there before.
  have occupiedBefore :
      ∀ {other key}, (table.clear index).keyAt? other = some key →
        table.keyAt? other = some key := by
    intro other key occupied
    by_cases same : other = index
    · subst same
      exact nomatch keyAtSelf.symm.trans occupied
    · exact (keyAt?_assign_of_ne table same _ _).symm.trans occupied
  refine
    { valid.toSized.assign index .free (Bytes.zeros table.geometry.itemSize) with
      bucket1_lt := fun occupied => valid.bucket1_lt (occupiedBefore occupied)
      bucket2_lt := fun occupied => valid.bucket2_lt (occupiedBefore occupied)
      home := fun occupied => valid.home (occupiedBefore occupied)
      blank := fun found unfilled =>
        (getElem?_slots_assign found).elim id fun before => valid.blank before unfilled
      wiped := ?_ }
  intro other otherInside free
  by_cases same : other = index
  · subst same
    exact payloadAt_assign_self valid.toSized otherInside .free zeros
  · exact (payloadAt_assign_of_ne table same _ zeros).trans
      (valid.wiped otherInside ((keyAt?_assign_of_ne table same _ _).symm.trans free))

end Valid
end Table
end ObliviousLog
