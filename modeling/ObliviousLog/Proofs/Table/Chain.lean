import ObliviousLog.Proofs.Table.Valid

/-!
# Insertions step by step

An insertion carries an item towards a bucket.  Either the bucket has a free slot, which ends the
insertion, or the carried item takes the slot of a victim and the victim is carried on.  Whatever
every such eviction keeps holds at the end of the insertion, where either the last carried item is
put into a free slot or the budget is exhausted and the last carried item is handed back.
-/

namespace ObliviousLog
namespace Table

variable {G : Type}

/-! ## Free slots -/

/-- A free slot that was found lies in the bucket and holds nothing. -/
theorem free_of_freeSlot?_eq_some
    {table : Table G}
    {bucket index : Nat}
    (found : table.freeSlot? bucket = some index) :
    index / table.geometry.bucketDepth = bucket ∧ table.keyAt? index = none := by
  unfold freeSlot? at found
  have member := List.mem_of_find?_eq_some found
  have free := List.find?_some found
  exact ⟨(table.geometry.mem_bucketSlots bucket index).mp member,
    Option.isNone_iff_eq_none.mp free⟩

/-- In a bucket without a free slot every slot is occupied. -/
theorem occupied_of_freeSlot?_eq_none
    {table : Table G}
    {bucket index : Nat}
    (full : table.freeSlot? bucket = none)
    (member : index / table.geometry.bucketDepth = bucket) :
    ∃ key, table.keyAt? index = some key := by
  have notFree := List.find?_eq_none.mp full index
    ((table.geometry.mem_bucketSlots bucket index).mpr member)
  rw [Option.isNone_iff_eq_none] at notFree
  exact Option.ne_none_iff_exists'.mp notFree

/-! ## Carrying an item -/

/-- A valid table together with an item that fits it and is carried to one of its own buckets. -/
structure Carries (table : Table G) (target : Nat) (carried : Item) : Prop where
  valid : table.Valid
  fits : table.check carried = .ok ()
  allowed : carried.Allows target

/-- What a valid table stores fits it. -/
theorem Valid.fits_of_itemAt?
    {table : Table G}
    (valid : table.Valid)
    {index : Nat}
    {item : Item}
    (held : table.itemAt? index = some item) :
    table.check item = .ok () := by
  obtain ⟨key, occupied, rfl⟩ := Option.map_eq_some_iff.mp held
  rw [check_eq_ok_iff]
  exact ⟨length_payloadAt valid.toSized (lt_capacity_of_keyAt? valid.toSized occupied),
    valid.bucket1_lt occupied, valid.bucket2_lt occupied⟩

namespace Carries

variable {table : Table G} {target : Nat} {carried : Item}

theorem target_lt (carries : table.Carries target carried) :
    target < table.geometry.numBuckets :=
  lt_numBuckets_of_allows carries.fits carries.allowed

/-- A slot of the target bucket exists. -/
theorem slot_lt
    (carries : table.Carries target carried)
    {index : Nat}
    (member : index / table.geometry.bucketDepth = target) :
    index < table.geometry.capacity := by
  rw [Geometry.lt_capacity_iff, member]
  exact carries.target_lt

theorem withCoins
    (carries : table.Carries target carried)
    (coins : G) :
    (table.withCoins coins).Carries target carried :=
  ⟨carries.valid.withCoins coins, carries.fits, carries.allowed⟩

/-- Putting the carried item into a slot of the target bucket keeps the table valid. -/
theorem put
    (carries : table.Carries target carried)
    {index : Nat}
    (member : index / table.geometry.bucketDepth = target) :
    (table.put index carried).Valid :=
  carries.valid.put carries.fits (member.symm ▸ carries.allowed)

/-- In a full bucket every slot holds an item. -/
theorem exists_victim
    (_ : table.Carries target carried)
    (full : table.freeSlot? target = none)
    {index : Nat}
    (member : index / table.geometry.bucketDepth = target) :
    ∃ victim, table.itemAt? index = some victim := by
  obtain ⟨key, occupied⟩ := occupied_of_freeSlot?_eq_none full member
  exact ⟨{ key with payload := table.payloadAt index }, by rw [itemAt?, occupied, Option.map_some]⟩

end Carries

/-! ## One eviction -/

variable [CoinSource G]

/-- The slot that an eviction from a bucket picks. -/
def victimSlot (table : Table G) (target : Nat) : Nat :=
  (table.pickSlot target).1

/-- The table after the carried item took the slot that was picked. -/
def evict (table : Table G) (target : Nat) (carried : Item) : Table G :=
  (table.pickSlot target).2.put (table.victimSlot target) carried

theorem victimSlot_mem (table : Table G) (target : Nat) :
    table.victimSlot target / table.geometry.bucketDepth = target :=
  table.pickSlot_mem target

/-- An eviction hands the victim on to the other one of its buckets. -/
theorem Carries.evict
    {table : Table G}
    {target : Nat}
    {carried victim : Item}
    (carries : table.Carries target carried)
    (held : table.itemAt? (table.victimSlot target) = some victim) :
    (table.evict target carried).Carries (victim.otherBucket target) victim where
  valid :=
    (carries.withCoins (table.pickSlot target).2.coins).put (table.victimSlot_mem target)
  fits := carries.valid.fits_of_itemAt? held
  allowed := victim.allows_otherBucket target

theorem relocate_of_free
    {table : Table G}
    {target index : Nat}
    (found : table.freeSlot? target = some index)
    (budget evictions : Nat)
    (carried : Item) :
    relocate (budget + 1) evictions target carried table =
      (.relocated evictions, table.put index carried) := by
  rw [relocate, found]

theorem relocate_of_full
    {table : Table G}
    {target : Nat}
    {victim : Item}
    (full : table.freeSlot? target = none)
    (held : table.itemAt? (table.victimSlot target) = some victim)
    (budget evictions : Nat)
    (carried : Item) :
    relocate (budget + 1) evictions target carried table =
      relocate budget (evictions + 1) (victim.otherBucket target) victim
        (table.evict target carried) := by
  have picked : (table.pickSlot target).2.itemAt? (table.pickSlot target).1 = some victim := held
  rw [relocate, full]
  simp only [picked]
  rfl

/-! ## Whole insertions -/

/-- How an insertion can end whose evictions keep an invariant of the table, the bucket aimed at
and the carried item: the item goes into a free slot, or it is handed back. -/
inductive Ends (Invariant : Table G → Nat → Item → Prop) : Placement × Table G → Prop
  | placed {table : Table G} {target index : Nat} {carried : Item} {placement : Placement}
      (carries : table.Carries target carried)
      (kept : Invariant table target carried)
      (found : table.freeSlot? target = some index)
      (accepted : placement.outcome = .ok ()) :
      Ends Invariant (placement, table.put index carried)
  | displaced {table : Table G} {target : Nat} {carried : Item}
      (carries : table.Carries target carried)
      (kept : Invariant table target carried) :
      Ends Invariant (.displaced carried, table)

/-- Every eviction from a full bucket keeps an invariant. -/
def KeptByEvictions (Invariant : Table G → Nat → Item → Prop) : Prop :=
  ∀ {table : Table G} {target : Nat} {carried victim : Item},
    table.Carries target carried →
    table.freeSlot? target = none →
    table.itemAt? (table.victimSlot target) = some victim →
    Invariant table target carried →
    Invariant (table.evict target carried) (victim.otherBucket target) victim

theorem relocate_ends
    {Invariant : Table G → Nat → Item → Prop}
    (keeps : KeptByEvictions Invariant)
    (budget evictions : Nat)
    {table : Table G}
    {target : Nat}
    {carried : Item}
    (carries : table.Carries target carried)
    (start : Invariant table target carried) :
    Ends Invariant (relocate budget evictions target carried table) := by
  induction budget generalizing evictions table target carried with
  | zero => exact .displaced carries start
  | succ budget inductionHypothesis =>
      cases found : table.freeSlot? target with
      | some index =>
          rw [relocate_of_free found]
          exact .placed carries start found rfl
      | none =>
          obtain ⟨victim, held⟩ := carries.exists_victim found (table.victimSlot_mem target)
          rw [relocate_of_full found held]
          exact inductionHypothesis (evictions + 1) (carries.evict held)
            (keeps carries found held start)

/-- What holds of an item that fits, aimed at either of its buckets, and is kept by every eviction
holds at the end of its insertion. -/
theorem place_ends
    {Invariant : Table G → Nat → Item → Prop}
    (keeps : KeptByEvictions Invariant)
    {table : Table G}
    (valid : table.Valid)
    {item : Item}
    (fits : table.check item = .ok ())
    (start : ∀ bucket, item.Allows bucket → Invariant table.flip.2 bucket item) :
    Ends Invariant (table.place item) := by
  have carries : ∀ bucket, item.Allows bucket → table.flip.2.Carries bucket item :=
    fun bucket allowed => ⟨valid.withCoins _, fits, allowed⟩
  unfold place
  generalize heads : table.flip.1 = side
  have first := item.allows_candidate side
  have second := item.allows_otherBucket (item.candidate side)
  simp only [heads]
  cases found : table.flip.2.freeSlot? (item.candidate side) with
  | some index => exact .placed (carries _ first) (start _ first) found rfl
  | none => exact relocate_ends keeps maxEvictions 0 (carries _ second) (start _ second)

end Table
end ObliviousLog
