import ObliviousLog.Proofs.Replica.History

/-!
# Refused writes leave no mark

Whether a write is refused is decided by the item and the dimensions of the configuration, before
housekeeping and before any coin is flipped.  A refused write changes nothing at all, and any other
is recorded.  So the refused writes of a session can be left out of it, and nobody can tell.
-/

namespace ObliviousLog

/-- The error with which the writes of an item are refused: the payload is checked first, and then
one bucket after the other. -/
inductive Config.Refuses (config : Config) (item : Item) : Error → Prop
  | payload (misfit : item.payload.length ≠ config.itemSize) :
      Refuses config item (.invalidConfiguration .payloadLength)
  | bucket1
      (fills : item.payload.length = config.itemSize)
      (outside : config.numBuckets ≤ item.bucket1) :
      Refuses config item (.bucketOutOfBounds item.bucket1 config.numBuckets)
  | bucket2
      (fills : item.payload.length = config.itemSize)
      (inside : item.bucket1 < config.numBuckets)
      (outside : config.numBuckets ≤ item.bucket2) :
      Refuses config item (.bucketOutOfBounds item.bucket2 config.numBuckets)

/-- A table with the dimensions of a configuration refuses what the configuration does. -/
theorem Config.Describes.check_eq_error_iff
    {G : Type}
    {config : Config}
    {table : Table G}
    (described : config.Describes table.geometry)
    {item : Item}
    {error : Error} :
    table.check item = .error error ↔ config.Refuses item error := by
  obtain ⟨sameBuckets, _, sameSize⟩ := described.dimensions
  unfold Table.check Table.checkKey checkBucket
  rw [← sameBuckets, ← sameSize]
  constructor
  · intro refused
    by_cases fills : item.payload.length = config.itemSize
    · rw [if_pos fills] at refused
      by_cases inside : item.bucket1 < config.numBuckets
      · rw [if_pos inside] at refused
        by_cases inside2 : item.bucket2 < config.numBuckets
        · rw [if_pos inside2] at refused
          cases refused
        · rw [if_neg inside2] at refused
          cases refused
          exact .bucket2 fills inside (Nat.le_of_not_lt inside2)
      · rw [if_neg inside] at refused
        cases refused
        exact .bucket1 fills (Nat.le_of_not_lt inside)
    · rw [if_neg fills] at refused
      cases refused
      exact .payload fills
  · intro refuses
    cases refuses with
    | payload misfit => rw [if_neg misfit]
    | bucket1 fills outside => rw [if_pos fills, if_neg (Nat.not_lt_of_le outside)]
    | bucket2 fills inside outside =>
        rw [if_pos fills, if_pos inside]
        exact if_neg (Nat.not_lt_of_le outside)

/-- A write that is accepted returns nothing or what it displaced. -/
theorem WriteReport.outcome_cases (report : WriteReport) :
    report.outcome = .ok () ∨ ∃ displaced, report.outcome = .error (.capacity displaced) := by
  rw [outcome]
  rcases report.placement.accepted_or_displaced with ⟨accepted, _⟩ | ⟨displaced, placed⟩
  · exact Or.inl accepted
  · exact Or.inr ⟨displaced, by rw [placed, Placement.outcome]⟩

namespace Session

/-- Whether an entry of a trace is a write that was refused. -/
def isRefusal : Call × Response → Bool
  | (.write _, .written (.error _)) => true
  | _ => false

end Session

namespace Replica

open Session

section

variable {G E S : Type} [CoinSource G] {replica : Replica G E S} {item : Item}

/-- A write returns an error of the check of its item, or it is accepted and then returns nothing or
what it displaced. -/
theorem write_outcome_eq_error_iff
    {error : Error}
    (noCapacityError : ∀ displaced, error ≠ .capacity displaced) :
    (replica.write item).1.bind WriteReport.outcome = .error error ↔
      replica.alternate.table.check item = .error error := by
  cases checked : replica.alternate.table.check item with
  | error reason =>
      rw [write_of_misfit checked]
      rfl
  | ok =>
      obtain ⟨report, _, _, written⟩ := write_of_fits checked
      rw [written]
      change report.outcome = .error error ↔ _
      rcases report.outcome_cases with accepted | ⟨displaced, placed⟩
      · rw [accepted]
      · rw [placed]
        refine ⟨fun same => ?_, fun same => nomatch same⟩
        cases same
        exact absurd rfl (noCapacityError displaced)

end

variable {G E S : Type} [CoinSource G] [ShardLike S] [ScanEngine E S]

/-- A call that is seen to be a refused write leaves the replica as it was. -/
theorem call_of_isRefusal
    {replica : Replica G E S}
    {call : Call}
    (refused : isRefusal (call, (replica.call call).1) = true) :
    (replica.call call).2 = replica := by
  cases call with
  | write item =>
      cases checked : replica.alternate.table.check item with
      | error error => rw [Replica.call, write_of_misfit checked]
      | ok =>
          obtain ⟨_, _, _, written⟩ := write_of_fits checked
          rw [Replica.call, written] at refused
          cases refused
  | _ => cases refused

/-- Without its refused writes a session ends as it does with them, and every other call is answered
alike. -/
theorem trace_without_refusals (replica : Replica G E S) (calls : List Call) :
    replica.trace (callsWithout isRefusal (replica.trace calls)) =
        without isRefusal (replica.trace calls) ∧
      replica.after calls = replica.after (callsWithout isRefusal (replica.trace calls)) := by
  refine trace_callsWithout isRefusal (fun (whole thinned : Replica G E S) _ => whole = thinned)
    ?_ ?_ rfl
  · rintro whole _ call _ rfl _
    exact ⟨rfl, rfl⟩
  · rintro whole _ call _ rfl refused
    exact call_of_isRefusal refused

/-- After any session with a freshly created replica, a write returns an error other than a lack of
room exactly when the configuration refuses its item, and with the same error.  The replica is then
what it was before, in all its parts.  Any other write is accepted and recorded, and returns nothing
or what it displaced.  So without its refused writes the session ends in the same state, where any
further question has the same answer, and all its other calls are answered alike. -/
theorem refused_writes_leave_no_mark
    {config : Config}
    {registry : Registry E}
    {fresh : Replica G E S}
    (created : create config registry = .ok fresh)
    (calls : List Call) :
    (∀ item error, (∀ displaced, error ≠ .capacity displaced) →
      (((fresh.after calls).write item).1.bind WriteReport.outcome = .error error ↔
        config.Refuses item error)) ∧
    (∀ item error, config.Refuses item error →
      (fresh.after calls).write item = (.error error, fresh.after calls)) ∧
    (∀ item, (∀ error, ¬config.Refuses item error) →
      ∃ report alternate,
        (fresh.after calls).write item =
          (.ok report, { fresh.after calls with
            alternate, pending := (fresh.after calls).pending ++ [item] }) ∧
        (report.outcome = .ok () ∨
          ∃ displaced, report.outcome = .error (.capacity displaced))) ∧
    fresh.after (callsWithout isRefusal (fresh.trace calls)) = fresh.after calls ∧
    fresh.trace (callsWithout isRefusal (fresh.trace calls)) =
      without isRefusal (fresh.trace calls) := by
  have described := describes_of_held created calls .alternate
  obtain ⟨sameTrace, sameEnd⟩ := fresh.trace_without_refusals calls
  refine ⟨?_, ?_, ?_, sameEnd.symm, sameTrace⟩
  · intro item error noCapacityError
    rw [write_outcome_eq_error_iff noCapacityError, described.check_eq_error_iff]
  · intro item error refuses
    exact write_of_misfit (described.check_eq_error_iff.mpr refuses)
  · intro item accepts
    cases checked : (fresh.after calls).alternate.table.check item with
    | error error => exact absurd (described.check_eq_error_iff.mp checked) (accepts error)
    | ok =>
        obtain ⟨report, alternate, _, written⟩ := write_of_fits checked
        exact ⟨report, alternate, written, report.outcome_cases⟩

/-- Two writes that fill two slots, three that are refused, and a flop. -/
def refusedCalls : List Call :=
  fillingCalls ++
    [.write ⟨⟨3, 0, 1⟩, [7, 7]⟩, .write ⟨⟨3, 2, 5⟩, [7]⟩, .write ⟨⟨3, 0, 5⟩, [7]⟩, .flop]

/-- A replica of two one-byte slots that is above its threshold refuses three writes. -/
theorem refused_writes_leave_no_mark_of_full :
    ∃ fresh : Replica ChaCha ScanMethod Shard,
      create (Config.ofDimensions 2 1 1) Registry.standard = .ok fresh ∧
      (Config.ofDimensions 2 1 1).overloaded (fresh.after fillingCalls).alternate.table.count =
        true ∧
      (fresh.after fillingCalls).write ⟨⟨3, 2, 5⟩, [7]⟩ =
        (.error (.bucketOutOfBounds 2 2), fresh.after fillingCalls) ∧
      fresh.after (fillingCalls ++ [.flop]) = fresh.after refusedCalls := by
  have evaluated :
      ((create (Config.ofDimensions 2 1 1) Registry.standard :
          Except Error (Replica ChaCha ScanMethod Shard)).map fun fresh =>
        ((fresh.after fillingCalls).alternate.table.count,
          callsWithout isRefusal (fresh.trace refusedCalls))).toOption =
        some (2, fillingCalls ++ [.flop]) := by
    decide +kernel
  have above : (Config.ofDimensions 2 1 1).overloaded 2 = true := by decide +kernel
  obtain ⟨fresh, created, seen⟩ := Error.toOption_map_eq_some.mp evaluated
  obtain ⟨two, kept⟩ := Prod.mk.inj seen
  obtain ⟨_, unchanged, _⟩ := refused_writes_leave_no_mark created fillingCalls
  obtain ⟨_, _, _, sameEnd, _⟩ := refused_writes_leave_no_mark created refusedCalls
  rw [kept] at sameEnd
  refine ⟨fresh, created, ?_, unchanged _ _ ?_, sameEnd⟩
  · rw [two]
    exact above
  · exact .bucket1 rfl (Nat.le_refl 2)

end Replica
end ObliviousLog
