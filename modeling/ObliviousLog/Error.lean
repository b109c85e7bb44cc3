import ObliviousLog.Item

/-!
# Errors

Every way in which an operation of the log can be refused is a cause of its own.  The wording of a
cause is decided in one place, by `Error.message`.
-/

namespace ObliviousLog

/-- Why sizes or parameters do not fit together. -/
inductive Misconfiguration where
  /-- A table has a dimension of zero. -/
  | emptyTable
  /-- The number of slots of a table does not fit in 64 bits. -/
  | tableCapacity
  /-- The number of bytes of a table does not fit in 64 bits. -/
  | tableSize
  /-- A payload is not as long as the table's slots. -/
  | payloadLength
  /-- A pad seed is not thirty-two bytes long. -/
  | padSeedLength
  /-- A shard has a dimension of zero. -/
  | emptyShard
  /-- A shard's bytes do not fill its buckets exactly. -/
  | shardLength
  /-- A request vector has fewer bits than the shard has buckets. -/
  | shortRequest
  /-- A batch is not a whole number of request vectors. -/
  | batchLength
  /-- Two request vectors address different numbers of buckets. -/
  | mismatchedVectors
  /-- A read is shared among fewer than two trust domains. -/
  | tooFewDomains
  /-- There is no response to combine. -/
  | noResponses
  /-- The responses to combine are not equally long. -/
  | responseLength
  /-- There are more or fewer responses than trust domains. -/
  | responseCount
  /-- A replica has a dimension of zero. -/
  | emptyReplica
  /-- A load factor is not above zero and at most one. -/
  | loadFactor
  /-- A request vector addresses a number of buckets that is not the replica's. -/
  | foreignVector
  /-- A fault that an engine outside this library words itself. -/
  | other (text : String)
deriving DecidableEq, Inhabited

namespace Misconfiguration

/-- The wording of a misconfiguration. -/
def text : Misconfiguration → String
  | emptyTable => "table dimensions must be nonzero"
  | tableCapacity => "table capacity overflows"
  | tableSize => "table size overflows"
  | payloadLength => "item data length does not match the table's item size"
  | padSeedLength => "pad seed has the wrong length"
  | emptyShard => "shard dimensions must be nonzero"
  | shardLength => "shard data length must equal num_buckets * bucket_size"
  | shortRequest => "request vector is shorter than one bit per bucket"
  | batchLength => "request batch length is not a multiple of the request vector length"
  | mismatchedVectors => "request vectors address different numbers of buckets"
  | tooFewDomains => "at least two trust domains are required"
  | noResponses => "no responses to combine"
  | responseLength => "responses differ in length"
  | responseCount => "expected exactly one response per trust domain"
  | emptyReplica => "replica dimensions must be nonzero"
  | loadFactor => "load factors must lie in (0, 1]"
  | foreignVector => "request vector does not match the replica's number of buckets"
  | other text => text

end Misconfiguration

/-- Why a table or shard cannot be used. -/
inductive BadState where
  /-- A scan engine answered with a shard of another shape than asked for. -/
  | shardGeometry
  /-- A fault that an engine outside this library words itself. -/
  | other (text : String)
deriving DecidableEq, Inhabited

namespace BadState

/-- The wording of a bad state. -/
def text : BadState → String
  | shardGeometry => "scan engine built a shard with the wrong geometry"
  | other text => text

end BadState

/-- Why an operation was refused. -/
inductive Error where
  /-- Sizes or parameters do not fit together. -/
  | invalidConfiguration (reason : Misconfiguration)
  /-- A bucket index is not below the number of buckets. -/
  | bucketOutOfBounds (bucket numBuckets : Nat)
  /-- The eviction budget ran out with `displaced` left without a slot. -/
  | capacity (displaced : Item)
  /-- A table or shard cannot be used. -/
  | state (reason : BadState)
  /-- No scan engine goes by this name. -/
  | unknownEngine (name : String)
  /-- A number does not fit the width it was meant for. -/
  | integerConversion
deriving DecidableEq, Inhabited

namespace Error

/-- The wording of an error. -/
def message : Error → String
  | invalidConfiguration reason => "Invalid configuration: " ++ reason.text
  | bucketOutOfBounds bucket numBuckets =>
    "Bucket " ++ toString bucket ++ " is out of bounds for a table of " ++ toString numBuckets ++
      " buckets"
  | capacity displaced =>
    "Cuckoo insert exhausted its eviction budget; item " ++ toString displaced.id.toNat ++
      " was displaced"
  | state reason => "Invalid state: " ++ reason.text
  | unknownEngine name => "Unknown scan backend: " ++ name
  | integerConversion => "Arithmetic error encountered."

/-- Two steps in a row succeed when the first does and the second does with its result. -/
theorem bind_eq_ok
    {α β : Type}
    {first : Except Error α}
    {next : α → Except Error β}
    {result : β} :
    (first >>= next) = .ok result ↔ ∃ value, first = .ok value ∧ next value = .ok result := by
  cases first with
  | error error => simp [bind, Except.bind]
  | ok value => simp [bind, Except.bind]

/-- Something is seen of the result of a step exactly when the step succeeds with such a result. -/
theorem toOption_map_eq_some
    {α β : Type}
    {step : Except Error α}
    {view : α → β}
    {seen : β} :
    (step.map view).toOption = some seen ↔ ∃ value, step = .ok value ∧ view value = seen := by
  cases step with
  | error error => simp [Except.map, Except.toOption]
  | ok value => simp [Except.map, Except.toOption]

theorem toOption_eq_some
    {α : Type}
    {step : Except Error α}
    {value : α} :
    step.toOption = some value ↔ step = .ok value := by
  cases step with
  | error error => simp [Except.toOption]
  | ok result => simp [Except.toOption]

end Error

/-- The byte with a given value, if there is one. -/
def byteOfNat (value : Nat) : Except Error UInt8 :=
  if value < 256 then .ok (UInt8.ofNat value) else .error .integerConversion

/-- Succeeds when `bucket` is one of `numBuckets` buckets. -/
def checkBucket (bucket numBuckets : Nat) : Except Error Unit :=
  if bucket < numBuckets then .ok () else .error (.bucketOutOfBounds bucket numBuckets)

end ObliviousLog
