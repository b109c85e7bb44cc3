import ObliviousLog.Event
import ObliviousLog.Shard.Scan

/-!
# Scan engines

A scan engine turns a table's bytes into a shard of some type.  An engine may fail, may build
something other than it was asked for, and may answer later calls differently: nothing is assumed of
it or of its shards, and what builds with it has to check what it gets.  A registry holds engines
under names.
-/

namespace ObliviousLog

/-- A type of shards: buckets from which reads are answered. -/
class ShardLike (S : Type) where
  /-- The number of buckets. -/
  numBuckets : S → Nat
  /-- The number of bytes in each bucket. -/
  bucketSize : S → Nat
  /-- The bytes of one bucket. -/
  bucket : S → (bucket : Nat) → Except Error Bytes
  /-- The answers to a batch of requests of `stride` bytes each. -/
  read : S → (requests : Bytes) → (stride : Nat) → Except Error Bytes

instance : ShardLike Shard where
  numBuckets := Shard.numBuckets
  bucketSize := Shard.bucketSize
  bucket := Shard.bucket
  read := Shard.read

/-- A builder of shards, with whatever state it carries from call to call. -/
class ScanEngine (E : Type) (S : outParam Type) where
  /-- Builds a shard of `numBuckets` buckets of `bucketSize` bytes each over `data`. -/
  build :
    E →
    (numBuckets bucketSize : Nat) →
    (data : Bytes) →
    Except Error S × E

instance : ScanEngine ScanMethod Shard where
  build method numBuckets bucketSize data :=
    (Shard.ofData method numBuckets bucketSize data, method)

namespace ScanMethod

/-- The text that stands for the engine of a method. -/
def description : ScanMethod → String
  | bytewise => "ByteShardBuilder"
  | wordwise => "WordShardBuilder"

end ScanMethod

/-- Engines under names, in the order of the names. -/
structure Registry (E : Type) where
  /-- The names with their engines. -/
  entries : List (String × E)

namespace Registry

variable {E : Type}

/-- The registry without engines. -/
def empty : Registry E :=
  ⟨[]⟩

/-- Enters a name in order, replacing an entry of the same name. -/
def enter (name : String) (engine : E) : List (String × E) → List (String × E)
  | [] => [(name, engine)]
  | entry :: rest =>
    if name = entry.1 then
      (name, engine) :: rest
    else if name < entry.1 then
      (name, engine) :: entry :: rest
    else
      entry :: enter name engine rest

/-- The engine under a name, if there is one. -/
def find? (registry : Registry E) (name : String) : Option E :=
  (registry.entries.find? fun entry => entry.1 == name).map Prod.snd

/-- The engine under a name. -/
def get (registry : Registry E) (name : String) : Except Error E :=
  match registry.find? name with
  | some engine => .ok engine
  | none => .error (.unknownEngine name)

/-- Registers an engine under a name, and hands back the engine it replaces. -/
def register (registry : Registry E) (name : String) (engine : E) : Option E × Registry E :=
  (registry.find? name, ⟨enter name engine registry.entries⟩)

/-- The names in order. -/
def names (registry : Registry E) : List String :=
  registry.entries.map Prod.fst

/-- The name of the engine that a replica uses unless told otherwise. -/
def defaultName : String := "cpu"

/-- The names and methods of the engines that are always at hand, in the order of registration. -/
def standardEngines : List (String × ScanMethod) :=
  [(defaultName, .bytewise), ("cpu64", .wordwise)]

/-- The registry of given engines, registered one after the other. -/
def ofList (engines : List (String × E)) : Registry E :=
  engines.foldl (fun registry entry => (registry.register entry.1 entry.2).2) empty

/-- The registry of the engines that are always at hand. -/
def standard : Registry ScanMethod :=
  ofList standardEngines

/-- What is told when given engines are registered one after the other. -/
def registrationEvents (engines : List (String × E)) : List Event :=
  engines.map fun entry => .engineRegistered entry.1

end Registry
end ObliviousLog
