import ObliviousLog.Numeric.Binary64
import ObliviousLog.Shard.Engine
import ObliviousLog.Table.Geometry

/-!
# Configurations

A configuration names the dimensions of a replica's tables, the seed of their generators, the load
factors that keep them from filling up, and the scan engine.  It is plain data: whether it describes
a usable replica is decided by `Config.validate`.
-/

namespace ObliviousLog

/-- The parameters of a replica. -/
structure Config where
  /-- The number of buckets in each table. -/
  numBuckets : Nat
  /-- The number of slots in each bucket. -/
  bucketDepth : Nat
  /-- The number of bytes in each payload. -/
  itemSize : Nat
  /-- The seed of both tables' generators. -/
  seed : UInt64
  /-- The fraction of the capacity above which a write first removes the oldest entries. -/
  maxLoadFactor : Binary64
  /-- The fraction of the capacity that such a removal takes away. -/
  loadFactorStep : Binary64
  /-- The name of the scan engine. -/
  engine : String
deriving DecidableEq

namespace Config

/-- The load factor bound of a configuration that names none. -/
def defaultMaxLoadFactor : Binary64 :=
  Binary64.ofRatio 95 100

/-- The load factor step of a configuration that names none. -/
def defaultLoadFactorStep : Binary64 :=
  Binary64.ofRatio 5 100

/-- The configuration with given dimensions and defaults for all else. -/
def ofDimensions (numBuckets bucketDepth itemSize : Nat) : Config where
  numBuckets := numBuckets
  bucketDepth := bucketDepth
  itemSize := itemSize
  seed := 0
  maxLoadFactor := defaultMaxLoadFactor
  loadFactorStep := defaultLoadFactorStep
  engine := Registry.defaultName

/-- Whether two configurations agree in every parameter, load factors being compared as numbers. -/
def agrees (left right : Config) : Bool :=
  left.numBuckets == right.numBuckets && left.bucketDepth == right.bucketDepth &&
    left.itemSize == right.itemSize && left.seed == right.seed &&
    left.maxLoadFactor.equal right.maxLoadFactor &&
    left.loadFactorStep.equal right.loadFactorStep && left.engine == right.engine

/-- The largest count, in place of one that does not fit in 64 bits. -/
def saturate (count : Nat) : Nat :=
  min count (countLimit - 1)

/-- The number of slots in each table. -/
def capacity (config : Config) : Nat :=
  saturate (config.numBuckets * config.bucketDepth)

/-- The number of bytes in each bucket. -/
def bucketSize (config : Config) : Nat :=
  saturate (config.bucketDepth * config.itemSize)

/-- The number of bytes in a request vector. -/
def requestLength (config : Config) : Nat :=
  Bytes.forBits config.numBuckets

/-- The number of entries above which housekeeping runs. -/
def evictionThreshold (config : Config) : Binary64 :=
  Binary64.ofNat config.capacity * config.maxLoadFactor

/-- Whether a number of live entries lies above the threshold. -/
def overloaded (config : Config) (count : Nat) : Bool :=
  config.evictionThreshold.lt (Binary64.ofNat count)

/-- The number of entries that housekeeping removes: at least one. -/
def evictionCount (config : Config) : Nat :=
  max (Binary64.ofNat config.capacity * config.loadFactorStep).floorCount 1

/-- Whether a load factor is above zero and at most one. -/
def isLoadFactor (factor : Binary64) : Bool :=
  Binary64.zero.lt factor && factor.le Binary64.one

/-- Succeeds when a configuration describes a usable replica; dimensions are checked first. -/
def validate (config : Config) : Except Error Unit :=
  if config.numBuckets = 0 ∨ config.bucketDepth = 0 ∨ config.itemSize = 0 then
    .error (.invalidConfiguration .emptyReplica)
  else if isLoadFactor config.maxLoadFactor && isLoadFactor config.loadFactorStep then
    .ok ()
  else
    .error (.invalidConfiguration .loadFactor)

end Config
end ObliviousLog
