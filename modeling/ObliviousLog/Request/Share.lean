import ObliviousLog.Pad.Seed
import ObliviousLog.Request.Vector

/-!
# Sharing a read

To read a bucket from several trust domains a reader draws a random vector for each of them but the
first, which gets the vector of the wanted bucket combined with all random ones.  Any domains short
of all see random vectors only, and all vectors combine to the wanted one.  A share carries besides
its vector the seed of the pad that hides the domain's response from everyone else.
-/

namespace ObliviousLog

/-- What one trust domain learns of a read. -/
structure ReadShare where
  /-- The domain's share of the request. -/
  vector : RequestVector
  /-- The seed of the pad that the domain lays on its response. -/
  padSeed : PadSeed
deriving DecidableEq

namespace ReadShare

/-- The text that stands for a share without revealing its request or its pad. -/
def redacted (share : ReadShare) : String :=
  "ReadArgs \x7b request_vector: " ++ share.vector.redacted ++ ", pad_seed: " ++
    PadSeed.redacted ++ " \x7d"

/-- The share that asks for the sum of the given buckets. -/
def ofPositions
    (numBuckets : Nat)
    (positions : List Nat)
    (seed : Bytes) : Except Error ReadShare := do
  let vector ← RequestVector.ofPositions numBuckets positions
  let padSeed ← PadSeed.ofBytes? seed
  return { vector, padSeed }

/-- Pairs each vector with a freshly drawn pad seed. -/
def attachSeeds {R : Type} [ByteSource R] :
    List RequestVector → R → List ReadShare × R
  | [], source => ([], source)
  | vector :: vectors, source =>
    let (padSeed, source) := PadSeed.draw source
    let (shares, source) := attachSeeds vectors source
    ({ vector, padSeed } :: shares, source)

end ReadShare

variable {R : Type} [ByteSource R]

/-- Splits the request for a bucket into one vector for each domain.  Fewer than two domains are
refused before a bucket that does not exist, and a refusal draws nothing. -/
def shareRequest
    (target numDomains numBuckets : Nat)
    (source : R) : Except Error (List RequestVector) × R :=
  if numDomains < 2 then
    (.error (.invalidConfiguration .tooFewDomains), source)
  else
    match RequestVector.unit target numBuckets with
    | .error error => (.error error, source)
    | .ok wanted =>
      let (masks, source) := RequestVector.drawMany numBuckets (numDomains - 1) source
      ((masks.foldlM RequestVector.xor wanted).map (· :: masks), source)

/-- Splits a read of a bucket into one share for each domain.  All vectors are drawn before the
first pad seed. -/
def shareRead
    (target numDomains numBuckets : Nat)
    (source : R) : Except Error (List ReadShare) × R :=
  match shareRequest target numDomains numBuckets source with
  | (.error error, source) => (.error error, source)
  | (.ok vectors, source) =>
    let (shares, source) := ReadShare.attachSeeds vectors source
    (.ok shares, source)

end ObliviousLog
