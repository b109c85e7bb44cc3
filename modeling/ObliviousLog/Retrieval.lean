import ObliviousLog.Replica.Read

/-!
# Private retrieval

A reader retrieves a bucket from several replicas, each in a trust domain of its own: the read is
shared among the domains, each domain answers its share alone, and the responses are combined.
-/

namespace ObliviousLog

/-- What passed between a reader and the domains. -/
structure Transcript where
  /-- The shares, one for each domain. -/
  shares : List ReadShare
  /-- The responses, one from each domain. -/
  responses : List Bytes
  /-- The recovered bucket. -/
  bucket : Bytes
deriving DecidableEq

variable {G E S R : Type} [ShardLike S] (C : Type) [BlockCipher C]

/-- A domain's response to its own share. -/
def respond (domain : Replica G E S) (share : ReadShare) : Except Error Bytes :=
  (domain.batchReadPadded C [share]).map fun responses => responses.headD []

/-- Retrieves a bucket from all domains together.  The number of buckets is the first domain's. -/
def retrieve
    [ByteSource R]
    (domains : List (Replica G E S))
    (target : Nat)
    (source : R) : Except Error Transcript × R :=
  let numBuckets := (domains.head?.map fun domain => domain.config.numBuckets).getD 0
  let (shared, source) := shareRead target domains.length numBuckets source
  let transcript := do
    let shares ← shared
    let responses ← (domains.zip shares).mapM fun (domain, share) => respond C domain share
    let bucket ← recoverBucket C shares responses
    return { shares, responses, bucket }
  (transcript, source)

end ObliviousLog
