import ObliviousLog.Pad.Aes
import ObliviousLog.Proofs.Replica.Padded
import ObliviousLog.Proofs.Replica.Writes
import ObliviousLog.Proofs.Request.Recovery
import ObliviousLog.Proofs.Request.Sharing
import ObliviousLog.Proofs.Table.Buckets
import ObliviousLog.Retrieval
import Mathlib.Data.List.OfFn

/-!
# Retrieval is exact

When the domains' active snapshots agree, what a reader recovers from their responses is the wanted
bucket of that snapshot.  The pads come off, the answers add up to the answer to the sum of the
requests, and that sum has a single bit.  The snapshots of domains that differ in nothing but their
engine agree as soon as the same writes have been published.
-/

namespace ObliviousLog

namespace Table

variable {G : Type} {table : Table G}

/-- What the vector of a share selects from a table. -/
def answer (table : Table G) (share : ReadShare) : Bytes :=
  table.data.selected table.geometry.bucketSize table.geometry.numBuckets share.vector.bits

/-- The answers to shares that add up to a single bucket combine to that bucket. -/
theorem combineResponses_answers
    (sized : table.Sized)
    {shares : List ReadShare}
    (nonempty : shares ≠ [])
    (sameVectors : ∀ share ∈ shares, share.vector.numBuckets = table.geometry.numBuckets)
    {target : Nat}
    (inside : target < table.geometry.numBuckets)
    (singleBit : ∀ index,
      (Bytes.sum (Bytes.forBits table.geometry.numBuckets)
        (shares.map fun share => share.vector.bits)).bit index = (index == target)) :
    combineResponses (shares.map table.answer) = table.bucket target := by
  have fills := length_data sized
  have answersSized :
      ∀ response ∈ shares.map table.answer, response.length = table.geometry.bucketSize := by
    intro response member
    obtain ⟨share, _, rfl⟩ := List.mem_map.mp member
    exact Bytes.length_selected fills share.vector.bits
  have vectorsSized :
      ∀ request ∈ shares.map fun share => share.vector.bits,
        request.length = Bytes.forBits table.geometry.numBuckets := by
    intro request member
    obtain ⟨share, memberShare, rfl⟩ := List.mem_map.mp member
    rw [share.vector.length_bits, sameVectors share memberShare]
  calc
    combineResponses (shares.map table.answer)
      = .ok (Bytes.sum table.geometry.bucketSize (shares.map table.answer)) :=
        combineResponses_of_sized (mt List.map_eq_nil_iff.mp nonempty) answersSized
    _ = .ok (table.data.selected table.geometry.bucketSize table.geometry.numBuckets
          (Bytes.sum (Bytes.forBits table.geometry.numBuckets)
            (shares.map fun share => share.vector.bits))) := by
        rw [(Bytes.linear_selected fills _).image_sum vectorsSized, List.map_map]
        rfl
    _ = table.bucket target := by
        rw [Bytes.selected_of_single fills inside fun index _ => singleBit index,
          bucket_of_lt inside]

end Table

namespace Replica

/-! ## The steps of a retrieval -/

section

variable {G E S R : Type} [ShardLike S] [ByteSource R] (C : Type) [BlockCipher C]

/-- Each domain responds to its own share with the response to the batch of that share. -/
theorem mapM_respond
    {numDomains : Nat}
    {domains : Fin numDomains → Replica G E S}
    {shares : Fin numDomains → ReadShare}
    {responses : Fin numDomains → Bytes}
    (answered : ∀ index,
      (domains index).batchReadPadded C [shares index] = .ok [responses index]) :
    (((List.ofFn domains).zip (List.ofFn shares)).mapM fun entry =>
        respond C entry.1 entry.2) =
      .ok (List.ofFn responses) := by
  induction numDomains with
  | zero => rfl
  | succ numDomains inductionHypothesis =>
      have later := inductionHypothesis fun index => answered index.succ
      have first : respond C (domains 0) (shares 0) = .ok (responses 0) := by
        rw [respond, answered 0]
        rfl
      rw [List.ofFn_succ, List.ofFn_succ, List.ofFn_succ, List.zip_cons_cons, List.mapM_cons,
        first, later]
      rfl

/-- A retrieval shares the read, has each domain answer its share, and recovers the bucket. -/
theorem retrieve_eq
    {numDomains numBuckets target : Nat}
    (notNone : 0 < numDomains)
    {domains : Fin numDomains → Replica G E S}
    (sameNumber : ∀ index, (domains index).config.numBuckets = numBuckets)
    {source rest : R}
    {shares : Fin numDomains → ReadShare}
    (shared : shareRead target numDomains numBuckets source = (.ok (List.ofFn shares), rest))
    {responses : Fin numDomains → Bytes}
    (answered : ∀ index,
      (domains index).batchReadPadded C [shares index] = .ok [responses index])
    {bucket : Bytes}
    (recovered : recoverBucket C (List.ofFn shares) (List.ofFn responses) = .ok bucket) :
    retrieve C (List.ofFn domains) target source =
      (.ok { shares := List.ofFn shares, responses := List.ofFn responses, bucket }, rest) := by
  have numberOfFirst :
      ((List.ofFn domains).head?.map fun domain => domain.config.numBuckets).getD 0 =
        numBuckets := by
    obtain ⟨others, rfl⟩ := Nat.exists_eq_add_one.mpr notNone
    rw [List.ofFn_succ, List.head?_cons, Option.map_some, Option.getD_some, sameNumber]
  have responded := mapM_respond C answered
  simp only [retrieve, numberOfFirst, List.length_ofFn, shared]
  refine congrArg (·, rest) (Error.bind_eq_ok.mpr ⟨_, rfl, ?_⟩)
  exact Error.bind_eq_ok.mpr ⟨_, responded, Error.bind_eq_ok.mpr ⟨_, recovered, rfl⟩⟩

end

/-! ## Domains with a common snapshot -/

variable {G R : Type} [CoinSource G] [ByteSource R] (C : Type) [BlockCipher C]

/-- A sound replica answers a single share with what it selects, under its pad. -/
theorem Sound.batchReadPadded_singleton
    {replica : Replica G ScanMethod Shard}
    (sound : replica.Sound)
    {share : ReadShare}
    (sameVector : share.vector.numBuckets = replica.active.table.geometry.numBuckets) :
    replica.batchReadPadded C [share] =
      .ok [share.padSeed.apply C (replica.active.table.answer share)] := by
  rw [← sound.activeDescribed.numBuckets] at sameVector
  have same : ∀ other ∈ [share], other.vector.numBuckets = replica.config.numBuckets := by
    intro other member
    rw [List.mem_singleton.mp member, sameVector]
  rw [sound.batchReadPadded_eq same, List.map_singleton, paddedAnswer, Table.answer,
    sound.activeDescribed.numBuckets, sound.activeDescribed.bucketSize]

/-- Two or more domains with one active snapshot answer shares of a read for a bucket so that the
bucket is recovered from their responses. -/
theorem retrieve_of_common_snapshot
    {numDomains : Nat}
    (several : 2 ≤ numDomains)
    {domains : Fin numDomains → Replica G ScanMethod Shard}
    (sound : ∀ index, (domains index).Sound)
    {snapshot : Snapshot G}
    (common : ∀ index, (domains index).active = snapshot)
    {target : Nat}
    (inside : target < snapshot.table.geometry.numBuckets)
    (source : R) :
    ∃ (shares : Fin numDomains → ReadShare) (rest : R) (responses : Fin numDomains → Bytes)
        (bucket : Bytes),
      shareRead target numDomains snapshot.table.geometry.numBuckets source =
        (.ok (List.ofFn shares), rest) ∧
      (∀ index,
        (domains index).batchReadPadded C [shares index] = .ok [responses index] ∧
        (responses index).length = snapshot.table.geometry.bucketSize) ∧
      snapshot.table.bucket target = .ok bucket ∧
      recoverBucket C (List.ofFn shares) (List.ofFn responses) = .ok bucket := by
  obtain ⟨shares, rest, shared, count, sameVectors, singleBit⟩ :=
    shareRead_of_lt several inside source
  subst count
  have sized : snapshot.table.Sized := by
    obtain ⟨_, sized, _⟩ := (sound ⟨0, by omega⟩).mirrored
    rwa [common] at sized
  have nonempty : shares ≠ [] := List.ne_nil_of_length_pos (by omega)
  have listed : List.ofFn shares.get = shares := List.ofFn_get shares
  refine ⟨shares.get, rest,
    fun index => (shares.get index).padSeed.apply C (snapshot.table.answer (shares.get index)),
    snapshot.table.data.window snapshot.table.geometry.bucketSize target, ?_, fun index => ?_,
    Table.bucket_of_lt inside, ?_⟩
  · rw [shared, listed]
  · constructor
    · have sameVector :
          (shares.get index).vector.numBuckets =
            (domains index).active.table.geometry.numBuckets := by
        rw [common, sameVectors _ (List.get_mem shares index)]
      rw [(sound index).batchReadPadded_singleton C sameVector, common]
    · rw [PadSeed.length_apply]
      exact Bytes.length_selected (Table.length_data sized) _
  · have responded :
        List.ofFn (fun index =>
            (shares.get index).padSeed.apply C (snapshot.table.answer (shares.get index))) =
          shares.map fun share => share.padSeed.apply C (snapshot.table.answer share) := by
      conv =>
        rhs
        rw [← listed, List.map_ofFn]
      rfl
    rw [listed, responded, recoverBucket_of_padded,
      Table.combineResponses_answers sized nonempty sameVectors inside singleBit,
      Table.bucket_of_lt inside]

/-! ## Domains with the same published writes -/

/-- The writes that flops have published, in order, make the active snapshot, whatever engine the
configuration names. -/
theorem active_after_of_create
    {base : Config}
    {engine : String}
    {fresh : Replica G ScanMethod Shard}
    (created : create { base with engine } Registry.standard = .ok fresh)
    {initial : Snapshot G}
    (emptied : Snapshot.empty base = .ok initial)
    (calls : List Call) :
    (fresh.after calls).active =
      initial.applyAll base (Session.publishedWrites (fresh.trace calls)) := by
  obtain ⟨configured, emptiedFresh, equal⟩ := snapshots_of_create created
  have startsEmpty : fresh.alternate = initial :=
    Except.ok.inj (emptiedFresh.symm.trans emptied)
  rw [(inStep_of_create created).active_after equal, configured, Snapshot.applyAll_engine,
    startsEmpty]

/-- Two or more domains whose configurations differ in nothing but a standard engine, and in which
flops have published the same writes, have one active snapshot, namely what these writes make of an
empty one.  A read of any bucket of it is answered by each domain with a single response, and
recovers the bucket, whatever the reader draws and wherever the flops were.  This is how a retrieval
from all domains together ends. -/
theorem retrieve_exact
    {numDomains : Nat}
    (several : 2 ≤ numDomains)
    {base : Config}
    {engines : Fin numDomains → String}
    {fresh : Fin numDomains → Replica G ScanMethod Shard}
    (created : ∀ index,
      create { base with engine := engines index } Registry.standard = .ok (fresh index))
    (calls : Fin numDomains → List Call)
    {writes : List Item}
    (published : ∀ index,
      Session.publishedWrites ((fresh index).trace (calls index)) = writes)
    {target : Nat}
    (inside : target < base.numBuckets)
    (source : R) :
    ∃ initial : Snapshot G,
      Snapshot.empty base = .ok initial ∧
      (∀ index, ((fresh index).after (calls index)).active = initial.applyAll base writes) ∧
      ∃ (shares : Fin numDomains → ReadShare) (rest : R) (responses : Fin numDomains → Bytes)
          (bucket : Bytes),
        shareRead target numDomains base.numBuckets source = (.ok (List.ofFn shares), rest) ∧
        (∀ index,
          ((fresh index).after (calls index)).batchReadPadded C [shares index] =
            .ok [responses index] ∧
          (responses index).length = base.bucketSize) ∧
        (initial.applyAll base writes).table.bucket target = .ok bucket ∧
        recoverBucket C (List.ofFn shares) (List.ofFn responses) = .ok bucket ∧
        retrieve C (List.ofFn fun index => (fresh index).after (calls index)) target source =
          (.ok { shares := List.ofFn shares, responses := List.ofFn responses, bucket }, rest) := by
  obtain ⟨first⟩ : Nonempty (Fin numDomains) := ⟨⟨0, by omega⟩⟩
  have sound : ∀ index, ((fresh index).after (calls index)).Sound :=
    fun index => (sound_of_create (created index)).after (calls index)
  have emptied : Snapshot.empty base = .ok (fresh first).alternate :=
    (snapshots_of_create (created first)).2.1
  have common : ∀ index,
      ((fresh index).after (calls index)).active =
        (fresh first).alternate.applyAll base writes := by
    intro index
    rw [active_after_of_create (created index) emptied, published]
  have configured : ∀ index,
      ((fresh index).after (calls index)).config = { base with engine := engines index } :=
    fun index => config_after_of_create (created index) (calls index)
  have described := (sound first).activeDescribed
  rw [common, configured] at described
  have sameNumber := described.numBuckets
  have sameSize := described.bucketSize
  dsimp only at sameNumber
  rw [sameNumber] at inside
  obtain ⟨shares, rest, responses, bucket, shared, answered, isBucket, recovered⟩ :=
    retrieve_of_common_snapshot C several sound common inside source
  rw [← sameNumber] at shared
  rw [← sameSize] at answered
  refine ⟨_, emptied, common, shares, rest, responses, bucket, shared, answered, isBucket,
    recovered, retrieve_eq C (Nat.zero_lt_of_lt several) (fun index => ?_) shared
      (fun index => (answered index).1) recovered⟩
  rw [configured]

/-- The engines of two domains. -/
def domainEngines : Fin 2 → String
  | 0 => "cpu"
  | 1 => "cpu64"

/-- The calls to two domains: both publish one write, and the first has another one pending. -/
def domainCalls : Fin 2 → List Call
  | 0 => [.write ⟨⟨1, 0, 1⟩, [5]⟩, .flop, .write ⟨⟨2, 0, 1⟩, [6]⟩]
  | 1 => [.flop, .write ⟨⟨1, 0, 1⟩, [5]⟩, .flop]

/-- Two domains of two one-byte slots each, read with the keystream of an all-zero seed: the payload
of the published item is recovered. -/
theorem retrieve_exact_of_two :
    ∃ (fresh : Fin 2 → Replica ChaCha ScanMethod Shard) (shares : Fin 2 → ReadShare)
        (responses : Fin 2 → Bytes) (rest : Keystream Aes),
      (∀ index,
        create { Config.ofDimensions 2 1 1 with engine := domainEngines index } Registry.standard =
          .ok (fresh index)) ∧
      (∀ index,
        ((fresh index).after (domainCalls index)).batchReadPadded Aes [shares index] =
          .ok [responses index]) ∧
      (∀ index, ((fresh index).after (domainCalls index)).active.table.bucket 0 = .ok [5]) ∧
      recoverBucket Aes (List.ofFn shares) (List.ofFn responses) = .ok [5] ∧
      retrieve Aes (List.ofFn fun index => (fresh index).after (domainCalls index)) 0
          (Keystream.ofSeed ⟨Vector.replicate 16 0, Vector.replicate 16 0⟩ : Keystream Aes) =
        (.ok {
          shares := List.ofFn shares
          responses := List.ofFn responses
          bucket := [5] }, rest) := by
  have evaluated : ∀ index,
      ((create { Config.ofDimensions 2 1 1 with engine := domainEngines index } Registry.standard :
          Except Error (Replica ChaCha ScanMethod Shard)).map
        fun fresh => Session.publishedWrites (fresh.trace (domainCalls index))).toOption =
          some [⟨⟨1, 0, 1⟩, [5]⟩] := by
    decide +kernel
  have creates : ∀ index, ∃ fresh : Replica ChaCha ScanMethod Shard,
      create { Config.ofDimensions 2 1 1 with engine := domainEngines index } Registry.standard =
          .ok fresh ∧
        Session.publishedWrites (fresh.trace (domainCalls index)) = [⟨⟨1, 0, 1⟩, [5]⟩] :=
    fun index => Error.toOption_map_eq_some.mp (evaluated index)
  have written :
      ((Snapshot.empty (Config.ofDimensions 2 1 1) : Except Error (Snapshot ChaCha)).map
        fun initial =>
          ((initial.applyAll (Config.ofDimensions 2 1 1) [⟨⟨1, 0, 1⟩, [5]⟩]).table.bucket
            0).toOption).toOption = some (some [5]) := by
    decide +kernel
  obtain ⟨empty, emptied, holds⟩ := Error.toOption_map_eq_some.mp written
  obtain ⟨fresh, created⟩ := Classical.axiomOfChoice creates
  obtain ⟨initial, isInitial, common, shares, rest, responses, bucket, _, answered, isBucket,
      recovered, retrieved⟩ :=
    retrieve_exact Aes (Nat.le_refl 2) (fun index => (created index).1) domainCalls
      (fun index => (created index).2) (show 0 < 2 by decide)
      (Keystream.ofSeed ⟨Vector.replicate 16 0, Vector.replicate 16 0⟩ : Keystream Aes)
  cases emptied.symm.trans isInitial
  have isPayload := Error.toOption_eq_some.mp holds
  cases isPayload.symm.trans isBucket
  refine ⟨fresh, shares, responses, rest, fun index => (created index).1,
    fun index => (answered index).1, fun index => ?_, recovered, retrieved⟩
  rw [common, isPayload]

end Replica
end ObliviousLog
