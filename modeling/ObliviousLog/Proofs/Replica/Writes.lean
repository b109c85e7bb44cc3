import ObliviousLog.Proofs.Replica.InStep
import Mathlib.Data.List.Induction

/-!
# What the snapshots hold

Each snapshot of a replica is decided by writes alone: the alternate one by all accepted writes, the
active one by those that a flop has published.  When flops happened, and how many, leaves no mark on
either.
-/

namespace ObliviousLog
namespace Replica

open Session

variable {G E S : Type} [CoinSource G] [ShardLike S] [ScanEngine E S] {replica : Replica G E S}

/-! ## One call -/

/-- A call applies to the alternate snapshot the write that it is seen to accept, if it is one. -/
theorem InStep.alternate_call
    (inStep : replica.InStep)
    (call : Call) :
    (replica.call call).2.alternate =
      replica.alternate.applyAll replica.config
        (acceptedWrites [(call, (replica.call call).1)]) := by
  rcases replica.call_cases call with
    ⟨_, _, quiet, noWrite, _⟩ | ⟨item, _, _, rfl, applied, accepts⟩ | ⟨_, _, rfl, _, publishes⟩
  · rw [quiet, noWrite, Snapshot.applyAll_nil]
  · rw [accepts]
    exact (congrArg Prod.snd applied).symm
  · rw [publishes]
    exact inStep.caughtUp

/-- Only a successful flop changes the active snapshot, into the alternate one. -/
theorem active_call (replica : Replica G E S) (call : Call) :
    (replica.call call).2.active =
      if isPublication (call, (replica.call call).1) then replica.alternate
      else replica.active := by
  rcases replica.call_cases call with
    ⟨_, _, quiet, _, notPublished⟩ | ⟨_, _, _, rfl, _, accepts⟩ | ⟨_, _, rfl, _, publishes⟩
  · rw [quiet, notPublished, if_neg Bool.false_ne_true]
  · rw [accepts]
    rfl
  · rw [publishes]
    rfl

/-! ## Whole sessions -/

/-- All accepted writes, in order, make the alternate snapshot. -/
theorem InStep.alternate_after
    (inStep : replica.InStep)
    (calls : List Call) :
    (replica.after calls).alternate =
      replica.alternate.applyAll replica.config (acceptedWrites (replica.trace calls)) := by
  induction calls using List.reverseRecOn with
  | nil => rfl
  | append_singleton calls call inductionHypothesis =>
      rw [after_concat, (inStep.after calls).alternate_call, config_after, inductionHypothesis,
        trace_concat, acceptedWrites_append, Snapshot.applyAll_append]

/-- The accepted writes that a flop has published, in order, make the active snapshot. -/
theorem InStep.active_after
    (inStep : replica.InStep)
    (equal : replica.active = replica.alternate)
    (calls : List Call) :
    (replica.after calls).active =
      replica.alternate.applyAll replica.config (publishedWrites (replica.trace calls)) := by
  induction calls using List.reverseRecOn with
  | nil => exact equal
  | append_singleton calls call inductionHypothesis =>
      rw [after_concat, active_call, trace_concat]
      cases publication : isPublication (call, ((replica.after calls).call call).1) with
      | true =>
          rw [if_pos rfl, publishedWrites_concat_of_publication _ publication,
            acceptedWrites_append, acceptedWrites_of_publication publication, List.append_nil,
            inStep.alternate_after]
      | false =>
          rw [if_neg Bool.false_ne_true, publishedWrites_concat_of_not_publication _ publication,
            inductionHypothesis]

/-- Without a flop, what is published stays as it is. -/
theorem published_after_of_no_flop
    (replica : Replica G E S)
    {calls : List Call}
    (noFlop : Call.flop ∉ calls) :
    (replica.after calls).published = replica.published := by
  induction calls generalizing replica with
  | nil => rfl
  | cons call calls inductionHypothesis =>
      have unchanged : (replica.call call).2.published = replica.published := by
        rcases replica.call_cases call with
          ⟨_, _, quiet, _⟩ | ⟨_, _, _, _, _, accepts⟩ | ⟨_, _, isFlop, _⟩
        · rw [quiet]
        · rw [accepts]
        · exact absurd (isFlop ▸ List.mem_cons_self) noFlop
      have noFlopLater : Call.flop ∉ calls :=
        fun member => noFlop (List.mem_cons_of_mem call member)
      exact (inductionHypothesis (replica.call call).2 noFlopLater).trans unchanged

end Replica
end ObliviousLog
