import ObliviousLog.Proofs.Replica.Calls
import ObliviousLog.Random.ChaCha

/-!
# The two snapshots go in step

The alternate snapshot of a replica is at all times what the pending writes make of the active one,
in table, generator and history alike, and none of them would be refused in the replay.  Every call
keeps this, whatever the scan engine does, and so a successful flop leaves two equal snapshots.
-/

namespace ObliviousLog
namespace Replica

variable {G E S : Type} [CoinSource G]

/-- Applying the pending writes to the active snapshot gives the alternate one, and each of them is
accepted again. -/
structure InStep (replica : Replica G E S) : Prop where
  caughtUp :
    replica.active.applyAll replica.config replica.pending = replica.alternate
  accepted :
    ∀ entry ∈ (replay replica.config replica.pending replica.active).1,
      ∃ report, entry.2 = .ok report

/-- Equal snapshots without a pending write are in step. -/
theorem inStep_of_equal
    {replica : Replica G E S}
    (equal : replica.active = replica.alternate)
    (nonePending : replica.pending = []) :
    replica.InStep := by
  constructor
  · rw [nonePending, Snapshot.applyAll_nil, equal]
  · intro entry member
    rw [nonePending] at member
    cases member

variable [ShardLike S] [ScanEngine E S]

/-- A flop that succeeds leaves two equal snapshots and no pending write. -/
theorem InStep.flop_equalizes
    {replica : Replica G E S}
    (inStep : replica.InStep)
    {report : FlopReport}
    {next : Replica G E S}
    (flopped : replica.flop = (.ok report, next)) :
    next.active = next.alternate ∧ next.pending = [] := by
  obtain ⟨_, _, _, _, rfl⟩ := eq_of_flop flopped
  exact ⟨inStep.caughtUp.symm, rfl⟩

/-- Every call keeps the snapshots in step. -/
theorem InStep.call
    {replica : Replica G E S}
    (inStep : replica.InStep)
    (call : Call) :
    (replica.call call).2.InStep := by
  rcases replica.call_cases call with
    ⟨_, _, quiet, _⟩ | ⟨item, report, alternate, _, applied, accepts⟩ | ⟨_, _, _, _, publishes⟩
  · rw [quiet]
    exact ⟨inStep.caughtUp, inStep.accepted⟩
  · rw [accepts]
    constructor
    · rw [Snapshot.applyAll_append, inStep.caughtUp, Snapshot.applyAll_cons, applied,
        Snapshot.applyAll_nil]
    · intro entry member
      rw [replay_fst_append, inStep.caughtUp, List.mem_append] at member
      rcases member with earlier | last
      · exact inStep.accepted entry earlier
      · rw [replay_singleton, applied, List.mem_singleton] at last
        exact ⟨report, congrArg Prod.snd last⟩
  · rw [publishes]
    exact inStep_of_equal inStep.caughtUp.symm rfl

theorem InStep.after
    {replica : Replica G E S}
    (inStep : replica.InStep)
    (calls : List Call) :
    (replica.after calls).InStep :=
  Session.final_keeps InStep (fun _ call inStep => inStep.call call) inStep calls

/-- A freshly created replica has two equal snapshots and no pending write. -/
theorem inStep_of_create
    {config : Config}
    {registry : Registry E}
    {fresh : Replica G E S}
    (created : create config registry = .ok fresh) :
    fresh.InStep := by
  obtain ⟨_, _, _, _, _, _, _, _, rfl⟩ := eq_of_create created
  exact inStep_of_equal rfl rfl

/-- After any session with a freshly created replica, the pending writes turn the active snapshot
into the alternate one and each is accepted again, and any flop that succeeds next leaves two equal
snapshots and no pending write. -/
theorem snapshots_inStep
    {config : Config}
    {registry : Registry E}
    {fresh : Replica G E S}
    (created : create config registry = .ok fresh)
    (calls : List Call) :
    (fresh.after calls).InStep ∧
      ∀ report next, (fresh.after calls).flop = (.ok report, next) →
        next.active = next.alternate ∧ next.pending = [] := by
  have inStep := (inStep_of_create created).after calls
  exact ⟨inStep, fun _ _ flopped => inStep.flop_equalizes flopped⟩

/-- A write that a flop publishes, and two more that together with it overfill two slots. -/
def overfillingCalls : List Call :=
  [.write ⟨⟨1, 0, 1⟩, [5]⟩, .flop, .write ⟨⟨2, 0, 1⟩, [6]⟩, .write ⟨⟨3, 0, 1⟩, [7]⟩]

/-- A replica of two one-byte slots on which more was written than fits. -/
theorem snapshots_inStep_of_overfilled :
    ∃ (fresh : Replica ChaCha ScanMethod Shard) (report : FlopReport)
        (next : Replica ChaCha ScanMethod Shard),
      create (Config.ofDimensions 2 1 1) Registry.standard = .ok fresh ∧
      (fresh.after overfillingCalls).InStep ∧
      (fresh.after overfillingCalls).flop = (.ok report, next) ∧
      next.active = next.alternate ∧
      next.pending = [] := by
  have flops :
      ((create (Config.ofDimensions 2 1 1) Registry.standard :
          Except Error (Replica ChaCha ScanMethod Shard)).map
        fun fresh => (fresh.after overfillingCalls).flop.1.toBool).toOption = some true := by
    decide +kernel
  cases created :
      (create (Config.ofDimensions 2 1 1) Registry.standard :
        Except Error (Replica ChaCha ScanMethod Shard)) with
  | error error =>
      rw [created] at flops
      cases flops
  | ok fresh =>
      rw [created] at flops
      obtain ⟨inStep, equalizes⟩ := snapshots_inStep created overfillingCalls
      rcases flopped : (fresh.after overfillingCalls).flop with ⟨result, next⟩
      cases result with
      | error error =>
          rw [Except.map, flopped] at flops
          cases flops
      | ok report =>
          obtain ⟨equal, nonePending⟩ := equalizes report next flopped
          exact ⟨fresh, report, next, rfl, inStep, flopped, equal, nonePending⟩

end Replica
end ObliviousLog
