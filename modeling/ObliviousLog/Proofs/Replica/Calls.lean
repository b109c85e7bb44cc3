import ObliviousLog.Proofs.Replica.Apply
import ObliviousLog.Proofs.Replica.Session

/-!
# What a call can do

A call does one of three things to a replica: it accepts a write, it publishes, or it leaves
everything but the engine as it was.  Whatever is proved of all sessions is proved of these three.
-/

namespace ObliviousLog
namespace Replica

open Session

variable {G E S : Type} [CoinSource G]

/-! ## Writes -/

/-- A write that does not fit changes nothing. -/
theorem write_of_misfit
    {replica : Replica G E S}
    {item : Item}
    {error : Error}
    (misfit : replica.alternate.table.check item = .error error) :
    replica.write item = (.error error, replica) := by
  rw [write, Snapshot.apply_of_misfit misfit]

/-- A write that fits is accepted, applied to the alternate snapshot and recorded. -/
theorem write_of_fits
    {replica : Replica G E S}
    {item : Item}
    (fits : replica.alternate.table.check item = .ok ()) :
    ∃ report alternate,
      replica.alternate.apply replica.config item = (.ok report, alternate) ∧
      replica.write item =
        (.ok report, { replica with alternate, pending := replica.pending ++ [item] }) := by
  rcases housekept : replica.alternate.housekeep replica.config with ⟨evicted, rest⟩
  obtain ⟨_, applied⟩ := Snapshot.apply_of_fits housekept fits
  exact ⟨_, _, applied, by rw [write, applied]⟩

/-- What a write that is accepted has done: housekeeping ran first, if the table was over its load
factor, and the item was inserted into what it left. -/
theorem eq_of_write
    {replica next : Replica G E S}
    {item : Item}
    {report : WriteReport}
    (written : replica.write item = (.ok report, next)) :
    replica.alternate.table.check item = .ok () ∧
      ∃ rest,
        replica.alternate.housekeep replica.config = (report.evicted, rest) ∧
        next.alternate.table = (rest.table.insert item).2 := by
  cases checked : replica.alternate.table.check item with
  | error error =>
      rw [write_of_misfit checked] at written
      cases written
  | ok =>
      rcases housekept : replica.alternate.housekeep replica.config with ⟨evicted, rest⟩
      obtain ⟨stillFits, applied⟩ := Snapshot.apply_of_fits housekept checked
      rw [write, applied] at written
      cases written
      exact ⟨rfl, rest, rfl, by rw [Table.insert_of_fits stillFits]⟩

/-! ## Flops -/

variable [ShardLike S] [ScanEngine E S]

/-- A flop whose engine fails changes nothing but the engine. -/
theorem flop_of_failure
    {replica : Replica G E S}
    {error : Error}
    {engine : E}
    (failed : buildShard replica.config replica.engine replica.alternate.table =
      (.error error, engine)) :
    replica.flop = (.error error, { replica with engine }) := by
  rw [flop, failed]

/-- A flop whose engine builds a shard publishes it, lets the snapshots trade places and replays
the pending writes on the one that was active. -/
theorem flop_of_shard
    {replica : Replica G E S}
    {published : S}
    {engine : E}
    (built : buildShard replica.config replica.engine replica.alternate.table =
      (.ok published, engine)) :
    replica.flop =
      (.ok {
        epoch := replica.epoch + 1
        replays := (replay replica.config replica.pending replica.active).1 },
      { replica with
        engine, published
        active := replica.alternate
        alternate := replica.active.applyAll replica.config replica.pending
        epoch := replica.epoch + 1
        pending := [] }) := by
  rw [flop, built, ← replay_snd]

/-- What a flop that succeeds has built and done. -/
theorem eq_of_flop
    {replica next : Replica G E S}
    {report : FlopReport}
    (flopped : replica.flop = (.ok report, next)) :
    ∃ published engine,
      buildShard replica.config replica.engine replica.alternate.table = (.ok published, engine) ∧
      report = {
        epoch := replica.epoch + 1
        replays := (replay replica.config replica.pending replica.active).1 } ∧
      next = { replica with
        engine, published
        active := replica.alternate
        alternate := replica.active.applyAll replica.config replica.pending
        epoch := replica.epoch + 1
        pending := [] } := by
  rcases built : buildShard replica.config replica.engine replica.alternate.table with
    ⟨result, engine⟩
  cases result with
  | error error =>
      rw [flop_of_failure built] at flopped
      cases flopped
  | ok published =>
      rw [flop_of_shard built] at flopped
      cases flopped
      exact ⟨published, engine, rfl, rfl, rfl⟩

/-! ## All calls -/

/-- A call leaves everything but the engine alone, or it accepts a write, or it publishes. -/
theorem call_cases (replica : Replica G E S) (call : Call) :
    (∃ response engine,
      replica.call call = (response, { replica with engine }) ∧
      acceptedWrites [(call, response)] = [] ∧
      isPublication (call, response) = false) ∨
    (∃ item report alternate,
      call = .write item ∧
      replica.alternate.apply replica.config item = (.ok report, alternate) ∧
      replica.call call =
        (.written (.ok report),
          { replica with alternate, pending := replica.pending ++ [item] })) ∨
    ∃ published engine,
      call = .flop ∧
      buildShard replica.config replica.engine replica.alternate.table =
        (.ok published, engine) ∧
      replica.call call =
        (.flopped (.ok ()),
          { replica with
            engine, published
            active := replica.alternate
            alternate := replica.active.applyAll replica.config replica.pending
            epoch := replica.epoch + 1
            pending := [] }) := by
  cases call with
  | write item =>
      cases checked : replica.alternate.table.check item with
      | error error =>
          refine Or.inl ⟨.written (.error error), replica.engine, ?_, rfl, rfl⟩
          rw [Replica.call, write_of_misfit checked]
      | ok =>
          obtain ⟨report, alternate, applied, written⟩ := write_of_fits checked
          refine Or.inr (Or.inl ⟨item, report, alternate, rfl, applied, ?_⟩)
          rw [Replica.call, written]
  | flop =>
      rcases built : buildShard replica.config replica.engine replica.alternate.table with
        ⟨result, engine⟩
      cases result with
      | error error =>
          refine Or.inl ⟨.flopped (.error error), engine, ?_, rfl, rfl⟩
          rw [Replica.call, flop_of_failure built]
          rfl
      | ok published =>
          refine Or.inr (Or.inr ⟨published, engine, rfl, rfl, ?_⟩)
          rw [Replica.call, flop_of_shard built]
          rfl
  | read requests => exact Or.inl ⟨_, replica.engine, rfl, rfl, rfl⟩
  | bucket index => exact Or.inl ⟨_, replica.engine, rfl, rfl, rfl⟩
  | epoch => exact Or.inl ⟨_, replica.engine, rfl, rfl, rfl⟩
  | pendingWrites => exact Or.inl ⟨_, replica.engine, rfl, rfl, rfl⟩
  | count => exact Or.inl ⟨_, replica.engine, rfl, rfl, rfl⟩

@[simp] theorem config_call (replica : Replica G E S) (call : Call) :
    (replica.call call).2.config = replica.config := by
  rcases replica.call_cases call with
    ⟨_, _, quiet, _⟩ | ⟨_, _, _, _, _, accepts⟩ | ⟨_, _, _, _, publishes⟩
  · rw [quiet]
  · rw [accepts]
  · rw [publishes]

/-! ## Creation and sessions -/

/-- A creation succeeds if nothing that it checks or builds fails. -/
theorem create_of_shard
    {config : Config}
    {registry : Registry E}
    {snapshot : Snapshot G}
    {start engine : E}
    {published : S}
    (validated : config.validate = .ok ())
    (found : registry.get config.engine = .ok start)
    (emptied : Snapshot.empty config = .ok snapshot)
    (built : buildShard config start snapshot.table = (.ok published, engine)) :
    create config registry = .ok {
      config, engine, published
      active := snapshot
      alternate := snapshot
      pending := []
      epoch := 0 } := by
  rw [create, validated, found, emptied]
  simp only [bind, Except.bind, built]
  rfl

/-- What a creation that succeeds has checked and built. -/
theorem eq_of_create
    {config : Config}
    {registry : Registry E}
    {fresh : Replica G E S}
    (created : create config registry = .ok fresh) :
    ∃ snapshot start engine published,
      config.validate = .ok () ∧
      registry.get config.engine = .ok start ∧
      Snapshot.empty config = .ok snapshot ∧
      buildShard config start snapshot.table = (.ok published, engine) ∧
      fresh = {
        config, engine, published
        active := snapshot
        alternate := snapshot
        pending := []
        epoch := 0 } := by
  obtain ⟨_, validated, created⟩ := Error.bind_eq_ok.mp created
  obtain ⟨start, found, created⟩ := Error.bind_eq_ok.mp created
  obtain ⟨snapshot, emptied, created⟩ := Error.bind_eq_ok.mp created
  rcases built : buildShard config start snapshot.table with ⟨result, engine⟩
  rw [built] at created
  obtain ⟨published, rfl, created⟩ := Error.bind_eq_ok.mp created
  cases created
  exact ⟨snapshot, start, engine, published, validated, found, emptied, built, rfl⟩

/-- A fresh replica has two empty snapshots of its configuration. -/
theorem snapshots_of_create
    {config : Config}
    {registry : Registry E}
    {fresh : Replica G E S}
    (created : create config registry = .ok fresh) :
    fresh.config = config ∧
      Snapshot.empty config = .ok fresh.alternate ∧
      fresh.active = fresh.alternate := by
  obtain ⟨_, _, _, _, _, _, emptied, _, rfl⟩ := eq_of_create created
  exact ⟨rfl, emptied, rfl⟩

theorem trace_cons (replica : Replica G E S) (call : Call) (calls : List Call) :
    replica.trace (call :: calls) =
      (call, (replica.call call).1) :: (replica.call call).2.trace calls := rfl

theorem trace_concat (replica : Replica G E S) (calls : List Call) (call : Call) :
    replica.trace (calls ++ [call]) =
      replica.trace calls ++ [(call, ((replica.after calls).call call).1)] :=
  trace_append replica calls [call]

theorem after_concat (replica : Replica G E S) (calls : List Call) (call : Call) :
    replica.after (calls ++ [call]) = ((replica.after calls).call call).2 :=
  final_append replica calls [call]

@[simp] theorem config_after (replica : Replica G E S) (calls : List Call) :
    (replica.after calls).config = replica.config :=
  final_keeps (fun later : Replica G E S => later.config = replica.config)
    (fun later call same => (later.config_call call).trans same) rfl calls

theorem config_after_of_create
    {config : Config}
    {registry : Registry E}
    {fresh : Replica G E S}
    (created : create config registry = .ok fresh)
    (calls : List Call) :
    (fresh.after calls).config = config := by
  rw [config_after, (snapshots_of_create created).1]

end Replica
end ObliviousLog
