import ObliviousLog.Proofs.Replica.History

/-!
# Failed flops leave no mark

A flop asks the engine for a shard before it does anything else.  When the engine fails, or builds a
shard of another shape than the configuration asks for, only the engine's own state has changed.  So
the failed flops of a session can be left out of it, as long as the other flops get the answers that
they got, and the next flop that succeeds publishes all that was written meanwhile.
-/

namespace ObliviousLog

/-! ## Answers of an engine -/

namespace Config

variable {S : Type} [ShardLike S]

/-- Whether a shard has the shape that a configuration asks for. -/
def Suits (config : Config) (shard : S) : Prop :=
  ShardLike.numBuckets shard = config.numBuckets ∧
    ShardLike.bucketSize shard = config.bucketSize

instance (config : Config) (shard : S) : Decidable (config.Suits shard) :=
  inferInstanceAs (Decidable (_ ∧ _))

/-- What becomes of an engine's answer: a shard of another shape is an error as well. -/
def inspect (config : Config) : Except Error S → Except Error S
  | .error error => .error error
  | .ok shard => if config.Suits shard then .ok shard else .error (.state .shardGeometry)

variable {config : Config} {answer : Except Error S}

theorem inspect_eq_error_iff {error : Error} :
    config.inspect answer = .error error ↔
      answer = .error error ∨
        ∃ shard, answer = .ok shard ∧ ¬config.Suits shard ∧ error = .state .shardGeometry := by
  cases answer with
  | error reason => simp [inspect]
  | ok shard =>
      by_cases suits : config.Suits shard
      · simp [inspect, suits]
      · simp [inspect, suits, eq_comm]

theorem inspect_eq_ok_iff {shard : S} :
    config.inspect answer = .ok shard ↔ answer = .ok shard ∧ config.Suits shard := by
  cases answer with
  | error reason => simp [inspect]
  | ok built =>
      by_cases suits : config.Suits built
      · simp only [inspect, suits, if_true, Except.ok.injEq]
        exact ⟨fun same => ⟨same, same ▸ suits⟩, fun same => same.1⟩
      · simp only [inspect, suits, if_false, Except.ok.injEq, reduceCtorEq, false_iff]
        exact fun same => suits (same.1 ▸ same.2)

end Config

namespace Replica

open Session

variable {G E Other S : Type} [ScanEngine E S] [ScanEngine Other S]

/-- What the engine answers when a flop asks it for a shard of the alternate table. -/
def answer (replica : Replica G E S) : Except Error S :=
  (ScanEngine.build replica.engine replica.alternate.table.geometry.numBuckets
    replica.alternate.table.geometry.bucketSize replica.alternate.table.data).1

/-- The replica with another engine. -/
def withEngine
    {G E Other S : Type}
    (replica : Replica G E S)
    (engine : Other) : Replica G Other S :=
  { replica with engine }

/-- What the engine answers in a call: only a flop asks it. -/
def answersIn (replica : Replica G E S) : Call → List (Except Error S)
  | .flop => [replica.answer]
  | _ => []

theorem answersIn_of_ne_flop
    (replica : Replica G E S)
    {call : Call}
    (noFlop : call ≠ .flop) :
    replica.answersIn call = [] := by
  cases call with
  | flop => exact absurd rfl noFlop
  | _ => rfl

variable [ShardLike S]

theorem buildShard_fst (config : Config) (engine : E) (table : Table G) :
    (buildShard config engine table).1 =
      config.inspect
        (ScanEngine.build engine table.geometry.numBuckets table.geometry.bucketSize
          table.data).1 := by
  rw [buildShard]
  rcases ScanEngine.build engine table.geometry.numBuckets table.geometry.bucketSize table.data with
    ⟨answer, engine⟩
  cases answer with
  | error error => rfl
  | ok shard =>
      by_cases suits : config.Suits shard
      · rw [Config.inspect, if_pos suits]
        exact congrArg Prod.fst (if_pos suits)
      · rw [Config.inspect, if_neg suits]
        exact congrArg Prod.fst (if_neg suits)

/-! ## One call -/

variable [CoinSource G]

/-- A flop answers what becomes of the engine's answer. -/
theorem flop_fst (replica : Replica G E S) :
    replica.flop.1 =
      (replica.config.inspect replica.answer).map fun _ => {
        epoch := replica.epoch + 1
        replays := (replay replica.config replica.pending replica.active).1 } := by
  have inspected := buildShard_fst replica.config replica.engine replica.alternate.table
  rw [answer, ← inspected]
  rcases built : buildShard replica.config replica.engine replica.alternate.table with
    ⟨result, engine⟩
  cases result with
  | error error => rw [flop_of_failure built, Except.map]
  | ok published => rw [flop_of_shard built, Except.map]

theorem flop_eq_error_iff {replica : Replica G E S} {error : Error} :
    replica.flop.1 = .error error ↔ replica.config.inspect replica.answer = .error error := by
  rw [flop_fst]
  cases replica.config.inspect replica.answer with
  | error reason => simp [Except.map]
  | ok shard => simp [Except.map]

/-- A flop that fails changes nothing but the engine. -/
theorem eq_withEngine_of_flop_error
    {replica next : Replica G E S}
    {error : Error}
    (failed : replica.flop = (.error error, next)) :
    next = replica.withEngine next.engine := by
  rcases built : buildShard replica.config replica.engine replica.alternate.table with
    ⟨result, engine⟩
  cases result with
  | error error =>
      rw [flop_of_failure built] at failed
      cases failed
      rfl
  | ok published =>
      rw [flop_of_shard built] at failed
      cases failed

/-- What a flop does, its engine apart, is decided by the engine's answer. -/
theorem flop_withEngine
    (replica : Replica G E S)
    {other : Other}
    (sameAnswer : (replica.withEngine other).answer = replica.answer) :
    ∃ engine : Other,
      (replica.withEngine other).flop = (replica.flop.1, replica.flop.2.withEngine engine) := by
  have inspected := buildShard_fst replica.config replica.engine replica.alternate.table
  have inspectedAlso := buildShard_fst replica.config other replica.alternate.table
  rcases built : buildShard replica.config replica.engine replica.alternate.table with
    ⟨result, engine⟩
  rcases builtAlso : buildShard replica.config other replica.alternate.table with
    ⟨resultAlso, engineAlso⟩
  have sameResult : resultAlso = result := by
    rw [built] at inspected
    rw [builtAlso] at inspectedAlso
    exact inspectedAlso.trans ((congrArg _ sameAnswer).trans inspected.symm)
  subst sameResult
  refine ⟨engineAlso, ?_⟩
  have builtWith : buildShard (replica.withEngine other).config (replica.withEngine other).engine
      (replica.withEngine other).alternate.table = (resultAlso, engineAlso) := builtAlso
  cases resultAlso with
  | error error =>
      rw [flop_of_failure built, flop_of_failure builtWith]
      rfl
  | ok published =>
      rw [flop_of_shard built, flop_of_shard builtWith]
      rfl

theorem call_flop_withEngine
    (replica : Replica G E S)
    {other : Other}
    (sameAnswer : (replica.withEngine other).answer = replica.answer) :
    ∃ engine : Other,
      (replica.withEngine other).call .flop =
        ((replica.call .flop).1, (replica.call .flop).2.withEngine engine) := by
  obtain ⟨engine, flopped⟩ := replica.flop_withEngine sameAnswer
  refine ⟨engine, ?_⟩
  rw [Replica.call, flopped]
  rfl

/-- The engine has no part in any call but a flop. -/
theorem call_withEngine
    (replica : Replica G E S)
    (other : Other)
    {call : Call}
    (noFlop : call ≠ .flop) :
    (replica.withEngine other).call call =
      ((replica.call call).1, (replica.call call).2.withEngine other) := by
  cases call with
  | write item =>
      rcases applied : replica.alternate.apply replica.config item with ⟨outcome, alternate⟩
      have appliedWith : (replica.withEngine other).alternate.apply
          (replica.withEngine other).config item = (outcome, alternate) := applied
      simp only [Replica.call, write, applied, appliedWith]
      cases outcome <;> rfl
  | flop => exact absurd rfl noFlop
  | _ => rfl

/-! ## Whole sessions -/

/-- What the engine answers in the calls of a session, in order. -/
def answers (replica : Replica G E S) : List Call → List (Except Error S)
  | [] => []
  | call :: calls => replica.answersIn call ++ answers (replica.call call).2 calls

end Replica

namespace Session

/-- Whether an entry of a trace is a flop that failed. -/
def isFailedFlop : Call × Response → Bool
  | (.flop, .flopped (.error _)) => true
  | _ => false

end Session

namespace Replica

open Session

variable {G E Other S : Type} [CoinSource G] [ShardLike S] [ScanEngine E S] [ScanEngine Other S]

/-- A flop is seen to fail exactly if the engine's answer does not pass. -/
theorem isFailedFlop_flop (replica : Replica G E S) :
    isFailedFlop (.flop, (replica.call .flop).1) =
      !(replica.config.inspect replica.answer).toBool := by
  rw [Replica.call, flop_fst]
  cases replica.config.inspect replica.answer <;> rfl

/-- A call that is seen to be a failed flop changes nothing but the engine. -/
theorem call_of_isFailedFlop
    (replica : Replica G E S)
    {call : Call}
    (failed : isFailedFlop (call, (replica.call call).1) = true) :
    call = .flop ∧ ∃ engine : E, (replica.call call).2 = replica.withEngine engine := by
  cases call with
  | flop =>
      refine ⟨rfl, ?_⟩
      rcases flopped : replica.flop with ⟨outcome, next⟩
      cases outcome with
      | error error =>
          rw [Replica.call, flopped]
          exact ⟨_, eq_withEngine_of_flop_error flopped⟩
      | ok report =>
          rw [Replica.call, flopped] at failed
          cases failed
  | _ => cases failed

/-- Without its failed flops, a session with a replica ends as it does with them and all other calls
are answered alike, also if another engine is used, as long as this one answers the flops that are
left with the shards that they got. -/
theorem trace_without_failed_flops
    (replica : Replica G E S)
    (other : Other)
    (calls : List Call)
    (sameAnswers :
      (replica.withEngine other).answers (callsWithout isFailedFlop (replica.trace calls)) =
        (replica.answers calls).filter fun answer => (replica.config.inspect answer).toBool) :
    (replica.withEngine other).trace (callsWithout isFailedFlop (replica.trace calls)) =
        without isFailedFlop (replica.trace calls) ∧
      ∃ engine : Other,
        (replica.withEngine other).after (callsWithout isFailedFlop (replica.trace calls)) =
          (replica.after calls).withEngine engine := by
  -- The answers that are still to come are equal at every point of the session.
  refine And.imp_right And.left (trace_callsWithout isFailedFlop
    (fun (whole : Replica G E S) (thinned : Replica G Other S) (calls : List Call) =>
      (∃ engine, thinned = whole.withEngine engine) ∧
        thinned.answers (callsWithout isFailedFlop (whole.trace calls)) =
          (whole.answers calls).filter fun answer => (whole.config.inspect answer).toBool)
    ?_ ?_ ⟨⟨other, rfl⟩, sameAnswers⟩)
  · rintro whole _ call calls ⟨⟨engine, rfl⟩, sameAnswers⟩ kept
    rw [trace_cons, callsWithout, without_cons_of_kept kept, List.map_cons, answers,
      answers] at sameAnswers
    by_cases isFlop : call = .flop
    · subst isFlop
      rw [isFailedFlop_flop, Bool.not_eq_false'] at kept
      rw [answersIn, answersIn, List.singleton_append, List.singleton_append,
        List.filter_cons, if_pos kept] at sameAnswers
      obtain ⟨sameAnswer, sameLater⟩ := List.cons.inj sameAnswers
      obtain ⟨next, flopped⟩ := whole.call_flop_withEngine sameAnswer
      rw [flopped] at sameLater ⊢
      exact ⟨rfl, ⟨next, rfl⟩, by rw [config_call]; exact sameLater⟩
    · rw [answersIn_of_ne_flop _ isFlop, answersIn_of_ne_flop _ isFlop, List.nil_append,
        List.nil_append, whole.call_withEngine engine isFlop] at sameAnswers
      rw [whole.call_withEngine engine isFlop]
      exact ⟨rfl, ⟨engine, rfl⟩, by rw [config_call]; exact sameAnswers⟩
  · rintro whole _ call calls ⟨⟨engine, rfl⟩, sameAnswers⟩ failed
    obtain ⟨rfl, next, unchanged⟩ := whole.call_of_isFailedFlop failed
    rw [trace_cons, callsWithout, without_cons_of_leftOut failed, answers, answersIn,
      List.singleton_append] at sameAnswers
    rw [isFailedFlop_flop, Bool.not_eq_true'] at failed
    rw [List.filter_cons, failed, if_neg Bool.false_ne_true] at sameAnswers
    refine ⟨⟨engine, ?_⟩, ?_⟩
    · rw [unchanged]
      rfl
    · rw [config_call]
      exact sameAnswers

/-- After any session with a freshly created replica, a flop fails exactly when the engine answers
with an error, which the flop then returns, or with a shard of another shape than the configuration
asks for.  A flop that fails changes nothing but the engine.  So without its failed flops the
session ends in the same state and all its other calls are answered alike, whatever engine is used
instead, as long as the flops that are left get the shards that they got.  A flop that succeeds
publishes what the engine has built of the table that all accepted writes make. -/
theorem failed_flops_leave_no_mark
    {config : Config}
    {registry : Registry E}
    {fresh : Replica G E S}
    (created : create config registry = .ok fresh)
    (calls : List Call) :
    (∀ error,
      (fresh.after calls).flop.1 = .error error ↔
        (fresh.after calls).answer = .error error ∨
          ∃ shard,
            (fresh.after calls).answer = .ok shard ∧
            ¬config.Suits shard ∧
            error = .state .shardGeometry) ∧
    (∀ error next,
      (fresh.after calls).flop = (.error error, next) →
        next = (fresh.after calls).withEngine next.engine) ∧
    (∀ {Other : Type} [ScanEngine Other S] (other : Other),
      (fresh.withEngine other).answers (callsWithout isFailedFlop (fresh.trace calls)) =
          (fresh.answers calls).filter (fun answer => (config.inspect answer).toBool) →
        (fresh.withEngine other).trace (callsWithout isFailedFlop (fresh.trace calls)) =
            without isFailedFlop (fresh.trace calls) ∧
          ∃ engine : Other,
            (fresh.withEngine other).after (callsWithout isFailedFlop (fresh.trace calls)) =
              (fresh.after calls).withEngine engine) ∧
    ∀ report next,
      (fresh.after calls).flop = (.ok report, next) →
        (fresh.after calls).answer = .ok next.published ∧
        next.active = (fresh.after calls).alternate ∧
        next.active = fresh.active.applyAll config (acceptedWrites (fresh.trace calls)) ∧
        next.pending = [] := by
  obtain ⟨sameConfig, _, sameSnapshots⟩ := snapshots_of_create created
  have configAfter := config_after_of_create created calls
  refine ⟨?_, fun _ _ failed => eq_withEngine_of_flop_error failed, ?_, ?_⟩
  · intro error
    rw [flop_eq_error_iff, configAfter, Config.inspect_eq_error_iff]
  · intro _ _ other sameAnswers
    refine fresh.trace_without_failed_flops other calls ?_
    rw [sameConfig]
    exact sameAnswers
  · intro report next flopped
    have allWrites := (inStep_of_create created).alternate_after calls
    rw [sameConfig, ← sameSnapshots] at allWrites
    obtain ⟨published, engine, built, _, rfl⟩ := eq_of_flop flopped
    have passed := buildShard_fst (fresh.after calls).config (fresh.after calls).engine
      (fresh.after calls).alternate.table
    rw [built] at passed
    exact ⟨(Config.inspect_eq_ok_iff.mp passed.symm).1, rfl, allWrites, rfl⟩

/-! ## A faltering engine -/

/-- An engine that builds its shards by a method, with faults laid down in advance: at a fault it
answers with something else. -/
structure Faltering where
  /-- The method of the shards that it builds. -/
  method : ScanMethod
  /-- What it answers instead, build by build. -/
  faults : List (Option (Except Error Shard))

instance : ScanEngine Faltering Shard where
  build engine numBuckets bucketSize data :=
    (match engine.faults with
      | some fault :: _ => fault
      | _ => Shard.ofData engine.method numBuckets bucketSize data,
      { engine with faults := engine.faults.tail })

/-- An engine that builds a first shard, then fails, then builds a shard of the wrong shape. -/
def Faltering.twice : Faltering where
  method := .bytewise
  faults := [none, some (.error (.state .shardGeometry)),
    some (Shard.ofData .bytewise 1 1 [0])]

/-- Two flops that fail, one that succeeds, and writes before and after each of them. -/
def falteringCalls : List Call :=
  [.write ⟨⟨1, 0, 1⟩, [5]⟩, .flop, .write ⟨⟨2, 1, 2⟩, [6]⟩, .flop, .flop,
    .write ⟨⟨3, 2, 3⟩, [7]⟩]

/-- The calls of the session without the two flops that fail. -/
def steadyCalls : List Call :=
  [.write ⟨⟨1, 0, 1⟩, [5]⟩, .write ⟨⟨2, 1, 2⟩, [6]⟩, .flop, .write ⟨⟨3, 2, 3⟩, [7]⟩]

/-- A replica whose engine falters twice ends like one whose engine never does, and its next flop
publishes all three writes. -/
theorem failed_flops_leave_no_mark_of_faltering :
    ∃ (fresh next : Replica ChaCha Faltering Shard) (engine : ScanMethod) (report : FlopReport),
      create (Config.ofDimensions 4 1 1)
          (Registry.ofList [(Registry.defaultName, Faltering.twice)]) = .ok fresh ∧
      (fresh.withEngine ScanMethod.bytewise).after steadyCalls =
        (fresh.after falteringCalls).withEngine engine ∧
      (fresh.after falteringCalls).flop = (.ok report, next) ∧
      next.active =
        fresh.active.applyAll (Config.ofDimensions 4 1 1)
          [⟨⟨1, 0, 1⟩, [5]⟩, ⟨⟨2, 1, 2⟩, [6]⟩, ⟨⟨3, 2, 3⟩, [7]⟩] ∧
      next.pending = [] := by
  have evaluated :
      ((create (Config.ofDimensions 4 1 1)
            (Registry.ofList [(Registry.defaultName, Faltering.twice)]) :
          Except Error (Replica ChaCha Faltering Shard)).map fun fresh =>
        ((fresh.after falteringCalls).flop.1.toBool,
          callsWithout isFailedFlop (fresh.trace falteringCalls),
          acceptedWrites (fresh.trace falteringCalls),
          decide ((fresh.withEngine ScanMethod.bytewise).answers steadyCalls =
            (fresh.answers falteringCalls).filter fun answer =>
              ((Config.ofDimensions 4 1 1).inspect answer).toBool))).toOption =
        some (true, steadyCalls,
          [⟨⟨1, 0, 1⟩, [5]⟩, ⟨⟨2, 1, 2⟩, [6]⟩, ⟨⟨3, 2, 3⟩, [7]⟩], true) := by
    decide +kernel
  obtain ⟨fresh, created, seen⟩ := Error.toOption_map_eq_some.mp evaluated
  obtain ⟨flops, seen⟩ := Prod.mk.inj seen
  obtain ⟨kept, seen⟩ := Prod.mk.inj seen
  obtain ⟨written, sameAnswers⟩ := Prod.mk.inj seen
  obtain ⟨_, _, steady, publishes⟩ := failed_flops_leave_no_mark created falteringCalls
  have steadyEnd := steady ScanMethod.bytewise
  rw [kept] at steadyEnd
  obtain ⟨_, engine, sameEnd⟩ := steadyEnd (of_decide_eq_true sameAnswers)
  rcases flopped : (fresh.after falteringCalls).flop with ⟨result, next⟩
  rw [flopped] at flops
  cases result with
  | error error => cases flops
  | ok report =>
      obtain ⟨_, _, allWrites, nonePending⟩ := publishes report next flopped
      rw [written] at allWrites
      exact ⟨fresh, next, engine, report, created, sameEnd, flopped, allWrites, nonePending⟩

end Replica
end ObliviousLog
