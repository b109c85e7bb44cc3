import ObliviousLog.Replica.Read
import Mathlib.Data.List.DropRight

/-!
# Sessions

A session is a sequence of calls on a store.  Its trace pairs each call with the response, and from
the trace alone it can be told which writes were accepted and which of them a flop has published.
What every call keeps holds after the session, two stores whose calls go in step have the same
trace, and calls that leave no mark can be left out of a session.
-/

namespace ObliviousLog

/-- A call on a store. -/
inductive Call where
  /-- Writes an item. -/
  | write (item : Item)
  /-- Publishes what was written. -/
  | flop
  /-- Asks for the answers to a batch of requests. -/
  | read (requests : Bytes)
  /-- Asks for a published bucket. -/
  | bucket (index : Nat)
  /-- Asks for the number of flops. -/
  | epoch
  /-- Asks for the number of writes since the last flop. -/
  | pendingWrites
  /-- Asks for the number of stored items. -/
  | count
deriving DecidableEq

/-- What a call answers. -/
inductive Response where
  /-- A write was accepted or refused. -/
  | written (outcome : Except Error WriteReport)
  /-- A flop succeeded or failed. -/
  | flopped (outcome : Except Error Unit)
  /-- A question for bytes was answered or refused. -/
  | bytes (outcome : Except Error Bytes)
  /-- A question for the number of flops was answered. -/
  | epoch (value : UInt64)
  /-- A question for a number of writes or items was answered. -/
  | number (value : Nat)

/-- What a replica answers to a call, and the replica afterwards. -/
def Replica.call
    {G E S : Type}
    [CoinSource G]
    [ShardLike S]
    [ScanEngine E S]
    (replica : Replica G E S) : Call → Response × Replica G E S
  | .write item => (.written (replica.write item).1, (replica.write item).2)
  | .flop => (.flopped (replica.flop.1.map fun _ => ()), replica.flop.2)
  | .read requests => (.bytes (replica.batchRead requests), replica)
  | .bucket index => (.bytes (ShardLike.bucket replica.published index), replica)
  | .epoch => (.epoch replica.epoch, replica)
  | .pendingWrites => (.number replica.pending.length, replica)
  | .count => (.number replica.count, replica)

namespace Session

/-! ## Traces -/

/-- The item that an entry of a trace shows to be accepted. -/
def acceptedItem? : Call × Response → Option Item
  | (.write item, .written (.ok _)) => some item
  | _ => none

/-- The accepted writes of a trace, in order. -/
def acceptedWrites (trace : List (Call × Response)) : List Item :=
  trace.filterMap acceptedItem?

/-- Whether an entry of a trace is a flop that succeeded. -/
def isPublication : Call × Response → Bool
  | (.flop, .flopped (.ok ())) => true
  | _ => false

/-- The writes of a trace that were accepted before its last successful flop. -/
def publishedWrites (trace : List (Call × Response)) : List Item :=
  acceptedWrites (trace.rdropWhile fun entry => !isPublication entry)

theorem acceptedWrites_append (front back : List (Call × Response)) :
    acceptedWrites (front ++ back) = acceptedWrites front ++ acceptedWrites back :=
  List.filterMap_append

/-- A successful flop is not a write. -/
theorem acceptedWrites_of_publication
    {entry : Call × Response}
    (publication : isPublication entry = true) :
    acceptedWrites [entry] = [] := by
  rcases entry with ⟨call, response⟩
  cases call with
  | flop => rfl
  | _ => cases publication

/-- A successful flop publishes all writes accepted so far. -/
theorem publishedWrites_concat_of_publication
    (trace : List (Call × Response))
    {entry : Call × Response}
    (publication : isPublication entry = true) :
    publishedWrites (trace ++ [entry]) = acceptedWrites (trace ++ [entry]) := by
  rw [publishedWrites, List.rdropWhile_concat_neg _ _ _ (by simp [publication])]

/-- Anything but a successful flop publishes nothing. -/
theorem publishedWrites_concat_of_not_publication
    (trace : List (Call × Response))
    {entry : Call × Response}
    (quiet : isPublication entry = false) :
    publishedWrites (trace ++ [entry]) = publishedWrites trace := by
  rw [publishedWrites, List.rdropWhile_concat_pos _ _ _ (by simp [quiet]), publishedWrites]

/-! ## Running a session -/

variable {State : Type}

/-- The state after a sequence of calls. -/
def final (step : State → Call → Response × State) (state : State) (calls : List Call) : State :=
  calls.foldl (fun state call => (step state call).2) state

/-- The calls of a session, each with its response. -/
def trace (step : State → Call → Response × State) :
    State → List Call → List (Call × Response)
  | _, [] => []
  | state, call :: calls => (call, (step state call).1) :: trace step (step state call).2 calls

variable {step : State → Call → Response × State}

theorem final_append (state : State) (front back : List Call) :
    final step state (front ++ back) = final step (final step state front) back :=
  List.foldl_append

theorem trace_append (state : State) (front back : List Call) :
    trace step state (front ++ back) =
      trace step state front ++ trace step (final step state front) back := by
  induction front generalizing state with
  | nil => rfl
  | cons call front inductionHypothesis =>
      exact congrArg (_ :: ·) (inductionHypothesis (step state call).2)

/-- What every call keeps holds after a session. -/
theorem final_keeps
    (Invariant : State → Prop)
    (keeps : ∀ state call, Invariant state → Invariant (step state call).2)
    {state : State}
    (start : Invariant state)
    (calls : List Call) :
    Invariant (final step state calls) := by
  induction calls generalizing state with
  | nil => exact start
  | cons call calls inductionHypothesis => exact inductionHypothesis (keeps state call start)

/-- Two stores whose calls answer alike and go in step have the same trace. -/
theorem trace_eq_of_simulation
    {Other : Type}
    {otherStep : Other → Call → Response × Other}
    (Related : State → Other → Prop)
    (simulates : ∀ state other call, Related state other →
      (step state call).1 = (otherStep other call).1 ∧
        Related (step state call).2 (otherStep other call).2)
    {state : State}
    {other : Other}
    (start : Related state other)
    (calls : List Call) :
    trace step state calls = trace otherStep other calls := by
  induction calls generalizing state other with
  | nil => rfl
  | cons call calls inductionHypothesis =>
      obtain ⟨sameResponse, related⟩ := simulates state other call start
      rw [trace, trace, sameResponse, inductionHypothesis related]

/-! ## Leaving calls out -/

/-- What is left of a trace without some of its entries. -/
def without (leftOut : Call × Response → Bool) (trace : List (Call × Response)) :
    List (Call × Response) :=
  trace.filter fun entry => !leftOut entry

/-- The calls that are left of a session without some entries of its trace. -/
def callsWithout (leftOut : Call × Response → Bool) (trace : List (Call × Response)) : List Call :=
  (without leftOut trace).map Prod.fst

theorem without_cons_of_kept
    {leftOut : Call × Response → Bool}
    {entry : Call × Response}
    (kept : leftOut entry = false)
    (trace : List (Call × Response)) :
    without leftOut (entry :: trace) = entry :: without leftOut trace :=
  List.filter_cons_of_pos (by rw [kept]; rfl)

theorem without_cons_of_leftOut
    {leftOut : Call × Response → Bool}
    {entry : Call × Response}
    (isLeftOut : leftOut entry = true)
    (trace : List (Call × Response)) :
    without leftOut (entry :: trace) = without leftOut trace :=
  List.filter_cons_of_neg (by rw [isLeftOut]; exact Bool.false_ne_true)

/-- A second store is asked only the calls that are left of a session.  If it follows the first one
over these, and is not left behind by the others, then its trace is what is left of the trace.  How
the two are related may depend on the calls that are still to come. -/
theorem trace_callsWithout
    {Other : Type}
    {otherStep : Other → Call → Response × Other}
    (leftOut : Call × Response → Bool)
    (Related : State → Other → List Call → Prop)
    (follows : ∀ state other call calls, Related state other (call :: calls) →
      leftOut (call, (step state call).1) = false →
      (otherStep other call).1 = (step state call).1 ∧
        Related (step state call).2 (otherStep other call).2 calls)
    (passesOver : ∀ state other call calls, Related state other (call :: calls) →
      leftOut (call, (step state call).1) = true →
      Related (step state call).2 other calls)
    {state : State}
    {other : Other}
    {calls : List Call}
    (start : Related state other calls) :
    trace otherStep other (callsWithout leftOut (trace step state calls)) =
        without leftOut (trace step state calls) ∧
      Related (final step state calls)
        (final otherStep other (callsWithout leftOut (trace step state calls))) [] := by
  induction calls generalizing state other with
  | nil => exact ⟨rfl, start⟩
  | cons call calls inductionHypothesis =>
      rw [trace, callsWithout]
      cases choice : leftOut (call, (step state call).1) with
      | true =>
          rw [without_cons_of_leftOut choice]
          exact inductionHypothesis (passesOver state other call calls start choice)
      | false =>
          obtain ⟨sameResponse, related⟩ := follows state other call calls start choice
          obtain ⟨sameTrace, relatedFinally⟩ := inductionHypothesis related
          rw [without_cons_of_kept choice, List.map_cons]
          refine ⟨?_, relatedFinally⟩
          rw [trace, sameResponse]
          exact congrArg (_ :: ·) sameTrace

end Session

namespace Replica

variable {G E S : Type} [CoinSource G] [ShardLike S] [ScanEngine E S]

/-- The replica after a sequence of calls. -/
def after (replica : Replica G E S) (calls : List Call) : Replica G E S :=
  Session.final call replica calls

/-- The calls of a session with a replica, each with its response. -/
def trace (replica : Replica G E S) (calls : List Call) : List (Call × Response) :=
  Session.trace call replica calls

end Replica
end ObliviousLog
