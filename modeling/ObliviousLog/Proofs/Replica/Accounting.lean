import ObliviousLog.Proofs.Replica.Eviction
import ObliviousLog.Proofs.Replica.Standard
import ObliviousLog.Proofs.Replica.Writes
import ObliviousLog.Proofs.Table.Conservation
import Mathlib.Algebra.Order.Group.Multiset
import Mathlib.Tactic.Abel

/-!
# Every accepted item is accounted for

An accepted item is stored, or an error has handed it back to a writer, or housekeeping has evicted
it.  The account balances over every single call and so over whole sessions, payloads included.
Flops have no entry in it: what a flop replays, it replays with the outcomes that the writers saw,
so all that it drops was handed back before.
-/

namespace ObliviousLog

/-! ## What a write hands back and evicts -/

/-- The item that a writer finds in the error of a write. -/
def handedBack? (outcome : Except Error WriteReport) : Option Item :=
  match outcome.bind WriteReport.outcome with
  | .error (.capacity displaced) => some displaced
  | _ => none

/-- The items that the replays of a flop displace. -/
def FlopReport.dropped (report : FlopReport) : List Item :=
  report.replays.filterMap fun write => handedBack? write.2

/-- An accepted write hands back what its placement leaves over. -/
theorem toList_handedBack?_of_accepted (report : WriteReport) :
    (handedBack? (.ok report)).toList = report.placement.leftOver := by
  rcases report with ⟨_, placement⟩
  cases placement <;> rfl

/-- A write that does not fit hands nothing back. -/
theorem handedBack?_of_misfit
    {G : Type}
    {table : Table G}
    {item : Item}
    {error : Error}
    (misfit : table.check item = .error error) :
    handedBack? (.error error) = none := by
  cases error with
  | capacity displaced => exact absurd misfit (table.check_ne_capacity item displaced)
  | _ => rfl

namespace Snapshot

variable {G : Type} [CoinSource G]

/-- The items that housekeeping takes out of a snapshot when an item is written to it. -/
def evictedFor (snapshot : Snapshot G) (config : Config) (item : Item) : List Item :=
  match snapshot.table.check item with
  | .error _ => []
  | .ok () => snapshot.housekept config

/-- A write that fits moves items only to the writer and out of the history. -/
theorem items_apply
    {snapshot next : Snapshot G}
    (valid : snapshot.table.Valid)
    {config : Config}
    {item : Item}
    {report : WriteReport}
    (applied : snapshot.apply config item = (.ok report, next)) :
    ({item} + snapshot.table.items : Multiset Item) =
      next.table.items + (handedBack? (.ok report)).toList + snapshot.evictedFor config item := by
  cases checked : snapshot.table.check item with
  | error error =>
      rw [apply_of_misfit checked] at applied
      cases applied
  | ok =>
      have evicted := items_housekeep valid config
      rcases housekept : snapshot.housekeep config with ⟨count, rest⟩
      have validRest :=
        housekeep_keeps Table.Valid (fun _ key valid => valid.remove key) housekept valid
      obtain ⟨stillFits, outcome⟩ := apply_of_fits housekept checked
      have placed := Table.items_place validRest stillFits
      cases outcome.symm.trans applied
      rw [housekept] at evicted
      rw [toList_handedBack?_of_accepted, evictedFor, checked]
      have evictedSum :
          (snapshot.housekept config + rest.table.items : Multiset Item) =
            snapshot.table.items :=
        Multiset.coe_eq_coe.mpr evicted
      have placedSum :
          ((rest.table.place item).1.leftOver + (rest.table.place item).2.items : Multiset Item) =
            {item} + rest.table.items :=
        Multiset.coe_eq_coe.mpr placed
      calc
        ({item} + snapshot.table.items : Multiset Item) =
            {item} + rest.table.items + snapshot.housekept config := by
          rw [← evictedSum]
          abel
        _ = (rest.table.place item).2.items + (rest.table.place item).1.leftOver +
            snapshot.housekept config := by
          rw [← placedSum]
          abel

end Snapshot

/-! ## What a trace tells -/

namespace Session

/-- The item that the response of an entry of a trace hands back. -/
def handedBackItem? : Call × Response → Option Item
  | (_, .written outcome) => handedBack? outcome
  | _ => none

/-- The items that the responses of a trace hand back, in order. -/
def handedBackItems (trace : List (Call × Response)) : List Item :=
  trace.filterMap handedBackItem?

theorem acceptedWrites_cons (entry : Call × Response) (trace : List (Call × Response)) :
    acceptedWrites (entry :: trace) = (acceptedItem? entry).toList ++ acceptedWrites trace := by
  simp only [acceptedWrites, List.filterMap_eq_flatMap_toList, List.flatMap_cons]

theorem handedBackItems_cons (entry : Call × Response) (trace : List (Call × Response)) :
    handedBackItems (entry :: trace) =
      (handedBackItem? entry).toList ++ handedBackItems trace := by
  simp only [handedBackItems, List.filterMap_eq_flatMap_toList, List.flatMap_cons]

/-- The accepted write that an entry of a trace shows, with its outcome. -/
def acceptedOutcome? : Call × Response → Option (Item × Except Error WriteReport)
  | (.write item, .written (.ok report)) => some (item, .ok report)
  | _ => none

/-- The accepted writes of a trace since its last successful flop, with their outcomes, in order. -/
def unpublishedOutcomes (trace : List (Call × Response)) :
    List (Item × Except Error WriteReport) :=
  (trace.rtakeWhile fun entry => !isPublication entry).filterMap acceptedOutcome?

/-- After a successful flop no write is unpublished. -/
theorem unpublishedOutcomes_concat_of_publication
    (trace : List (Call × Response))
    {entry : Call × Response}
    (publication : isPublication entry = true) :
    unpublishedOutcomes (trace ++ [entry]) = [] := by
  rw [unpublishedOutcomes, List.rtakeWhile_concat_neg _ _ _ (by simp [publication]),
    List.filterMap_nil]

/-- Anything but a successful flop adds the write that it accepts, if any. -/
theorem unpublishedOutcomes_concat_of_not_publication
    (trace : List (Call × Response))
    {entry : Call × Response}
    (quiet : isPublication entry = false) :
    unpublishedOutcomes (trace ++ [entry]) =
      unpublishedOutcomes trace ++ (acceptedOutcome? entry).toList := by
  rw [unpublishedOutcomes, List.rtakeWhile_concat_pos _ _ _ (by simp [quiet]),
    List.filterMap_append, unpublishedOutcomes,
    List.filterMap_eq_flatMap_toList acceptedOutcome? [entry], List.flatMap_singleton]

theorem map_fst_acceptedOutcome? (entry : Call × Response) :
    (acceptedOutcome? entry).map Prod.fst = acceptedItem? entry := by
  rcases entry with ⟨call, response⟩
  cases call with
  | write item =>
      cases response with
      | written outcome => cases outcome <;> rfl
      | _ => rfl
  | _ => rfl

end Session

namespace Replica

open Session

variable {G E S : Type} [CoinSource G] [ShardLike S] [ScanEngine E S] {replica : Replica G E S}

/-! ## The account of a session -/

/-- The items that housekeeping evicts in a call: only a write has it run. -/
def evictedIn (replica : Replica G E S) : Call → List Item
  | .write item => replica.alternate.evictedFor replica.config item
  | _ => []

/-- The items that housekeeping evicts in the calls of a session.  What the replay of a flop evicts
from the other table is not counted again. -/
def evictedItems (replica : Replica G E S) : List Call → List Item
  | [] => []
  | call :: calls => replica.evictedIn call ++ evictedItems (replica.call call).2 calls

/-- Two accounts of which the second starts with what the first has in stock add up to one. -/
theorem balance_trans
    {received stored stock handed evicted receivedLater stockLater handedLater evictedLater :
      Multiset Item}
    (now : received + stored = stock + handed + evicted)
    (later : receivedLater + stock = stockLater + handedLater + evictedLater) :
    received + receivedLater + stored =
      stockLater + (handed + handedLater) + (evicted + evictedLater) :=
  calc
    received + receivedLater + stored = receivedLater + (received + stored) := by abel
    _ = receivedLater + stock + (handed + evicted) := by
      rw [now]
      abel
    _ = stockLater + (handed + handedLater) + (evicted + evictedLater) := by
      rw [later]
      abel

/-- The account balances over one call. -/
theorem InStep.items_call
    (inStep : replica.InStep)
    (valid : replica.alternate.table.Valid)
    (call : Call) :
    ((acceptedItem? (call, (replica.call call).1)).toList + replica.alternate.table.items :
        Multiset Item) =
      (replica.call call).2.alternate.table.items +
        (handedBackItem? (call, (replica.call call).1)).toList +
        replica.evictedIn call := by
  have alternateAfter := inStep.alternate_call call
  cases call with
  | write item =>
      cases checked : replica.alternate.table.check item with
      | error error =>
          rw [Replica.call, write_of_misfit checked]
          simp [acceptedItem?, handedBackItem?, handedBack?_of_misfit checked, evictedIn,
            Snapshot.evictedFor, checked]
      | ok =>
          obtain ⟨report, alternate, applied, written⟩ := write_of_fits checked
          rw [Replica.call, written]
          exact Snapshot.items_apply valid applied
  | _ =>
      have unchanged : (replica.call _).2.alternate = replica.alternate := alternateAfter
      rw [unchanged]
      simp [acceptedItem?, handedBackItem?, evictedIn, Replica.call]

/-- The account balances over a session: what was stored and what was accepted is stored, handed
back or evicted. -/
theorem InStep.items_after
    (inStep : replica.InStep)
    (valid : replica.alternate.table.Valid)
    (calls : List Call) :
    (acceptedWrites (replica.trace calls) + replica.alternate.table.items : Multiset Item) =
      (replica.after calls).alternate.table.items + handedBackItems (replica.trace calls) +
        replica.evictedItems calls := by
  induction calls generalizing replica with
  | nil =>
      change (([] : List Item) + replica.alternate.table.items : Multiset Item) =
        replica.alternate.table.items + ([] : List Item) + ([] : List Item)
      simp
  | cons call calls inductionHypothesis =>
      have validNext : (replica.call call).2.alternate.table.Valid := by
        rw [inStep.alternate_call]
        exact Snapshot.valid_applyAll valid _ _
      have now := inStep.items_call valid call
      have later := inductionHypothesis (inStep.call call) validNext
      have total := balance_trans now later
      simp only [Multiset.coe_add] at total ⊢
      rwa [← acceptedWrites_cons, ← handedBackItems_cons] at total

/-! ## The replay of the pending writes -/

/-- The replay of the pending writes gives each of them the outcome that its writer saw. -/
theorem InStep.replay_after
    (inStep : replica.InStep)
    (nonePending : replica.pending = [])
    (calls : List Call) :
    (replay (replica.after calls).config (replica.after calls).pending
        (replica.after calls).active).1 =
      unpublishedOutcomes (replica.trace calls) := by
  induction calls using List.reverseRecOn with
  | nil =>
      change (replay replica.config replica.pending replica.active).1 = []
      rw [nonePending]
      rfl
  | append_singleton calls call inductionHypothesis =>
      have caughtUp := (inStep.after calls).caughtUp
      rw [after_concat, trace_concat]
      rcases (replica.after calls).call_cases call with
        ⟨_, _, quiet, noWrite, notPublished⟩ | ⟨item, report, _, rfl, applied, accepts⟩ |
          ⟨_, _, rfl, _, publishes⟩
      · have noItem := List.filterMap_eq_nil_iff.mp noWrite _ List.mem_cons_self
        rw [← map_fst_acceptedOutcome?, Option.map_eq_none_iff] at noItem
        rw [quiet, unpublishedOutcomes_concat_of_not_publication _ notPublished, noItem,
          ← inductionHypothesis]
        exact (List.append_nil _).symm
      · rw [accepts, unpublishedOutcomes_concat_of_not_publication _ rfl, ← inductionHypothesis]
        dsimp only
        rw [replay_fst_append, caughtUp, replay_singleton, applied]
        rfl
      · rw [publishes, unpublishedOutcomes_concat_of_publication _ rfl]
        rfl

theorem map_fst_replay (config : Config) (items : List Item) (snapshot : Snapshot G) :
    (replay config items snapshot).1.map Prod.fst = items := by
  induction items generalizing snapshot with
  | nil => rfl
  | cons item items inductionHypothesis =>
      exact congrArg (item :: ·) (inductionHypothesis (snapshot.apply config item).2)

/-- Only accepted writes hand items back. -/
theorem handedBackItem?_call (replica : Replica G E S) (call : Call) :
    handedBackItem? (call, (replica.call call).1) =
      (acceptedOutcome? (call, (replica.call call).1)).bind fun write =>
        handedBack? write.2 := by
  cases call with
  | write item =>
      cases checked : replica.alternate.table.check item with
      | error error =>
          rw [Replica.call, write_of_misfit checked]
          exact handedBack?_of_misfit checked
      | ok =>
          obtain ⟨report, _, _, written⟩ := write_of_fits checked
          rw [Replica.call, written]
          rfl
  | _ => rfl

theorem handedBackItem?_of_mem_trace
    {calls : List Call}
    {entry : Call × Response}
    (member : entry ∈ replica.trace calls) :
    handedBackItem? entry = (acceptedOutcome? entry).bind fun write => handedBack? write.2 := by
  induction calls generalizing replica with
  | nil => cases member
  | cons call calls inductionHypothesis =>
      rcases List.mem_cons.mp member with rfl | later
      · exact replica.handedBackItem?_call call
      · exact inductionHypothesis later

/-- What the unpublished writes of a session hand back is the last of what the session hands back.
-/
theorem handedBack_unpublishedOutcomes (replica : Replica G E S) (calls : List Call) :
    (unpublishedOutcomes (replica.trace calls)).filterMap (fun write => handedBack? write.2) <:+
      handedBackItems (replica.trace calls) := by
  have unpublished :=
    List.rtakeWhile_suffix (fun entry => !isPublication entry) (replica.trace calls)
  rw [unpublishedOutcomes, List.filterMap_filterMap,
    ← List.filterMap_congr fun entry member =>
      handedBackItem?_of_mem_trace (unpublished.subset member)]
  exact unpublished.filterMap handedBackItem?

/-- In any session with a freshly created replica, the accepted items are those in the alternate
table, those that errors handed back and those that housekeeping evicted, each of them exactly as
often as it was accepted.  A flop that succeeds next replays the pending writes with the outcomes
that their writers saw, and so it drops only what was handed back already. -/
theorem writes_accounted_for
    {config : Config}
    {registry : Registry E}
    {fresh : Replica G E S}
    (created : create config registry = .ok fresh)
    (calls : List Call) :
    (acceptedWrites (fresh.trace calls) : Multiset Item) =
        (fresh.after calls).alternate.table.items + handedBackItems (fresh.trace calls) +
          fresh.evictedItems calls ∧
      ∀ report next, (fresh.after calls).flop = (.ok report, next) →
        report.replays.map Prod.fst = (fresh.after calls).pending ∧
        report.replays = unpublishedOutcomes (fresh.trace calls) ∧
        report.dropped <:+ handedBackItems (fresh.trace calls) := by
  have inStep := inStep_of_create created
  obtain ⟨_, emptied, _⟩ := snapshots_of_create created
  obtain ⟨geometry, _, alternateEmpty⟩ := Snapshot.eq_of_empty emptied
  have nonePending : fresh.pending = [] := by
    obtain ⟨_, _, _, _, _, _, _, _, rfl⟩ := eq_of_create created
    rfl
  constructor
  · have valid : fresh.alternate.table.Valid := by
      rw [alternateEmpty]
      exact Table.valid_empty geometry config.seed
    have nothing : fresh.alternate.table.items = [] := by
      rw [alternateEmpty]
      exact Table.items_empty geometry config.seed
    have balance := inStep.items_after valid calls
    rwa [nothing, Multiset.coe_nil, Multiset.add_zero] at balance
  · intro report next flopped
    have outcomes := inStep.replay_after nonePending calls
    obtain ⟨_, _, _, rfl, _⟩ := eq_of_flop flopped
    refine ⟨map_fst_replay _ _ _, outcomes, ?_⟩
    rw [FlopReport.dropped, outcomes]
    exact fresh.handedBack_unpublishedOutcomes calls

/-- A replica of two one-byte slots on which more was written than fits: three items are accounted
for, two of which a flop replays. -/
theorem writes_accounted_for_of_overfilled :
    ∃ (fresh : Replica ChaCha ScanMethod Shard) (report : FlopReport)
        (next : Replica ChaCha ScanMethod Shard),
      create (Config.ofDimensions 2 1 1) Registry.standard = .ok fresh ∧
      (fresh.after overfillingCalls).flop = (.ok report, next) ∧
      (fresh.after overfillingCalls).alternate.table.items.length +
          (handedBackItems (fresh.trace overfillingCalls)).length +
          (fresh.evictedItems overfillingCalls).length = 3 ∧
      report.replays.map Prod.fst = [⟨⟨2, 0, 1⟩, [6]⟩, ⟨⟨3, 0, 1⟩, [7]⟩] ∧
      report.replays = unpublishedOutcomes (fresh.trace overfillingCalls) := by
  have evaluated :
      ((create (Config.ofDimensions 2 1 1) Registry.standard :
          Except Error (Replica ChaCha ScanMethod Shard)).map fun fresh =>
        ((acceptedWrites (fresh.trace overfillingCalls)).length,
          (fresh.after overfillingCalls).pending)).toOption =
        some (3, [⟨⟨2, 0, 1⟩, [6]⟩, ⟨⟨3, 0, 1⟩, [7]⟩]) := by
    decide +kernel
  obtain ⟨fresh, created, seen⟩ := Error.toOption_map_eq_some.mp evaluated
  obtain ⟨three, pending⟩ := Prod.mk.inj seen
  obtain ⟨balance, replays⟩ := writes_accounted_for created overfillingCalls
  have flopped := ((sound_of_create created).after overfillingCalls).flop_eq
  obtain ⟨replayed, outcomes, _⟩ := replays _ _ flopped
  have counted := congrArg Multiset.card balance
  rw [Multiset.card_add, Multiset.card_add] at counted
  simp only [Multiset.coe_card, three] at counted
  exact ⟨fresh, _, _, created, flopped, counted.symm, replayed.trans pending, outcomes⟩

end Replica
end ObliviousLog
