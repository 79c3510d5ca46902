import MessageRelay.Proofs.Pipeline
import MessageRelay.Proofs.Poll.Counts
import MessageRelay.Proofs.Relay.Answers
import MessageRelay.Proofs.Run.Reports

/-!
# The metrics of a run balance

A run counts in four places: the batch when it is extracted, the queries and the times until
finality in its polls, the times until a receipt in its relays, and the outcomes at its end. What a
registry has more behind the run is set against what was done there (`MessageRelay.Run.Balances`).

A relay counts one time if one of its submissions was answered with a receipt
(`MessageRelay.Relay.events_submit`). The driver counts nothing else, so as long as no relay has
halted it, its events are those of the messages that are settled
(`MessageRelay.Run.State.Accounted`), and every move of the driver keeps it so, in whatever order
the polls end. What the polls count is known one by one, however far each of them has got
(`MessageRelay.Poll.observe_events`).
-/

namespace MessageRelay

open Metrics

/-! ### What a relay counts -/

/-- The call was answered with a receipt, whatever its status. -/
def LedgerCall.hasReceipt (c : LedgerCall) : Bool :=
  match c.answer with
  | some (_, .receipt _) => true
  | _ => false

theorem LedgerCall.HasFailed.hasReceipt {c : LedgerCall} (h : c.HasFailed) :
    c.hasReceipt = false := by
  obtain ⟨t, e, he⟩ := h
  rw [LedgerCall.hasReceipt, he]

namespace Relay

/-- How long it took from the first of some submissions until there was a receipt at an instant, if
one of them was answered with a receipt. -/
def latency? (calls : List LedgerCall) (instant : Nat) : Option Nat :=
  if calls.any LedgerCall.hasReceipt then calls.head?.map fun first => instant - first.start
  else none

/-- The observation of such a time. -/
def latencyOf (time : Nat) : Float :=
  (Duration.ofMillis time).toSeconds

/-- What a relay with given submissions counts when it comes to a result. -/
def latencies (calls : List LedgerCall) (instant : Nat) : List Event :=
  ((latency? calls instant).map fun time => .relayLatency (latencyOf time)).toList

theorem any_hasReceipt_of_failed {front : List (Attempt DestinationReceipt)}
    (h : ∀ a ∈ front, a.HasFailed) :
    (front.map callOfAttempt).any LedgerCall.hasReceipt = false := by
  refine List.any_eq_false.mpr fun call hcall => ?_
  obtain ⟨a, ha, rfl⟩ := List.mem_map.mp hcall
  rw [(hasFailed_callOfAttempt (h a ha)).hasReceipt]
  exact Bool.false_ne_true

/-- **A relay that comes to a result counts its time** if one of its submissions was answered with a
receipt, and nothing else. -/
theorem events_submit {ledger : Ledger} {p : RetryPolicy} {m : Message} {start t : Nat}
    {result : Except RelayError Hash}
    (h : (submit ledger p m start).ending = .result t result) :
    (submit ledger p m start).events = latencies (submit ledger p m start).calls t := by
  obtain ⟨first, rest, hcalls, hstart, -⟩ := submit_first ledger p m start
  have hconcludes := p.attemptsFrom_concludes (ledger.submit m) p.maxRetries.toNat 0 start
  have hlatency : latency? (submit ledger p m start).calls t =
      if (submit ledger p m start).calls.any LedgerCall.hasReceipt then some (t - start)
      else none := by
    rw [latency?, hcalls, ← hstart]
    rfl
  rw [latencies, hlatency, calls_submit]
  rw [ending_submit] at h
  rw [submit]
  rw [← RetryPolicy.attempts] at hconcludes
  generalize p.attempts (ledger.submit m) start = made at *
  obtain ⟨attempts, ending⟩ := made
  dsimp only at *
  cases hconcludes with
  | value hfront =>
    obtain ⟨rfl, -⟩ := RelayEnding.result.inj h
    simp [latencyOf, callOfAttempt, LedgerCall.hasReceipt, LedgerCall.answered]
  | failure hfront =>
    simp [any_hasReceipt_of_failed hfront, callOfAttempt, LedgerCall.hasReceipt,
      LedgerCall.answered]
  | death | stuck => cases h

/-- A time is counted exactly if there was a receipt. -/
theorem isSome_latency? (calls : List LedgerCall) (instant : Nat) :
    (latency? calls instant).isSome = calls.any LedgerCall.hasReceipt := by
  rw [latency?]
  cases calls with
  | nil => rfl
  | cons call calls => split <;> simp_all

end Relay

/-! ### What the driver counts -/

namespace Run

/-- What the relay of a settled message has counted. -/
def Settlement.events (st : Settlement) : List Event :=
  Relay.latencies st.calls st.instant

namespace State

/-- As long as no relay halts the run, its events are the times of its relays, and nothing else. -/
def Accounted (s : State) : Prop :=
  s.halted = none → s.events = s.settled.flatMap Settlement.events

variable {c : RunConfig} {ledger : Ledger} {keys : List MessageKey} {s : State}

/-- **Settling a message** accounts for the relay of that message. Those that it blocks have had
none. -/
theorem accounted_settle {position : Nat} {outcome : Outcome} {calls : List LedgerCall}
    (h : s.halted = none →
      s.events = s.settled.flatMap Settlement.events ++ Relay.latencies calls s.now) :
    (s.settle c keys position outcome calls).Accounted := by
  have hsettled : (s.settled ++ [(⟨position, outcome, s.now, calls⟩ : Settlement)]).flatMap
      Settlement.events = s.settled.flatMap Settlement.events ++ Relay.latencies calls s.now := by
    rw [List.flatMap_append, List.flatMap_singleton, Settlement.events]
  intro hgo
  by_cases hfail : outcome.isRelayed = false ∧ c.policy = .abortRemaining
  · rw [settle_of_failure hfail.1 hfail.2, abortBehind] at hgo ⊢
    have hblocked : (s.gate.remaining.map fun p =>
        (⟨p, .aborted (keys[position]?.getD default), s.now, []⟩ : Settlement)).flatMap
          Settlement.events = [] := by
      rw [List.flatMap_map]
      exact List.flatMap_eq_nil_iff.mpr fun _ _ => rfl
    show s.events = List.flatMap Settlement.events (_ ++ _)
    rw [List.flatMap_append, hsettled, hblocked, List.append_nil]
    exact h hgo
  · rw [settle_of_not_failure hfail] at hgo ⊢
    exact (h hgo).trans hsettled.symm

/-- **Taking a message** counts the time of its relay, unless that halts the run. -/
theorem Accounted.take (h : s.Accounted) (position : Nat) (polled : Polled) :
    (s.take c keys (relayOn c ledger) position polled).Accounted := by
  cases polled with
  | failed outcome =>
    refine accounted_settle fun hgo => ?_
    rw [h hgo]
    exact (List.append_nil _).symm
  | finalized m =>
    cases hend : (relayOn c ledger m s.now).ending with
    | death | stuck =>
      intro hgo
      simp only [State.take, hend] at hgo
      cases hgo
    | result instant result =>
      have hrelay : (relayOn c ledger m s.now).events =
          Relay.latencies (relayOn c ledger m s.now).calls instant := Relay.events_submit hend
      simp only [State.take, hend]
      refine accounted_settle fun hgo => ?_
      show s.events ++ (relayOn c ledger m s.now).events = _
      rw [h hgo, hrelay]

/-- The other moves count nothing. -/
theorem kept_accounted : Kept c keys (relayOn c ledger) fun s => s.Accounted where
  take position polled hs := hs.take position polled
  frame hs hsettled hevents hhalted hgo := by
    rw [hsettled, hevents]
    exact hs (hhalted.symm.trans hgo)

end State

/-- **The driver counts what its relays count**, whatever the order in which the polls end. -/
theorem accounted_finish (c : RunConfig) (ledger : Ledger) (keys : List MessageKey)
    (done : List Completion) : (finish c keys (relayOn c ledger) done).Accounted := by
  have hstart : (drive c keys (relayOn c ledger) []).Accounted := fun _ => rfl
  exact State.kept_accounted.finish hstart done

/-- **All calls of the driver are submissions.** -/
theorem Finished.isCheck_of_settled {c : RunConfig} {ledger : Ledger} {batch : Batch}
    {done : List Completion} {s : State} (h : Finished c ledger batch done s)
    (hhalted : s.halted = none) :
    ∀ call ∈ s.settled.flatMap Settlement.calls, call.isCheck = false := by
  have hseries : ∀ {handed own}, Series c ledger handed own →
      ∀ st ∈ own, ∀ call ∈ st.calls, call.isCheck = false := by
    intro handed own hown st hst call hcall
    obtain ⟨p, hp⟩ := List.getElem?_of_mem hst
    obtain ⟨-, instant, polled, start, -, -, -, hsettles⟩ := hown.get hp
    cases hsettles with
    | failed => exact absurd hcall List.not_mem_nil
    | relayed _ _ m =>
      have hkind : call.kind = .submit :=
        (Relay.submit_call ledger c.retry m.message start hcall).1
      rw [LedgerCall.isCheck, hkind]
  intro call hcall
  obtain ⟨st, hst, hcall⟩ := List.mem_flatMap.mp hcall
  obtain ⟨-, handed, -, ⟨hown, -⟩ | ⟨-, before, failure, hown, -, -, hsettled⟩⟩ :=
    h.settled_cases hhalted
  · exact hseries hown st hst call hcall
  · rw [hsettled, List.append_cons] at hst
    rcases List.mem_append.mp hst with hst | hst
    · exact hseries hown st hst call hcall
    · -- a blocked message has no calls
      obtain ⟨p, -, rfl⟩ := List.mem_map.mp hst
      exact absurd hcall List.not_mem_nil

/-! ### The balance -/

/-- **The metrics of a run balance**: what a registry has more behind a run than before it is what
the run has done. -/
structure Balances (batch : Batch) (t : Trace) (before after : Registry) : Prop where
  /-- As many more messages were extracted as there are in the batch. -/
  extracted : before.extracted.getD 0 + batch.size < 2 ^ 53 →
    after.extracted = some (before.extracted.getD 0 + batch.size)
  /-- Under each label there are as many more outcomes as there are reports with it. -/
  outcomes : ∀ label, after.outcomesOf label =
    before.outcomesOf label + t.reports.countP fun r => r.outcome.label == label
  /-- Under all labels together there are as many more as there are messages. -/
  totalOutcomes : after.totalOutcomes = before.totalOutcomes + batch.size
  /-- There are as many more queries as were made. -/
  pollAttempts : after.pollAttempts = before.pollAttempts + t.calls.countP LedgerCall.isCheck
  /-- There is one time more for each poll that has called its message final. -/
  finalityWaits : after.finalityWaits.length = before.finalityWaits.length +
    t.polls.countP fun poll => (Poll.finalized? poll.ending).isSome
  /-- It is the time that the poll took. -/
  waits : after.finalityWaits =
    (t.polls.filterMap fun poll => (Poll.finalized? poll.ending).map Poll.waitOf).reverse ++
      before.finalityWaits
  /-- There is one time more for each message of which a submission was answered with a receipt. -/
  relayLatencies : after.relayLatencies.length = before.relayLatencies.length +
    t.state.settled.countP fun st => st.calls.any LedgerCall.hasReceipt
  /-- It is the time that the relay took. -/
  latencies : after.relayLatencies =
    (t.state.settled.filterMap fun st =>
      (Relay.latency? st.calls st.instant).map Relay.latencyOf).reverse ++ before.relayLatencies

variable {c : RunConfig} {ledger : Ledger} {batch : Batch} {done : List Completion} {s : State}

/-- What is counted behind the extraction of a batch. -/
def counted (polls : List PollTrace) (settled : List Settlement) (reports : List Report) :
    List Event :=
  polls.flatMap (·.events) ++ settled.flatMap Settlement.events ++
    reports.map fun r => .outcome r.outcome

section Counted

variable {polls : List PollTrace} {settled : List Settlement} {reports : List Report}

/-- Relays count nothing but times until a receipt. -/
theorem exists_of_mem_events {e : Event} (he : e ∈ settled.flatMap Settlement.events) :
    ∃ seconds, e = .relayLatency seconds := by
  obtain ⟨st, -, he⟩ := List.mem_flatMap.mp he
  obtain ⟨time, -, rfl⟩ := Option.map_eq_some_iff.mp (Option.mem_toList.mp he)
  exact ⟨_, rfl⟩

variable (hpolls : ∀ poll ∈ polls, Poll.Accounted poll)
include hpolls

theorem kind_of_mem_polls {e : Event} (he : e ∈ polls.flatMap (·.events)) :
    e.isExtracted = false ∧ e.label? = none ∧ e.relayLatency? = none := by
  obtain ⟨poll, hpoll, he⟩ := List.mem_flatMap.mp he
  exact (hpolls poll hpoll).kind_of_mem he

theorem isExtracted_of_counted :
    ∀ e ∈ counted polls settled reports, e.isExtracted = false := by
  intro e he
  rcases List.mem_append.mp he with he | he
  · rcases List.mem_append.mp he with he | he
    · exact (kind_of_mem_polls hpolls he).1
    · obtain ⟨seconds, rfl⟩ := exists_of_mem_events he
      rfl
  · obtain ⟨r, -, rfl⟩ := List.mem_map.mp he
    rfl

/-- Only reports count as outcomes. -/
theorem countP_label (test : Option String → Bool) (hnone : test none = false) :
    (counted polls settled reports).countP (fun e => test e.label?) =
      reports.countP fun r => test (some r.outcome.label) := by
  have hpoll : (polls.flatMap (·.events)).countP (fun e => test e.label?) = 0 := by
    refine List.countP_eq_zero.mpr fun e he => ?_
    rw [(kind_of_mem_polls hpolls he).2.1, hnone]
    exact Bool.false_ne_true
  have hrelay : (settled.flatMap Settlement.events).countP (fun e => test e.label?) = 0 := by
    refine List.countP_eq_zero.mpr fun e he => ?_
    obtain ⟨seconds, rfl⟩ := exists_of_mem_events he
    exact Bool.eq_false_iff.mp hnone
  rw [counted, List.countP_append, List.countP_append, hpoll, hrelay, List.countP_map,
    Nat.zero_add]
  rfl

/-- Only queries count as such. -/
theorem countP_isPollAttempt :
    (counted polls settled reports).countP Event.isPollAttempt =
      (polls.flatMap (·.calls)).countP LedgerCall.isCheck := by
  have hpoll : (polls.flatMap (·.events)).countP Event.isPollAttempt =
      (polls.flatMap (·.calls)).countP LedgerCall.isCheck := by
    rw [List.countP_flatMap, List.countP_flatMap]
    congr 1
    exact List.map_congr_left fun poll hpoll => (hpolls poll hpoll).countP_isPollAttempt
  have hrelay : (settled.flatMap Settlement.events).countP Event.isPollAttempt = 0 := by
    refine List.countP_eq_zero.mpr fun e he => ?_
    obtain ⟨seconds, rfl⟩ := exists_of_mem_events he
    exact Bool.false_ne_true
  have hreport : (reports.map fun r => Event.outcome r.outcome).countP Event.isPollAttempt = 0 := by
    refine List.countP_eq_zero.mpr fun e he => ?_
    obtain ⟨r, -, rfl⟩ := List.mem_map.mp he
    exact Bool.false_ne_true
  rw [counted, List.countP_append, List.countP_append, hpoll, hrelay, hreport]
  rfl

/-- Only polls whose messages are final tell how long that took. -/
theorem filterMap_finalityWait? :
    (counted polls settled reports).filterMap Event.finalityWait? =
      polls.filterMap fun poll => (Poll.finalized? poll.ending).map Poll.waitOf := by
  have hrelay : (settled.flatMap Settlement.events).filterMap Event.finalityWait? = [] := by
    refine List.filterMap_eq_nil_iff.mpr fun e he => ?_
    obtain ⟨seconds, rfl⟩ := exists_of_mem_events he
    rfl
  have hreport : (reports.map fun r => Event.outcome r.outcome).filterMap Event.finalityWait? =
      [] := by
    refine List.filterMap_eq_nil_iff.mpr fun e he => ?_
    obtain ⟨r, -, rfl⟩ := List.mem_map.mp he
    rfl
  rw [counted, List.filterMap_append, List.filterMap_append, hrelay, hreport, List.append_nil,
    List.append_nil, List.filterMap_flatMap, List.filterMap_eq_flatMap_toList]
  exact List.flatMap_congr fun poll hpoll => (hpolls poll hpoll).filterMap_finalityWait?

/-- Only relays with a receipt tell how long that took. -/
theorem filterMap_relayLatency? :
    (counted polls settled reports).filterMap Event.relayLatency? =
      settled.filterMap fun st => (Relay.latency? st.calls st.instant).map Relay.latencyOf := by
  have hpoll : (polls.flatMap (·.events)).filterMap Event.relayLatency? = [] :=
    List.filterMap_eq_nil_iff.mpr fun e he => (kind_of_mem_polls hpolls he).2.2
  have hreport : (reports.map fun r => Event.outcome r.outcome).filterMap Event.relayLatency? =
      [] := by
    refine List.filterMap_eq_nil_iff.mpr fun e he => ?_
    obtain ⟨r, -, rfl⟩ := List.mem_map.mp he
    rfl
  rw [counted, List.filterMap_append, List.filterMap_append, hpoll, hreport, List.append_nil,
    List.nil_append, List.filterMap_flatMap, List.filterMap_eq_flatMap_toList]
  refine List.flatMap_congr fun st _ => ?_
  rw [Settlement.events, Relay.latencies]
  cases Relay.latency? st.calls st.instant with
  | none => rfl
  | some time => rfl

end Counted

/-- **Accounts that are kept balance**: if the polls have counted what they did, and the driver what
its relays did, then a registry has more behind the run what the run has done. -/
theorem balances_of {polls : List PollTrace} (hpolls : ∀ poll ∈ polls, Poll.Accounted poll)
    (hstate : s.events = s.settled.flatMap Settlement.events) (hhalted : s.halted = none)
    (hcalls : ∀ call ∈ s.settled.flatMap Settlement.calls, call.isCheck = false) (r : Registry) :
    let t := Trace.of batch polls s
    Balances batch t r (r.recordAll t.events) := by
  intro t
  have hevents : r.recordAll t.events =
      (r.record (.extracted batch.size)).recordAll (counted polls s.settled t.reports) := by
    rw [counted, ← hstate]
    rfl
  have hreports : t.reports.length = batch.size := by
    have hkeys : t.reports.map Report.key = batch.keys := map_key_reports s batch.keys
    rw [← List.length_map Report.key, hkeys, length_keys]
  have hchecks : t.calls.countP LedgerCall.isCheck =
      (polls.flatMap (·.calls)).countP LedgerCall.isCheck := by
    have hsettled : (s.settled.flatMap Settlement.calls).countP LedgerCall.isCheck = 0 :=
      List.countP_eq_zero.mpr fun call hcall => Bool.eq_false_iff.mp (hcalls call hcall)
    show (polls.flatMap (·.calls) ++ s.settled.flatMap Settlement.calls ++
      (s.halted.map (·.calls)).getD []).countP LedgerCall.isCheck = _
    rw [hhalted, List.countP_append, List.countP_append, hsettled]
    rfl
  have hwaits := Registry.finalityWaits_recordAll (r.record (.extracted batch.size))
    (counted polls s.settled t.reports)
  have hlatencies := Registry.relayLatencies_recordAll (r.record (.extracted batch.size))
    (counted polls s.settled t.reports)
  rw [filterMap_finalityWait? hpolls] at hwaits
  rw [filterMap_relayLatency? hpolls] at hlatencies
  rw [hevents]
  refine ⟨fun hlt => ?_, fun label => ?_, ?_, ?_, ?_, hwaits, ?_, hlatencies⟩
  · rw [Registry.extracted_recordAll _ _ (isExtracted_of_counted hpolls)]
    exact Registry.extracted_record r hlt
  · rw [Registry.outcomesOf_recordAll, countP_label hpolls (· == some label) rfl]
    rfl
  · rw [Registry.totalOutcomes_recordAll, countP_label hpolls Option.isSome rfl, ← hreports]
    exact congrArg _ (congrFun List.countP_true t.reports)
  · rw [Registry.pollAttempts_recordAll, countP_isPollAttempt hpolls, hchecks]
    rfl
  · rw [hwaits, List.length_append, List.length_reverse, List.length_filterMap_eq_countP,
      Nat.add_comm]
    simp only [Option.isSome_map]
    rfl
  · rw [hlatencies, List.length_append, List.length_reverse, List.length_filterMap_eq_countP,
      Nat.add_comm]
    simp only [Option.isSome_map, Relay.isSome_latency?]
    rfl

/-- The polls of a batch, each one watched up to an instant of its own. -/
def watchedPolls (c : RunConfig) (ledger : Ledger) (batch : Batch) (watched : Nat → Nat) :
    List PollTrace :=
  batch.messages.mapIdx fun p m => Poll.observe ledger m c.schedule (watched p)

/-- **A run balances** when it has come to its end and no relay has halted it, whatever the order in
which its polls end, and however far each of them has got. -/
theorem Finished.balances (h : Finished c ledger batch done s) (hhalted : s.halted = none)
    {polls : List PollTrace} (hpolls : ∀ poll ∈ polls, Poll.Accounted poll) (r : Registry) :
    let t := Trace.of batch polls s
    Balances batch t r (r.recordAll t.events) := by
  have hstate : s.Accounted := by
    rw [h.state]
    exact accounted_finish c ledger batch.keys done
  exact balances_of hpolls (hstate hhalted) hhalted (h.isCheck_of_settled hhalted) r

theorem balances_of_trace {t : Trace} (h : trace c ledger batch = some t)
    (hhalted : t.state.halted = none) (r : Registry) :
    Balances batch t r (r.recordAll t.events) := by
  obtain ⟨n, -, hn⟩ := List.exists_of_findSome?_eq_some h
  obtain ⟨heq, watched, hpolls⟩ := eq_of_observe hn
  have haccounted : ∀ poll ∈ t.polls, Poll.Accounted poll := by
    intro poll hpoll
    rw [hpolls] at hpoll
    obtain ⟨m, -, rfl⟩ := List.mem_map.mp hpoll
    exact Poll.observe_events ledger m c.schedule watched
  have hbalances := (finished_of_observe hn).1.balances hhalted haccounted r
  rw [← heq] at hbalances
  exact hbalances

/-- What a run that returns has counted is what stands in its log. -/
theorem events_stage {ε : Type} {t : Trace} {horizon : Nat} (h : trace c ledger batch = some t)
    (hhalted : t.state.halted = none) :
    (stage c ledger batch : Stage ε Trace).events horizon = t.events := by
  obtain ⟨n, -, hn⟩ := List.exists_of_findSome?_eq_some h
  obtain ⟨heq, -⟩ := eq_of_observe hn
  have hevents : ∀ events : List Event,
      (events.map Deed.counted).filterMap Deed.counted? = events :=
    fun events => by simp [List.filterMap_map, Function.comp_def, Deed.counted?]
  have hcalls : ∀ calls : List (Message × LedgerCall),
      (calls.map fun x => Deed.called x.1 x.2).filterMap Deed.counted? = [] :=
    fun calls => by simp [List.filterMap_map, Function.comp_def, Deed.counted?]
  have houtcomes : ∀ reports : List Report,
      (reports.map fun r => Deed.counted (.outcome r.outcome)).filterMap Deed.counted? =
        reports.map fun r => .outcome r.outcome :=
    fun reports => by simp [List.filterMap_map, Function.comp_def, Deed.counted?]
  have hdeeds : t.deeds.filterMap Deed.counted? = t.events := by
    rw [Trace.deeds, deedsOf, List.filterMap_append, List.filterMap_append, hevents, hcalls,
      List.append_nil, hhalted, heq]
    exact congrArg _ (houtcomes _)
  rw [Stage.events, stage]
  simp only [h]
  exact hdeeds

end Run

/-! ### Runs of receipts and of triggering transactions -/

namespace Pipeline

open Run

variable {p : Pipeline} {destination : Ledger}

/-- A run of receipts balances. -/
theorem balances_of_runReceipts {rs : List SourceReceipt} {t : Trace}
    (hrun : (p.runReceipts destination rs).ending = .value t) (r : Registry) (horizon : Nat) :
    ∃ batch, Batch.ofReceipts p.extractor rs = .ok batch ∧
      Balances batch t r (r.recordAll ((p.runReceipts destination rs).events horizon)) := by
  obtain ⟨batch, hbatch, hstage⟩ := Stage.ending_bind_eq_value_iff.mp hrun
  rw [Stage.ending_ofExcept_eq_value_iff] at hbatch
  obtain ⟨htrace, hhalted⟩ := ending_stage_eq_value_iff.mp hstage
  have hevents : (p.runReceipts destination rs).events horizon = t.events := by
    rw [Stage.events, (runReceipts_of_ok hbatch).2]
    exact events_stage htrace hhalted
  rw [hevents]
  exact ⟨batch, hbatch, balances_of_trace htrace hhalted r⟩

/-- So does a run of the receipt of a triggering transaction. -/
theorem balances_of_runTriggered {source : SourceLedger} {request : TransactionRequest} {t : Trace}
    (hrun : (p.runTriggered destination source request).ending = .value t) (r : Registry)
    (horizon : Nat) :
    ∃ delay receipt batch, source.submit request = .answer delay (.ok receipt) ∧
      Batch.ofReceipts p.extractor [receipt] = .ok batch ∧
      Balances batch t r
        (r.recordAll ((p.runTriggered destination source request).events horizon)) := by
  obtain ⟨receipt, hreceipt, hrelay⟩ := Stage.ending_bind_eq_value_iff.mp hrun
  rw [Stage.ending_mapError_eq_value_iff] at hreceipt hrelay
  obtain ⟨delay, hsubmit⟩ := Stage.ending_perform_eq_value_iff.mp hreceipt
  obtain ⟨batch, hbatch, hbalances⟩ := balances_of_runReceipts hrelay r horizon
  refine ⟨delay, receipt, batch, hsubmit, hbatch, ?_⟩
  have hevents : (p.runTriggered destination source request).events horizon =
      (p.runReceipts destination [receipt]).events horizon := by
    rw [Stage.events, log_runTriggered, hsubmit]
    rfl
  rw [hevents]
  exact hbalances

/-- **The metrics balance.** Behind a run that returns, whatever the policy, the ledger, the order
in which the polls end, and the instants up to which each of them goes on, a registry has more what
the run has done. The same holds of the runs of receipts and of a triggering transaction, by what
stands in their logs. If there is no run, then nothing is counted. -/
theorem metrics_balance (p : Pipeline) (destination : Ledger) (r : Registry) :
    (∀ (batch : Batch) (done : List Completion) (s : State) (watched : Nat → Nat),
      Finished p.config destination batch done s → s.halted = none →
        let t := Trace.of batch (watchedPolls p.config destination batch watched) s
        Balances batch t r (r.recordAll t.events)) ∧
    (∀ rs horizon,
      let run := p.runReceipts destination rs
      (∀ t, run.ending = .value t → ∃ batch, Batch.ofReceipts p.extractor rs = .ok batch ∧
        Balances batch t r (r.recordAll (run.events horizon))) ∧
      ∀ err, run.ending = .error err → r.recordAll (run.events horizon) = r) ∧
    ∀ source request horizon,
      let triggered := p.runTriggered destination source request
      (∀ t, triggered.ending = .value t →
        ∃ delay receipt batch, source.submit request = .answer delay (.ok receipt) ∧
          Batch.ofReceipts p.extractor [receipt] = .ok batch ∧
          Balances batch t r (r.recordAll (triggered.events horizon))) ∧
      ∀ err, triggered.ending = .error err → r.recordAll (triggered.events horizon) = r := by
  refine ⟨?inOrder,
    fun rs horizon => ⟨fun t hrun => balances_of_runReceipts hrun r horizon, ?refused⟩,
    fun source request horizon => ⟨fun t hrun => balances_of_runTriggered hrun r horizon,
      ?unstarted⟩⟩
  case inOrder =>
    intro batch done s watched hfinished hhalted
    refine hfinished.balances hhalted (fun poll hpoll => ?_) r
    obtain ⟨i, hi, rfl⟩ := List.mem_mapIdx.mp hpoll
    exact Poll.observe_events _ _ _ _
  case refused =>
    intro err hrun
    rw [Stage.events, log_runReceipts_of_error hrun]
    rfl
  case unstarted =>
    intro err hrun
    rw [Stage.events, log_runTriggered_of_error hrun]
    rfl

/-- Of three messages the first one is relayed, the poll of the second one dies before it has asked
anything, and the third one, which is final by then, is blocked. -/
theorem metrics_balance_three :
    let p : Pipeline := { config := { retry := .disabled } }
    let ledger := Ledger.prompt fun _ => successStatus
    let s := finish p.config Batch.three.keys (relayOn p.config ledger) threeArrivals
    let polls := watchedPolls p.config ledger Batch.three fun position =>
      if position = 1 then 0 else 1
    let after := Registry.ofEvents (Trace.of Batch.three polls s).events
    Finished p.config ledger Batch.three threeArrivals s ∧ s.halted = none ∧
      after.extracted = some 3 ∧
      outcomeLabels.map (fun label => after.outcomesOf label) = [1, 0, 1, 0, 1] ∧
      after.totalOutcomes = 3 ∧ after.pollAttempts = 2 ∧ after.finalityWaits.length = 2 ∧
      after.relayLatencies.length = 1 := by
  intro p ledger s polls after
  have hfinished := finished_three .abortRemaining fun _ => successStatus
  have hhalted : s.halted = none := Option.isNone_iff_eq_none.mp outcomes_three.1
  have hbalances := (metrics_balance p ledger {}).1 Batch.three threeArrivals s
    (fun position => if position = 1 then 0 else 1) hfinished hhalted
  have hreports : ∀ label, after.outcomesOf label = _ := hbalances.outcomes
  refine ⟨hfinished, hhalted, hbalances.extracted (by decide), ?_, hbalances.totalOutcomes,
    hbalances.pollAttempts.trans ?_, hbalances.finalityWaits.trans ?_,
    hbalances.relayLatencies.trans ?_⟩
  · simp only [hreports]
    decide +kernel
  · decide +kernel
  · decide +kernel
  · decide +kernel

end Pipeline

end MessageRelay
