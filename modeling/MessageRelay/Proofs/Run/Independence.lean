import MessageRelay.Proofs.Relay.Untimed
import MessageRelay.Proofs.Run.Reports
import MessageRelay.Proofs.Run.Submissions

/-!
# Runs do not depend on the schedule

What a run does is decided by the batch, the policy, the way submissions are retried, what the polls
come to and what the submissions are answered (`MessageRelay.Run.Scenario`). Polls may end at any
time and in any order, and whether they are cancelled behind a failure is of no consequence.

The reason is that all these runs do the same as one that knows no clock and no polls
(`MessageRelay.Run.Scenario.relayFrom`): it goes through the batch from front to back, and when it
comes to a message it knows already what the message's poll comes to. A run that is told so bit by
bit and in another order settles the same messages in the same way, only at other instants
(`MessageRelay.Run.Scenario.Ends.untimed_eq`).
-/

namespace MessageRelay

/-- A settlement without its instants. -/
def Settlement.untimed (st : Settlement) : Settlement :=
  ⟨st.position, st.outcome, 0, st.calls.map LedgerCall.untimed⟩

namespace Run

/-- **The submissions of a run**, without their instants: for each message that is submitted, its
position and the calls of its relay. -/
def State.submissions (s : State) : List (Nat × List LedgerCall) :=
  s.blocks.map fun b => (b.1, b.2.map LedgerCall.untimed)

/-! ### Scenarios -/

/-- What the poll of a message comes to. -/
inductive Fate where
  /-- The message is final. -/
  | finalized
  /-- The poll times out or fails. -/
  | failed (outcome : Outcome)
  /-- The task dies. -/
  | died
deriving DecidableEq

/-- The outcome of a message that is not relayed. -/
def Fate.failure? : Fate → Option Outcome
  | finalized => none
  | failed outcome => some outcome
  | died => some (.pollFailed "poll task ended unexpectedly")

/-- What is told of a poll when it ends. -/
def fateOf (d : Completion) : Fate :=
  match d.polled with
  | some (.finalized _) => .finalized
  | some (.failed outcome) => .failed outcome
  | none => .died

/-- **What decides a run.** -/
structure Scenario where
  /-- The messages. -/
  batch : Batch
  /-- What happens behind a failure. -/
  policy : FailurePolicy
  /-- How submissions are retried. -/
  retry : RetryPolicy
  /-- What the polls come to, by position. -/
  fate : Nat → Fate
  /-- What the submissions of each message are answered, by number. -/
  answers : Message → Nat → Reply DestinationReceipt

namespace Scenario

/-- **A run of a scenario**, which has come to its end. The rest of its configuration and the ledger
otherwise are its own, and so are the instants. -/
structure Ends (sc : Scenario) (c : RunConfig) (ledger : Ledger) (done : List Completion)
    (s : State) : Prop where
  finished : Finished c ledger sc.batch done s
  policy : c.policy = sc.policy
  retry : c.retry = sc.retry
  fate : ∀ d ∈ done, fateOf d = sc.fate d.position
  answers : ∀ b ∈ s.blocks, ∀ m, sc.batch.messages[b.1]? = some m → ∀ k call, b.2[k]? = some call →
    (ledger.submit m k call.start).untimed = (sc.answers m k).untimed

/-! ### The run without a clock -/

variable (sc : Scenario)

/-- A ledger that answers submissions at once. -/
def ledger : Ledger where
  estimate _ _ := .silence
  check _ _ _ _ := .silence
  finalityTime _ _ := .silence
  submit m k _ := sc.answers m k

/-- The relay of the message at a position. -/
def relay (p : Nat) : RelayTrace :=
  Relay.submit sc.ledger sc.retry (sc.batch.messages[p]?.getD default) 0

/-- How the message at a position is settled when its turn comes. Its relay may not come to an
end. -/
def settle? (p : Nat) : Option Settlement :=
  match (sc.fate p).failure? with
  | some outcome => some ⟨p, outcome, 0, []⟩
  | none =>
    match (sc.relay p).ending with
    | .result _ result => some ⟨p, Outcome.ofRelay result, 0, (sc.relay p).calls⟩
    | .death _ | .stuck => none

/-- Whether a settlement aborts the run. -/
def aborts (st : Settlement) : Bool :=
  !st.outcome.isRelayed && sc.policy == .abortRemaining

/-- **The run without a clock**, from a position on: what is settled, and the relay that does not
come to an end if there is one. -/
def relayFrom : (left position : Nat) → List Settlement × Option RelayTrace
  | 0, _ => ([], none)
  | left + 1, p =>
    match sc.settle? p with
    | none => ([], some (sc.relay p))
    | some st =>
      if sc.aborts st then (st :: blocked sc.batch st, none)
      else (st :: (relayFrom left (p + 1)).1, (relayFrom left (p + 1)).2)

/-! ### What the gate is handed in a scenario -/

variable {sc} {c : RunConfig} {ledger : Ledger} {done : List Completion} {s : State}
  {handed : Handed}

variable (sc) in
/-- What the gate is handed is what the scenario says of the poll. -/
structure Hands (handed : Handed) : Prop where
  failed : ∀ p instant outcome, handed p = some (instant, .failed outcome) →
    (sc.fate p).failure? = some outcome
  finalized : ∀ p instant m, handed p = some (instant, .finalized m) →
    (sc.fate p).failure? = none ∧ sc.batch.messages[p]? = some m.message

/-- In a run of the scenario the gate is handed nothing else. -/
theorem Ends.hands (h : sc.Ends c ledger done s) (hfrom : HandedFrom done handed) :
    sc.Hands handed where
  failed p instant outcome hp := by
    rcases hfrom p instant _ hp with hmem | ⟨hlost, d, hd, rfl, hnone⟩
    · rw [← h.fate _ hmem]
      rfl
    · rw [← h.fate d hd, fateOf, hnone, Polled.failed.inj hlost]
      rfl
  finalized p instant m hp := by
    rcases hfrom p instant _ hp with hmem | ⟨hlost, -⟩
    · refine ⟨?_, (h.finished.arrivals.finalized hmem).1⟩
      rw [← h.fate _ hmem]
      rfl
    · exact nomatch hlost

/-- **A relay of the scenario without the clock** is the one that knows no clock. -/
theorem Ends.untimed_relay (h : sc.Ends c ledger done s) (hhands : sc.Hands handed)
    {p instant start : Nat} {m : FinalizedMessage} (hp : handed p = some (instant, .finalized m))
    (hblock : (p, (relayOn c ledger m start).calls) ∈ s.blocks) :
    (relayOn c ledger m start).untimed = (sc.relay p).untimed := by
  have hm := (hhands.finalized p instant m hp).2
  rw [relay, hm, Option.getD_some, relayOn, ← h.retry]
  refine Relay.untimed_submit 0 (fun k call hcall => ?_) rfl
  exact h.answers _ hblock m.message hm k call hcall

/-- **A message is settled as it is without the clock.** -/
theorem Ends.settle?_eq (h : sc.Ends c ledger done s) (hhands : sc.Hands handed)
    {own : List Settlement} (hown : Series c ledger handed own)
    (hblocks : ∀ b ∈ blocksOf own, b ∈ s.blocks) {p : Nat} {st : Settlement}
    (hp : own[p]? = some st) : ∃ st', sc.settle? p = some st' ∧ st'.untimed = st.untimed := by
  obtain ⟨rfl, instant, polled, start, hh, -, -, hsettles⟩ := hown.get hp
  cases hsettles with
  | failed p outcome =>
    refine ⟨⟨p, outcome, 0, []⟩, ?_, rfl⟩
    rw [settle?, hhands.failed p instant outcome hh]
  | relayed p instant' m result hending =>
    have hne : (relayOn c ledger m start).calls ≠ [] := by
      obtain ⟨first, rest, hcalls, -⟩ := Relay.submit_first ledger c.retry m.message start
      rw [relayOn, hcalls]
      exact List.cons_ne_nil first rest
    have hmem : (p, (relayOn c ledger m start).calls) ∈ s.blocks :=
      hblocks _ (mem_blocksOf.mpr ⟨_, List.mem_of_getElem? hp, hne, rfl⟩)
    have hrelay := h.untimed_relay hhands hh hmem
    have hcalls := congrArg RelayTrace.calls hrelay
    have hend := congrArg RelayTrace.ending hrelay
    rw [RelayTrace.untimed, RelayTrace.untimed, hending] at hend
    refine ⟨⟨p, Outcome.ofRelay result, 0, (sc.relay p).calls⟩, ?_, ?_⟩
    · rw [settle?, (hhands.finalized p instant m hh).1]
      cases hfinal : (sc.relay p).ending with
      | result t result' =>
        rw [hfinal] at hend
        obtain ⟨-, rfl⟩ := RelayEnding.result.inj hend
        rfl
      | death | stuck =>
        rw [hfinal] at hend
        exact RelayEnding.noConfusion hend
    · rw [Settlement.untimed, Settlement.untimed, Settlement.mk.injEq]
      exact ⟨rfl, rfl, rfl, hcalls.symm⟩

/-- A relay that does not come to an end does not without the clock either. -/
theorem Ends.settle?_eq_none (h : sc.Ends c ledger done s) (hhands : sc.Hands handed)
    {p instant start : Nat} {m : FinalizedMessage} (hp : handed p = some (instant, .finalized m))
    (hblock : (p, (relayOn c ledger m start).calls) ∈ s.blocks)
    (hne : ∀ t result, (relayOn c ledger m start).ending ≠ .result t result) :
    sc.settle? p = none := by
  have hend := congrArg RelayTrace.ending (h.untimed_relay hhands hp hblock)
  rw [RelayTrace.untimed, RelayTrace.untimed] at hend
  rw [settle?, (hhands.finalized p instant m hp).1]
  cases hfinal : (sc.relay p).ending with
  | death | stuck => rfl
  | result t result =>
    rw [hfinal] at hend
    cases hending : (relayOn c ledger m start).ending with
    | result t' result' => exact absurd hending (hne t' result')
    | death | stuck =>
      rw [hending] at hend
      exact RelayEnding.noConfusion hend

/-! ### The same run without a clock -/

/-- Whether a settlement aborts the run has nothing to do with the clock. -/
theorem aborts_congr {st st' : Settlement} (h : st'.untimed = st.untimed) :
    sc.aborts st' = sc.aborts st := by
  obtain ⟨-, houtcome, -⟩ := Settlement.mk.inj h
  rw [aborts, aborts, houtcome]

/-- Nor has what it blocks. -/
theorem untimed_blocked {st st' : Settlement} (h : st'.untimed = st.untimed) :
    (blocked sc.batch st').map Settlement.untimed =
      (blocked sc.batch st).map Settlement.untimed := by
  obtain ⟨hposition, -⟩ := Settlement.mk.inj h
  rw [blocked, blocked, hposition, List.map_map, List.map_map]
  rfl

/-- **As long as nothing aborts the run**, the run without a clock settles the same messages in the
same way. -/
theorem relayFrom_take {own : List Settlement}
    (hown : ∀ p st, own[p]? = some st → ∃ st', sc.settle? p = some st' ∧ st'.untimed = st.untimed)
    {n : Nat} (hn : n ≤ own.length) (hgo : ∀ st ∈ own.take n, sc.aborts st = false) (left : Nat) :
    (sc.relayFrom (n + left) 0).1.map Settlement.untimed =
        (own.take n).map Settlement.untimed ++ (sc.relayFrom left n).1.map Settlement.untimed ∧
      (sc.relayFrom (n + left) 0).2 = (sc.relayFrom left n).2 := by
  -- one more message is settled at the back, where the rest of the run begins
  induction n generalizing left with
  | zero =>
    rw [Nat.zero_add]
    exact ⟨rfl, rfl⟩
  | succ n ih =>
    have hget : own[n]? = some own[n] := List.getElem?_eq_getElem hn
    have htake : own.take (n + 1) = own.take n ++ [own[n]] := (List.take_append_getElem hn).symm
    rw [htake] at hgo ⊢
    have hlast : sc.aborts own[n] = false :=
      hgo _ (List.mem_append_right _ (List.mem_singleton_self _))
    obtain ⟨st, hst, huntimed⟩ := hown n own[n] hget
    rw [← aborts_congr huntimed] at hlast
    have hstep : sc.relayFrom (left + 1) n =
        (st :: (sc.relayFrom left (n + 1)).1, (sc.relayFrom left (n + 1)).2) := by
      rw [relayFrom, hst]
      dsimp only
      rw [if_neg (by rw [hlast]; exact Bool.false_ne_true)]
    obtain ⟨hsettled, hhalted⟩ := ih (Nat.le_of_succ_le hn)
      (fun st hst => hgo st (List.mem_append_left _ hst)) (left + 1)
    rw [hstep] at hsettled hhalted
    rw [Nat.add_assoc, Nat.add_comm 1 left]
    refine ⟨?_, hhalted⟩
    rw [hsettled, List.map_append, List.map_singleton, List.map_cons, huntimed, List.append_assoc,
      List.singleton_append]

/-- The relay that halts a run is its last block. -/
theorem mem_blocks_of_halted {relay : RelayTrace} (h : s.halted = some relay) :
    (s.settled.length, relay.calls) ∈ s.blocks := by
  rw [State.blocks, h]
  exact List.mem_append_right _ (List.mem_singleton_self _)

/-- The blocks of what was settled first are blocks of the run. -/
theorem mem_blocks_of_mem_blocksOf {own : List Settlement} (h : own <+: s.settled)
    {b : Nat × List LedgerCall} (hb : b ∈ blocksOf own) : b ∈ s.blocks := by
  obtain ⟨more, hmore⟩ := h
  rw [State.blocks, ← hmore, blocksOf_append]
  exact List.mem_append_left _ (List.mem_append_left _ hb)

/-- **Every run of a scenario settles the messages as the run without a clock does**, and the same
relay halts it, if one does. -/
theorem Ends.untimed_eq (h : sc.Ends c ledger done s) :
    s.settled.map Settlement.untimed =
        (sc.relayFrom sc.batch.size 0).1.map Settlement.untimed ∧
      s.halted.map RelayTrace.untimed =
        (sc.relayFrom sc.batch.size 0).2.map RelayTrace.untimed := by
  obtain ⟨handed, hreach, hfrom, hall⟩ := h.finished.exists_reaches
  have hhands := h.hands hfrom
  -- nothing aborts the run as long as everything is relayed or the policy does not mind
  have hgo : ∀ {own : List Settlement},
      (c.policy = .abortRemaining → ∀ st ∈ own, st.outcome.isRelayed = true) →
      ∀ st ∈ own, sc.aborts st = false := by
    intro own hrelayed st hst
    rw [aborts, ← h.policy]
    by_cases hpolicy : c.policy = .abortRemaining
    · rw [hrelayed hpolicy st hst]
      rfl
    · rw [beq_false_of_ne hpolicy, Bool.and_false]
  rcases hreach.phase with hphase | hphase | hphase
  · -- all messages are settled
    have hlength := hall hphase.halted hphase.aborted
    have hown := fun p st (hp : s.settled[p]? = some st) => h.settle?_eq hhands hphase.series
      (fun b hb => mem_blocks_of_mem_blocksOf List.prefix_rfl hb) hp
    obtain ⟨hsettled, hhalted⟩ := relayFrom_take hown (Nat.le_refl _)
      (by rw [List.take_length]; exact hgo hphase.relayed) 0
    rw [Nat.add_zero, hlength] at hsettled hhalted
    rw [hsettled, hhalted, hphase.halted, ← hlength, List.take_length]
    exact ⟨(List.append_nil _).symm, rfl⟩
  · -- the relay behind the settled messages does not come to an end
    obtain ⟨instant, start, m, hh, -, -, hstopped, hne⟩ := hphase.stopped
    have hlt := (hphase.handed_spec _ instant _ hh).1
    have hblock := mem_blocks_of_halted hstopped
    have hown := fun p st (hp : s.settled[p]? = some st) => h.settle?_eq hhands hphase.series
      (fun b hb => mem_blocks_of_mem_blocksOf List.prefix_rfl hb) hp
    obtain ⟨left, hleft⟩ : ∃ left, sc.batch.size = s.settled.length + (left + 1) :=
      ⟨sc.batch.size - (s.settled.length + 1), by omega⟩
    obtain ⟨hsettled, hhalted⟩ := relayFrom_take hown (Nat.le_refl _)
      (by rw [List.take_length]; exact hgo hphase.relayed) (left + 1)
    have hlast : sc.relayFrom (left + 1) s.settled.length =
        ([], some (sc.relay s.settled.length)) := by
      rw [relayFrom, h.settle?_eq_none hhands hh hblock hne]
    rw [hleft, hsettled, hhalted, hlast, List.take_length, hstopped, Option.map_some,
      Option.map_some, h.untimed_relay hhands hh hblock]
    exact ⟨(List.append_nil _).symm, rfl⟩
  · -- a failure aborts the run
    obtain ⟨before, failure, hseries, hbefore, hfailure, hsettled⟩ := hphase.settled
    have hlt := hphase.toSteady.length_le hseries
    rw [List.length_append, List.length_singleton] at hlt
    have hown := fun p st (hp : (before ++ [failure])[p]? = some st) => h.settle?_eq hhands hseries
      (fun b hb => mem_blocks_of_mem_blocksOf (prefix_of_blocked hsettled) hb) hp
    have htake : (before ++ [failure]).take before.length = before := List.take_left
    obtain ⟨left, hleft⟩ : ∃ left, sc.batch.size = before.length + (left + 1) :=
      ⟨sc.batch.size - (before.length + 1), by omega⟩
    obtain ⟨hfront, hhalted⟩ := relayFrom_take (n := before.length) hown
      (by rw [List.length_append]; exact Nat.le_add_right _ _)
      (by rw [htake]; exact hgo fun _ => hbefore) (left + 1)
    obtain ⟨st, hst, huntimed⟩ := hown before.length failure List.getElem?_concat_length
    have haborts : sc.aborts st = true := by
      rw [aborts_congr huntimed, aborts, hfailure, ← h.policy, hphase.policy]
      rfl
    have hlast : sc.relayFrom (left + 1) before.length = (st :: blocked sc.batch st, none) := by
      rw [relayFrom, hst]
      dsimp only
      rw [if_pos haborts]
    rw [hleft, hfront, hhalted, hlast, htake, hphase.halted, hsettled, List.map_append,
      List.map_cons, List.map_cons, huntimed, untimed_blocked huntimed]
    exact ⟨rfl, rfl⟩

end Scenario

/-! ### Two runs -/

/-- The submissions without their instants are read off what is settled without its instants. -/
theorem submissions_eq (s : State) :
    s.submissions = blocksOf (s.settled.map Settlement.untimed) ++
      ((s.halted.map RelayTrace.untimed).map fun relay =>
        ((s.settled.map Settlement.untimed).length, relay.calls)).toList := by
  have hempty : ∀ st : Settlement, (!st.untimed.calls.isEmpty) = !st.calls.isEmpty := by
    intro st
    rw [Settlement.untimed, List.isEmpty_map]
  rw [State.submissions, State.blocks, List.map_append, blocksOf, blocksOf, List.map_map,
    List.filter_map, List.map_map, List.length_map]
  congr 1
  · rw [show ((fun st => !st.calls.isEmpty) ∘ Settlement.untimed) =
      fun st : Settlement => !st.calls.isEmpty from funext hempty]
    rfl
  · cases s.halted <;> rfl

/-- Runs that settle the messages in the same way report the same. -/
theorem reports_congr {s₁ s₂ : State} {keys : List MessageKey}
    (h : s₁.settled.map Settlement.untimed = s₂.settled.map Settlement.untimed) :
    s₁.reports keys = s₂.reports keys := by
  have houtcomes : ∀ s : State, s.settled.map Settlement.outcome =
      (s.settled.map Settlement.untimed).map Settlement.outcome := by
    intro s
    rw [List.map_map]
    rfl
  refine List.ext_getElem? fun p => ?_
  have hget : s₁.settled[p]?.map Settlement.outcome = s₂.settled[p]?.map Settlement.outcome := by
    rw [← List.getElem?_map, ← List.getElem?_map, houtcomes, houtcomes, h]
  rw [getElem?_reports, getElem?_reports, hget]

/-- **Runs do not depend on the schedule.** Two runs with the same batch, the same policy and the
same retries, in which the polls come to the same and the submissions get the same answers, report
the same and make the same submissions, whenever and in whichever order the polls end and whether or
not polls are cancelled behind a failure. If a relay halts one of them, it halts the other. -/
theorem schedule_independence {sc : Scenario} {c₁ c₂ : RunConfig} {ledger₁ ledger₂ : Ledger}
    {done₁ done₂ : List Completion} {s₁ s₂ : State} (h₁ : sc.Ends c₁ ledger₁ done₁ s₁)
    (h₂ : sc.Ends c₂ ledger₂ done₂ s₂) :
    s₁.reports sc.batch.keys = s₂.reports sc.batch.keys ∧ s₁.submissions = s₂.submissions ∧
      s₁.halted.map RelayTrace.untimed = s₂.halted.map RelayTrace.untimed := by
  obtain ⟨hsettled₁, hhalted₁⟩ := h₁.untimed_eq
  obtain ⟨hsettled₂, hhalted₂⟩ := h₂.untimed_eq
  have hsettled := hsettled₁.trans hsettled₂.symm
  have hhalted := hhalted₁.trans hhalted₂.symm
  refine ⟨reports_congr hsettled, ?_, hhalted⟩
  rw [submissions_eq, submissions_eq, hsettled, hhalted]

/-- The first message is reverted. Whether the driver is told of the other polls or cancels them,
they are blocked, and there is one submission. -/
theorem schedule_independence_three :
    let status : Message → UInt64 := fun _ => 0
    let c₁ : RunConfig := { retry := .disabled }
    let c₂ : RunConfig := { retry := .disabled, cancelOnAbort := true }
    let s₁ := finish c₁ Batch.three.keys (relayOn c₁ (.prompt status)) threeArrivals
    let s₂ := finish c₂ Batch.three.keys (relayOn c₂ (.prompt status)) (threeArrivals.drop 2)
    s₁.reports Batch.three.keys = s₂.reports Batch.three.keys ∧ s₁.submissions = s₂.submissions ∧
      s₁.submissions.map Prod.fst = [0] ∧ (s₁.reports Batch.three.keys).map Report.isRelayed =
        [false, false, false] := by
  intro status c₁ c₂ s₁ s₂
  let sc : Scenario :=
    ⟨Batch.three, .abortRemaining, .disabled, fun p => if p = 1 then .died else .finalized,
      fun m _ => (Ledger.prompt status).submit m 0 0⟩
  have hfinished₁ := finished_three .abortRemaining status
  have hfinished₂ : Finished c₂ (.prompt status) Batch.three (threeArrivals.drop 2) s₂ :=
    ⟨(arrivals_three status (by decide) (by decide)).sublist (List.drop_sublist 2 threeArrivals),
      Or.inl (by decide), rfl⟩
  have h₁ : sc.Ends c₁ (.prompt status) threeArrivals s₁ :=
    ⟨hfinished₁, rfl, rfl, by decide, fun b _ m _ k call _ => rfl⟩
  have h₂ : sc.Ends c₂ (.prompt status) (threeArrivals.drop 2) s₂ :=
    ⟨hfinished₂, rfl, rfl, by decide, fun b _ m _ k call _ => rfl⟩
  obtain ⟨hreports, hsubmissions, -⟩ := schedule_independence h₁ h₂
  exact ⟨hreports, hsubmissions, by decide, by decide⟩

end Run

end MessageRelay
