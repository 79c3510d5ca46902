import MessageRelay.Proofs.Poll.Starts
import MessageRelay.Proofs.Relay.Answers
import MessageRelay.Proofs.Run.Clock

/-!
# Polls behind an abortion

When a failure aborts a run, other polls may still be anywhere in their schedules. By default they
are left to finish: they do not notice, and the run waits for them. If the run cancels its polls it
ends at once, be it that a poll that had just ended made it relay and fail, or the repair behind the
last poll.

Since polls have nothing to do with one another, nor with the relays, a poll in a run is a poll on
its own that is watched up to a horizon, and cancelling is nothing but a horizon. So what is to be
said here is where that horizon lies: behind all polls if they are left to finish
(`MessageRelay.Run.ended_of_observe`), and at the failure otherwise. A relay that is never answered
holds up the run, but not the polls (`MessageRelay.Run.watch_of_kept`). That the poll has started
the same calls by then as without the cancellation is `MessageRelay.Poll.startedBefore_observe`.
-/

namespace MessageRelay

namespace Run

variable {c : RunConfig} {ledger : Ledger} {batch : Batch} {horizon : Nat} {t : Trace}

/-! ### When a run returns -/

/-- **A run that does not wait for a relay returns** when its driver takes no notice of the polls
any more, or when all of them have ended. -/
theorem exists_observe
    (hlive : (finish c batch.keys (relayOn c ledger)
      (completions (polls c ledger batch horizon))).isStuck = false)
    (h : (drive c batch.keys (relayOn c ledger)
        (completions (polls c ledger batch horizon))).isOver c = true ∨
      ∀ poll ∈ polls c ledger batch horizon, poll.ending ≠ none) :
    ∃ t, observe c ledger batch horizon = some t := by
  rw [finish] at hlive
  unfold observe
  dsimp only at hlive ⊢
  split at hlive
  next hover =>
    rw [if_pos]
    · exact ⟨_, rfl⟩
    · rw [State.endsPolls, hover, hlive]
      rfl
  next hover =>
    rw [if_neg, if_pos, if_neg (Bool.eq_false_iff.mp hlive)]
    · exact ⟨_, rfl⟩
    · refine List.all_eq_true.mpr fun poll hpoll => ?_
      exact Option.isSome_iff_ne_none.mpr (h.resolve_left hover poll hpoll)
    · rw [State.endsPolls, Bool.eq_false_iff.mpr hover]
      exact Bool.false_ne_true

/-- **A driver that is halted and has not died** waits for an answer. -/
theorem Reaches.isStuck_of {handed : Handed} {s : State} (h : Reaches c ledger batch handed s)
    (hhalted : s.halted ≠ none) (hlives : s.death? = none) : s.isStuck = true := by
  obtain ⟨relay, hrelay⟩ := Option.ne_none_iff_exists'.mp hhalted
  obtain ⟨_, start, m, -, -, -, hsome, hend⟩ := (h.halted_of hrelay).stopped
  rw [State.death?, hsome, Option.bind_some] at hlives
  rw [State.isStuck, hsome, Option.any_some]
  cases hending : (relayOn c ledger m start).ending with
  | result stop result => exact absurd hending (hend stop result)
  | death stop =>
    rw [hending] at hlives
    exact absurd hlives (Option.some_ne_none stop)
  | stuck => rfl

/-- **No relay halts a run that returns**, unless its driver dies. -/
theorem halted_of_observe (h : observe c ledger batch horizon = some t)
    (hlives : t.state.death? = none) : t.state.halted = none := by
  obtain ⟨handed, hreach, -, -⟩ := (finished_of_observe h).1.exists_reaches
  by_contra hhalted
  exact Bool.false_ne_true
    ((observe_cases h).2.1.symm.trans (hreach.isStuck_of hhalted hlives))

/-- **The polls of a run that does not cancel them are seen as long as anybody watches**, unless its
driver dies. A relay that is never answered does not stop them. -/
theorem watch_of_kept (hkeep : c.cancelOnAbort = false)
    (hlives : (drive c batch.keys (relayOn c ledger)
      (completions (polls c ledger batch horizon))).death? = none) :
    watch c ledger batch horizon = polls c ledger batch horizon := by
  obtain ⟨handed, hreach, -, -⟩ := (arrivals_completions c ledger batch horizon).exists_drive
  rw [watch, if_neg]
  rw [State.endsPolls, State.isOver, hkeep, Bool.and_false, Bool.or_false]
  intro hends
  obtain ⟨hhalted, hlive⟩ := Bool.and_eq_true_iff.mp hends
  rw [hreach.isStuck_of (Option.isSome_iff_ne_none.mp hhalted) hlives] at hlive
  exact Bool.false_ne_true hlive

/-- The repair does not set the clock back. -/
theorem now_le_repair {s : State} (h : (repair c batch.keys (relayOn c ledger) s).halted = none) :
    s.now ≤ (repair c batch.keys (relayOn c ledger) s).now := by
  rcases repair_cases c batch.keys (relayOn c ledger) s with
    hrepair | ⟨-, -, missing, hrepair⟩
  · exact Nat.le_of_eq (congrArg State.now hrepair.symm)
  · obtain ⟨hnow, -⟩ := foldl_offer_frame missing lost s
    rw [hrepair] at h ⊢
    rw [← hnow]
    exact (releaseUpTo_clock h).1

/-- **A run that waits for its polls returns when all of them have ended**, and not before. -/
theorem ended_of_observe (h : observe c ledger batch horizon = some t)
    (hhalted : t.state.halted = none)
    (hwaits : (drive c batch.keys (relayOn c ledger)
      (completions (polls c ledger batch horizon))).isOver c = false) :
    t.polls = polls c ledger batch horizon ∧
      ∀ poll ∈ t.polls, ∃ stop ending, poll.ending = some (stop, ending) ∧ stop ≤ t.state.now := by
  rcases (observe_cases h).2.2 with ⟨hover, -, -⟩ | ⟨-, hstate, hpolls, hended⟩
  · exact nomatch hwaits.symm.trans hover
  · rw [hpolls]
    refine ⟨rfl, fun poll hpoll => ?_⟩
    obtain ⟨stop, ending, hending⟩ := hended poll hpoll
    refine ⟨stop, ending, hending, ?_⟩
    -- the driver has learned of the end
    obtain ⟨p, hp⟩ := List.getElem?_of_mem hpoll
    have hmem : ⟨stop, p, polled? ending⟩ ∈ completions (polls c ledger batch horizon) :=
      mem_completions.mpr ⟨poll, ending, hp, hending, rfl⟩
    have hclock := drive_clock (halted_of_isOver hwaits)
    rw [clocked_iff_of_not_cancelled (Bool.or_eq_false_iff.mp hwaits).2] at hclock
    rw [hstate] at hhalted ⊢
    calc stop ≤ latestOf ((completions (polls c ledger batch horizon)).map Completion.instant) :=
          le_latestOf (List.mem_map.mpr ⟨_, hmem, rfl⟩)
      _ ≤ (drive c batch.keys (relayOn c ledger)
            (completions (polls c ledger batch horizon))).now := by
          rw [hclock]
          exact Nat.le_max_left _ _
      _ ≤ _ := now_le_repair hhalted

/-! ### The calls of a run -/

/-- The submissions for a message are made and answered by the time at which it is settled. -/
theorem Settles.calls_by {start : Nat} {polled : Polled} {st : Settlement}
    (h : Settles c ledger start polled st) :
    ∀ call ∈ st.calls, call.start ≤ st.instant ∧ call.AnsweredBy st.instant := by
  intro call hcall
  have hanswered := (h.bounds.2 call hcall).2
  refine ⟨?_, hanswered⟩
  cases h with
  | failed => exact nomatch hcall
  | relayed => exact Relay.start_le_of_answeredBy hcall hanswered

/-- **When a run returns, all its relays have ended**: every message was settled by then, and all
submissions for it were made and answered by then. -/
theorem Finished.settled_by {done : List Completion} {s : State}
    (h : Finished c ledger batch done s) (hhalted : s.halted = none) :
    ∀ st ∈ s.settled, st.instant ≤ s.now ∧
      ∀ call ∈ st.calls, call.start ≤ st.instant ∧ call.AnsweredBy st.instant := by
  intro st hst
  obtain ⟨handed, hreach, -, -⟩ := h.exists_reaches
  refine ⟨hreach.steady.settled_le st hst, ?_⟩
  have hown : ∀ {handed own}, Series c ledger handed own → st ∈ own →
      ∀ call ∈ st.calls, call.start ≤ st.instant ∧ call.AnsweredBy st.instant := by
    intro handed own hseries hst
    obtain ⟨p, hp⟩ := List.getElem?_of_mem hst
    obtain ⟨-, _, _, _, -, -, -, hsettles⟩ := hseries.get hp
    exact hsettles.calls_by
  obtain ⟨-, _, -, ⟨hseries, -⟩ | ⟨-, before, failure, hseries, -, -, hsettled⟩⟩ :=
    h.settled_cases hhalted
  · exact hown hseries hst
  · rw [hsettled, List.append_cons] at hst
    rcases List.mem_append.mp hst with hst | hst
    · exact hown hseries hst
    · -- a blocked message is not submitted
      obtain ⟨p, -, rfl⟩ := List.mem_map.mp hst
      exact fun call hcall => nomatch hcall

/-! ### Polls that are left to finish, and polls that are cancelled -/

/-- A poll that has ended has started the same calls as one that is watched longer. -/
theorem startedBefore_of_ended {m : Message} {schedule : Schedule} {stop now later : Nat}
    {ending : PollEnding}
    (h : (Poll.observe ledger m schedule horizon).ending = some (stop, ending)) (hstop : stop ≤ now)
    (hlater : now ≤ later) :
    (Poll.observe ledger m schedule horizon).startedBefore now =
      (Poll.observe ledger m schedule later).startedBefore now := by
  rw [← Poll.observe_eq_of_lt h (Nat.lt_succ_of_le hstop),
    ← Poll.startedBefore_observe ledger m schedule (Nat.le_succ now),
    ← Poll.startedBefore_observe ledger m schedule hlater]

/-- **Up to the instant at which a run returns, its polls have started the same calls** as polls
that are left to finish. -/
theorem startedBefore_polls (h : observe c ledger batch horizon = some t)
    (hhalted : t.state.halted = none) {later : Nat} (hlater : t.state.now ≤ later) :
    t.polls.map (·.startedBefore t.state.now) =
      (polls c ledger batch later).map (·.startedBefore t.state.now) := by
  rcases (observe_cases h).2.2 with ⟨-, hstate, hpolls⟩ | ⟨hwaits, -, hpolls, -⟩
  · -- the polls are cut no earlier than at that instant
    have hcut : t.state.now ≤ t.state.cut := by
      rw [State.cut]
      split
      · exact Nat.le_refl _
      · exact Nat.le_succ _
    rw [hpolls, ← hstate, polls, polls, List.map_map, List.map_map]
    refine List.map_congr_left fun m _ => ?_
    exact (Poll.startedBefore_observe ledger m c.schedule hcut).symm.trans
      (Poll.startedBefore_observe ledger m c.schedule hlater)
  · obtain ⟨-, hended⟩ := ended_of_observe h hhalted hwaits
    rw [hpolls] at hended ⊢
    rw [polls, polls, List.map_map, List.map_map]
    refine List.map_congr_left fun m hm => ?_
    obtain ⟨stop, ending, hending, hstop⟩ := hended _ (List.mem_map_of_mem hm)
    exact startedBefore_of_ended hending hstop hlater

/-- **No poll starts a call behind the instant at which the run returns.** -/
theorem start_le_of_mem_polls (h : observe c ledger batch horizon = some t)
    (hhalted : t.state.halted = none) :
    ∀ poll ∈ t.polls, ∀ call ∈ poll.calls, call.start ≤ t.state.now := by
  intro poll hpoll call hcall
  rcases (observe_cases h).2.2 with ⟨-, hstate, hpolls⟩ | ⟨hwaits, -, hpolls, -⟩
  · have hcut : t.state.cut ≤ t.state.now + 1 := by
      rw [State.cut]
      split
      · exact Nat.le_succ _
      · exact Nat.le_refl _
    rw [hpolls, ← hstate] at hpoll
    obtain ⟨m, -, rfl⟩ := List.mem_map.mp hpoll
    exact Nat.le_of_lt_succ (Nat.lt_of_lt_of_le (Poll.start_lt_horizon call hcall) hcut)
  · obtain ⟨-, hended⟩ := ended_of_observe h hhalted hwaits
    obtain ⟨stop, ending, hending, hstop⟩ := hended poll hpoll
    rw [hpolls] at hpoll
    obtain ⟨m, -, rfl⟩ := List.mem_map.mp hpoll
    exact Nat.le_trans (Poll.start_le_of_ended hending call hcall) hstop

/-- **No call of a run that no relay halts is started behind the instant at which it returns.** -/
theorem start_le_now (h : observe c ledger batch horizon = some t)
    (hhalted : t.state.halted = none) : ∀ call ∈ t.calls, call.start ≤ t.state.now := by
  intro call hcall
  rw [Trace.calls, hhalted, Option.map_none, Option.getD_none, List.append_nil] at hcall
  rcases List.mem_append.mp hcall with hcall | hcall
  · obtain ⟨poll, hpoll, hcall⟩ := List.mem_flatMap.mp hcall
    exact start_le_of_mem_polls h hhalted poll hpoll call hcall
  · obtain ⟨st, hst, hcall⟩ := List.mem_flatMap.mp hcall
    obtain ⟨hinstant, hcalls⟩ := (finished_of_observe h).1.settled_by hhalted st hst
    exact Nat.le_trans (hcalls call hcall).1 hinstant

/-- **Polls behind an abortion.** A poll in a run is a poll on its own with the same deadline and
interval, watched up to some instant. If polls are not cancelled, that is as long as anybody
watches, whatever becomes of the run and even if it waits for a relay for ever, unless the driver
dies; and the run returns only when all polls and all relays have ended, and it does so unless it
waits for a relay. Whoever watches the polls longer sees nothing else. If they are cancelled, a run
that is aborted returns, and it does so at the instant of its first failure; no call to the ledger,
of whatever kind, is started behind that instant, and up to it every poll has started the calls that
it starts in the run without the cancellation. -/
theorem polls_after_abort (c : RunConfig) (ledger : Ledger) (batch : Batch) (horizon : Nat) :
    let lone (m : Message) := Poll.observe ledger m (.within c.interval c.pollDeadline)
    let seen := polls c ledger batch horizon
    let s := drive c batch.keys (relayOn c ledger) (completions seen)
    (∃ watched ≤ horizon,
      watch c ledger batch horizon = batch.messages.map fun m => lone m watched) ∧
    (∀ t, observe c ledger batch horizon = some t →
      ∃ watched, t.polls = batch.messages.map fun m => lone m watched) ∧
    ((∀ poll ∈ seen, poll.ending ≠ none) →
      (finish c batch.keys (relayOn c ledger) (completions seen)).isStuck = false →
        ∃ t, observe c ledger batch horizon = some t) ∧
    (c.cancelOnAbort = false →
      (s.death? = none →
        watch c ledger batch horizon = batch.messages.map fun m => lone m horizon) ∧
      ∀ t, observe c ledger batch horizon = some t → t.state.death? = none →
        (∀ poll ∈ t.polls, ∃ stop ending,
          poll.ending = some (stop, ending) ∧ stop ≤ t.state.now) ∧
        (∀ st ∈ t.state.settled, st.instant ≤ t.state.now ∧
          ∀ call ∈ st.calls, call.AnsweredBy st.instant) ∧
        ∀ later, t.state.now < later → t.polls = batch.messages.map fun m => lone m later) ∧
    (c.cancelOnAbort = true →
      (s.aborted = true → ∃ t, observe c ledger batch horizon = some t) ∧
      ∀ t, observe c ledger batch horizon = some t → t.state.aborted = true →
        ∃ before failure, t.state.settled = before ++ failure :: blocked batch failure ∧
          (∀ st ∈ before, st.outcome.isRelayed = true) ∧ failure.outcome.isRelayed = false ∧
          t.state.now = failure.instant ∧
          (∀ call ∈ t.calls, call.start ≤ failure.instant) ∧
          ∀ later, failure.instant ≤ later →
            t.polls.map (·.startedBefore failure.instant) =
              (polls { c with cancelOnAbort := false } ledger batch later).map
                (·.startedBefore failure.instant)) := by
  intro lone seen s
  refine ⟨?watched, fun t h => (eq_of_observe h).2,
    fun hended hlive => exists_observe hlive (Or.inr hended),
    fun hkeep => ⟨fun hlives => watch_of_kept hkeep hlives, fun t h hlives => ?kept⟩,
    fun hcancel => ⟨fun haborted => ?returns, ?cancelled⟩⟩
  case watched =>
    rw [watch]
    split
    · exact ⟨_, Nat.min_le_right _ _, rfl⟩
    · exact ⟨horizon, Nat.le_refl _, rfl⟩
  case kept =>
    have hhalted := halted_of_observe h hlives
    have hwaits : s.isOver c = false := by
      rcases (observe_cases h).2.2 with ⟨-, hstate, -⟩ | ⟨hwaits, -, -, -⟩
      · rw [← show t.state = s from hstate, State.isOver, hhalted, hkeep, Bool.and_false]
        rfl
      · exact hwaits
    obtain ⟨hpolls, hended⟩ := ended_of_observe h hhalted hwaits
    refine ⟨hended, fun st hst => ?_, fun later hlater => ?_⟩
    · obtain ⟨hinstant, hcalls⟩ := (finished_of_observe h).1.settled_by hhalted st hst
      exact ⟨hinstant, fun call hcall => (hcalls call hcall).2⟩
    · rw [hpolls] at hended ⊢
      refine List.map_congr_left fun m hm => ?_
      obtain ⟨stop, ending, hending, hstop⟩ := hended _ (List.mem_map_of_mem hm)
      exact (Poll.observe_eq_of_lt hending (Nat.lt_of_le_of_lt hstop hlater)).symm
  case returns =>
    have hover : s.isOver c = true := by
      rw [State.isOver, haborted, hcancel, Bool.and_self, Bool.or_true]
    -- behind an abortion nothing is relayed
    obtain ⟨handed, hreach, -, -⟩ := (arrivals_completions c ledger batch horizon).exists_drive
    refine exists_observe ?_ (Or.inl hover)
    rw [finish_of_aborted haborted, State.isStuck, hreach.halted_of_aborted haborted]
    rfl
  case cancelled =>
    intro t h haborted
    obtain ⟨hhalted, -, before, failure, hsettled, hbefore, hfailure, hnow⟩ :=
      (finished_of_observe h).1.failure_of_cancelled haborted hcancel
    refine ⟨before, failure, hsettled, hbefore, hfailure, hnow, ?_, fun later hlater => ?_⟩
    · rw [← hnow]
      exact start_le_now h hhalted
    · rw [← hnow] at hlater ⊢
      exact startedBefore_polls h hhalted hlater

/-- A ledger that calls the first message final at once and is silent about the other ones. -/
def finalFirst (submit : Message → Nat → Nat → Reply DestinationReceipt) : Ledger where
  estimate m _ := if m.sequence = 1 then .answer 0 (.ok 0) else .silence
  check _ _ _ _ := .answer 0 (.ok true)
  finalityTime _ _ := .silence
  submit := submit

/-- Such a ledger, where a submission takes five milliseconds and reverts. -/
def revertsFirst : Ledger :=
  finalFirst fun m _ _ => .answer 5 (.ok ⟨Octets.replicate 32 m.sequence.toUInt8, 0⟩)

/-- Such a ledger, where no submission is ever answered. -/
def silentDelivery : Ledger :=
  finalFirst fun _ _ _ => .silence

/-- Runs whose polls last no longer than twenty milliseconds. -/
def shortPolls (cancelOnAbort : Bool) : RunConfig :=
  { finalityDeadline := .ofMillis 20, retry := .disabled, cancelOnAbort }

/-- The end of the first poll. -/
def firstFinal : Completion :=
  ⟨0, 0, some (.finalized ⟨.sample 1, 1, 0⟩)⟩

section

variable (submit : Message → Nat → Nat → Reply DestinationReceipt)

theorem ending_first (cancelOnAbort : Bool) {horizon : Nat} (h : 0 < horizon) :
    (Poll.observe (finalFirst submit) (.sample 1) (shortPolls cancelOnAbort).schedule
      horizon).ending = some (0, .result (.finalized ⟨.sample 1, 1, 0⟩)) := by
  have hone :
      (Poll.observe (finalFirst submit) (.sample 1) (shortPolls cancelOnAbort).schedule 1).ending =
        some (0, .result (.finalized ⟨.sample 1, 1, 0⟩)) :=
    observe_at_once ⟨0, rfl, rfl⟩ (by cases cancelOnAbort <;> decide)
      (by cases cancelOnAbort <;> decide)
  rw [Poll.observe_eq_of_lt hone h]
  exact hone

/-- Only the first poll ends at once. -/
theorem completions_at_once :
    completions (polls (shortPolls true) (finalFirst submit) Batch.three 1) = [firstFinal] := by
  have hsecond :
      (Poll.observe (finalFirst submit) (.sample 2) (shortPolls true).schedule 1).ending = none :=
    rfl
  have hthird :
      (Poll.observe (finalFirst submit) (.sample 3) (shortPolls true).schedule 1).ending = none :=
    rfl
  simp [completions, polls, Batch.three, ending_first, hsecond, hthird, Polled.ofResult, firstFinal]

/-- The other two end at their deadlines. -/
theorem completions_at_deadline :
    completions (polls (shortPolls false) (finalFirst submit) Batch.three 21) =
      [firstFinal, ⟨20, 1, some (.failed .finalityTimeout)⟩,
        ⟨20, 2, some (.failed .finalityTimeout)⟩] := by
  have hsecond :
      (Poll.observe (finalFirst submit) (.sample 2) (shortPolls false).schedule 21).ending =
        some (20, .result (.timedOut 0 20)) := rfl
  have hthird :
      (Poll.observe (finalFirst submit) (.sample 3) (shortPolls false).schedule 21).ending =
        some (20, .result (.timedOut 0 20)) := rfl
  have hsorted : [firstFinal, ⟨20, 1, some (.failed .finalityTimeout)⟩,
      ⟨20, 2, some (.failed .finalityTimeout)⟩].mergeSort
        (fun a b => decide (a.instant ≤ b.instant)) = _ :=
    List.mergeSort_of_pairwise (by decide)
  simpa [completions, polls, Batch.three, ending_first, hsecond, hthird, Polled.ofResult,
    firstFinal] using hsorted

end

/-- The first message is relayed at once and aborts both runs when its submission has reverted. A
run that waits for its polls goes on up to their deadlines. -/
theorem drive_revertsFirst :
    let cancelled := drive (shortPolls true) Batch.three.keys
      (relayOn (shortPolls true) revertsFirst) [firstFinal]
    let kept := drive (shortPolls false) Batch.three.keys
      (relayOn (shortPolls false) revertsFirst)
      [firstFinal, ⟨20, 1, some (.failed .finalityTimeout)⟩,
        ⟨20, 2, some (.failed .finalityTimeout)⟩]
    (cancelled.aborted = true ∧ cancelled.now = 5) ∧
      kept.aborted = true ∧ kept.halted.isNone = true ∧ kept.now = 20 := by
  decide

/-- The driver waits for the first delivery for ever. -/
theorem death?_silentDelivery :
    (drive (shortPolls false) Batch.three.keys (relayOn (shortPolls false) silentDelivery)
      (completions (polls (shortPolls false) silentDelivery Batch.three 21))).death? = none := by
  rw [silentDelivery, completions_at_deadline]
  decide

/-- The first of three messages aborts the run after five milliseconds. If the other two polls are
left to finish, the run lasts until their deadlines and they are polls on their own, also if the
delivery is never answered; if they are cancelled, it returns at once, and until then they have
started the same calls. -/
theorem polls_after_abort_revertsFirst :
    (∃ t, observe (shortPolls false) revertsFirst Batch.three 21 = some t ∧
        t.state.aborted = true ∧ t.state.now = 20 ∧
        ∀ later, 20 < later → t.polls = polls (shortPolls false) revertsFirst Batch.three later) ∧
      watch (shortPolls false) silentDelivery Batch.three 21 =
        polls (shortPolls false) silentDelivery Batch.three 21 ∧
      ∃ t, observe (shortPolls true) revertsFirst Batch.three 1 = some t ∧
        t.state.aborted = true ∧ t.state.now = 5 ∧ (∀ call ∈ t.calls, call.start ≤ 5) ∧
        ∀ later, 5 ≤ later → t.polls.map (·.startedBefore 5) =
          (polls (shortPolls false) revertsFirst Batch.three later).map (·.startedBefore 5) := by
  obtain ⟨⟨haborted, hnow⟩, habortedKept, hhaltedKept, hnowKept⟩ := drive_revertsFirst
  have honce : completions (polls (shortPolls true) revertsFirst Batch.three 1) = [firstFinal] :=
    completions_at_once _
  have hdeadline : completions (polls (shortPolls false) revertsFirst Batch.three 21) =
      [firstFinal, ⟨20, 1, some (.failed .finalityTimeout)⟩,
        ⟨20, 2, some (.failed .finalityTimeout)⟩] :=
    completions_at_deadline _
  rw [← honce] at haborted hnow
  rw [← hdeadline] at habortedKept hhaltedKept hnowKept
  refine ⟨?_, ?_, ?_⟩
  · obtain ⟨-, -, hreturns, hkept, -⟩ :=
      polls_after_abort (shortPolls false) revertsFirst Batch.three 21
    have hended : ∀ poll ∈ polls (shortPolls false) revertsFirst Batch.three 21,
        poll.ending ≠ none := by
      intro poll hpoll
      rw [polls, Batch.three, List.map_cons, List.map_cons, List.map_cons, List.map_nil,
        List.mem_cons, List.mem_cons, List.mem_singleton] at hpoll
      rcases hpoll with rfl | rfl | rfl
      · rw [revertsFirst, ending_first _ false (by decide)]
        exact Option.some_ne_none _
      · exact Option.some_ne_none (20, PollEnding.result (.timedOut 0 20))
      · exact Option.some_ne_none (20, PollEnding.result (.timedOut 0 20))
    have hhalted := Option.isNone_iff_eq_none.mp hhaltedKept
    have hlive : (finish (shortPolls false) Batch.three.keys
        (relayOn (shortPolls false) revertsFirst)
        (completions (polls (shortPolls false) revertsFirst Batch.three 21))).isStuck = false := by
      rw [finish_of_aborted habortedKept, State.isStuck, hhalted]
      rfl
    obtain ⟨t, ht⟩ := hreturns hended hlive
    have hstate : t.state = drive (shortPolls false) Batch.three.keys
        (relayOn (shortPolls false) revertsFirst)
        (completions (polls (shortPolls false) revertsFirst Batch.three 21)) :=
      (finished_of_observe ht).1.state.trans (finish_of_aborted habortedKept)
    rw [← hstate] at habortedKept hhalted hnowKept
    have hlives : t.state.death? = none := by
      rw [State.death?, hhalted]
      rfl
    obtain ⟨-, -, hlone⟩ := (hkept rfl).2 t ht hlives
    rw [hnowKept] at hlone
    exact ⟨t, ht, habortedKept, hnowKept, hlone⟩
  · obtain ⟨-, -, -, hkept, -⟩ :=
      polls_after_abort (shortPolls false) silentDelivery Batch.three 21
    exact (hkept rfl).1 death?_silentDelivery
  · obtain ⟨-, -, -, -, hcancelled⟩ :=
      polls_after_abort (shortPolls true) revertsFirst Batch.three 1
    obtain ⟨hreturns, hcut⟩ := hcancelled rfl
    obtain ⟨t, ht⟩ := hreturns haborted
    have hstate : t.state = drive (shortPolls true) Batch.three.keys
        (relayOn (shortPolls true) revertsFirst)
        (completions (polls (shortPolls true) revertsFirst Batch.three 1)) :=
      (finished_of_observe ht).1.state.trans (finish_of_aborted haborted)
    rw [← hstate] at haborted hnow
    obtain ⟨-, failure, -, -, -, hinstant, hcalls, hstarted⟩ := hcut t ht haborted
    rw [← hinstant, hnow] at hcalls hstarted
    exact ⟨t, ht, haborted, hnow, hcalls, hstarted⟩

end Run

end MessageRelay
