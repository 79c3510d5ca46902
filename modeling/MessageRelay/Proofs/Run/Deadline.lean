import MessageRelay.Proofs.Poll.Bounds
import MessageRelay.Proofs.Run.Arrivals

/-!
# The deadline of a run

A run can have a deadline of its own besides the one that each message has. It is worked out when
the polls start, and a poll works out its deadline once more on its own clock. Either can fail: a
deadline that is no instant of the clock is none. The whole point is that nothing but the schedule
of the polls comes of the two, and that it is the schedule of the lesser one
(`MessageRelay.RunConfig.schedule_capped`). The driver never looks at a deadline
(`MessageRelay.Run.drive_withDeadlines`).

So a run with both deadlines is the run with the lesser one alone
(`MessageRelay.Run.runDeadline_caps`), call by call. And since a poll with a deadline is over when
the timer goes off, even if the ledger never answers and even if the queries up to it cannot be
counted (`MessageRelay.Poll.observe_over`), no query is in flight behind that. Timers round up, so a
query may still be in flight when less than a millisecond has passed since the deadline
(`MessageRelay.Run.inFlight_behind_deadline`).
-/

namespace MessageRelay

/-! ### The lesser deadline -/

theorem Clock.instant?_of_lt {d : Duration} (h : d < .ofMillis limit) : instant? d = some d :=
  if_pos h

theorem Clock.instant?_of_le {d : Duration} (h : .ofMillis limit ≤ d) : instant? d = none :=
  if_neg (Nat.not_lt.mpr h)

namespace RunConfig

/-- The configuration with other deadlines. -/
def withDeadlines (c : RunConfig) (finality : Duration) (run : Option Duration) : RunConfig :=
  { c with finalityDeadline := finality, runDeadline := run }

variable (c : RunConfig) {f d : Duration}

theorem pollDeadline_withDeadlines_none (f : Duration) :
    (c.withDeadlines f none).pollDeadline = f := rfl

/-- A deadline of the run that is an instant caps the other one. -/
theorem pollDeadline_of_instant (hd : d < .ofMillis Clock.limit) :
    (c.withDeadlines f (some d)).pollDeadline = min f d := by
  simp only [pollDeadline, withDeadlines, Option.bind_some, Clock.instant?_of_lt hd]

/-- A deadline of the run that is no instant is none. -/
theorem pollDeadline_of_no_instant (hd : .ofMillis Clock.limit ≤ d) :
    (c.withDeadlines f (some d)).pollDeadline = f := by
  simp only [pollDeadline, withDeadlines, Option.bind_some, Clock.instant?_of_le hd]

/-- **Two deadlines make the schedule of the lesser one**, whichever of them are instants. -/
theorem schedule_capped (f d : Duration) :
    (c.withDeadlines f (some d)).schedule = (c.withDeadlines (min f d) none).schedule := by
  have hsame : Clock.instant? (c.withDeadlines f (some d)).pollDeadline =
      Clock.instant? (c.withDeadlines (min f d) none).pollDeadline := by
    rw [pollDeadline_withDeadlines_none]
    rcases Nat.lt_or_ge d.nanos (Duration.ofMillis Clock.limit).nanos with hd | hd
    · rw [pollDeadline_of_instant c hd]
    · rw [pollDeadline_of_no_instant c hd]
      -- the lesser one is the other one, or neither is an instant
      rcases Nat.lt_or_ge f.nanos d.nanos with hlt | hle
      · rw [Duration.min_eq_left (Nat.le_of_lt hlt)]
      · rw [Duration.min_eq_right hle, Clock.instant?_of_le hd,
          Clock.instant?_of_le (Nat.le_trans hd hle)]
  exact congrArg (Schedule.mk c.interval) hsame

end RunConfig

/-! ### Polls are over at the deadline -/

/-- A query is in flight at an instant: it was made by then, its answer does not come before, and
the poll does not end before. -/
structure PollTrace.InFlight (poll : PollTrace) (query : LedgerCall) (t : Nat) : Prop where
  /-- The poll makes the query. -/
  asked : query ∈ poll.queries
  /-- It was made by then. -/
  started : query.start ≤ t
  /-- It is not answered before. -/
  unanswered : ∀ stop answer, query.answer = some (stop, answer) → t ≤ stop
  /-- It is not given up before. -/
  awaited : ∀ stop ending, poll.ending = some (stop, ending) → t ≤ stop

namespace Poll

variable {ledger : Ledger} {m : Message} {s : Schedule} {deadline : Duration} {horizon : Nat}
  {gas : UInt64} {attempt : Nat} {slot : Duration} {now : Nat}

/-- From whatever query on, a poll is over at the deadline: its rounds use up the time in front of
it, and when the counter of its queries is spent, the task dies. -/
theorem attempts_over (hi : s.interval ≠ .zero) (hd : s.deadline = some deadline)
    (hslot : slot.millisUp ≤ now) (hnow : now ≤ deadline.millisUp)
    (hhor : deadline.millisUp < horizon) :
    ∃ t ending, (attempts ledger m s horizon gas attempt slot now).ending = some (t, ending) ∧
      t ≤ deadline.millisUp := by
  -- the slots advance towards the deadline
  induction slot using Schedule.slot_induction s horizon generalizing attempt now with
  | step slot ih =>
    have hseen : now < horizon := Nat.lt_of_le_of_lt hnow hhor
    have hslot' : slot.millisUp < horizon := Nat.lt_of_le_of_lt hslot hseen
    rcases Nat.lt_or_ge attempt UInt32.size with hcount | hspent
    · have hround := round_bounded ledger m gas slot hd hcount hnow hhor
      rw [attempts_eq_round hseen hslot' hi hcount]
      rcases hseq : (round ledger m s horizon gas attempt slot now).sequel with
        (_ | ⟨t, ending⟩) | ⟨next, now'⟩
      · rw [hseq] at hround
        exact hround.elim
      · rw [hseq] at hround
        exact ⟨t, ending, rfl, hround.timely⟩
      · rw [hseq] at hround
        obtain ⟨rfl, hreached, -, hnow'⟩ := hround
        exact ih hslot' hi hreached hnow'
    · rw [attempts, dif_pos ⟨hseen, hslot', hi⟩, if_pos hspent]
      exact ⟨now, .death, rfl, hnow⟩

/-- **A poll is over at its deadline**, whatever the ledger does, as soon as the timer goes off. -/
theorem observe_over (ledger : Ledger) (m : Message) (hd : s.deadline = some deadline)
    (hhor : deadline.millisUp < horizon) :
    ∃ t ending, (observe ledger m s horizon).ending = some (t, ending) ∧
      t ≤ deadline.millisUp := by
  have hpos : horizon ≠ 0 := Nat.ne_zero_of_lt hhor
  by_cases hi : s.interval = .zero
  · rw [observe, if_neg hpos, if_pos hi]
    exact ⟨0, _, rfl, Nat.zero_le _⟩
  by_cases hdz : s.deadline = some .zero
  · rw [observe_of_no_time hi hdz (Nat.pos_of_ne_zero hpos)]
    exact ⟨0, _, rfl, Nat.zero_le _⟩
  have hmax : max deadline.millisUp 0 = deadline.millisUp := Nat.max_zero _
  have hwait := (ledger.estimate m 0).await_over (hmax.symm ▸ hhor)
  rw [hmax, ← Schedule.cutOff_of_deadline hd] at hwait
  simp only [observe, if_neg hpos, if_neg hi, if_neg hdz]
  cases ha : (ledger.estimate m 0).await 0 s.cutOff horizon with
  | pending =>
    rw [ha] at hwait
    exact hwait.elim
  | died t =>
    rw [ha] at hwait
    exact ⟨t, .death, rfl, hwait.1⟩
  | cutOff t =>
    rw [ha] at hwait
    exact ⟨t, _, rfl, Nat.le_of_eq hwait⟩
  | answered t result =>
    rw [ha] at hwait
    cases result with
    | error e => exact ⟨t, _, rfl, hwait.2⟩
    | ok cost => exact attempts_over hi hd (Nat.zero_le t) hwait.2 hhor

/-- No query is in flight behind the timer of the deadline. -/
theorem not_inFlight (hd : s.deadline = some deadline) {query : LedgerCall} {t : Nat}
    (ht : deadline.millisUp < t) (hseen : t < horizon) :
    ¬ (observe ledger m s horizon).InFlight query t := by
  intro hflight
  obtain ⟨stop, ending, hending, hstop⟩ := observe_over ledger m hd (Nat.lt_trans ht hseen)
  have hle : t ≤ stop := hflight.awaited stop ending hending
  omega

end Poll

/-! ### The driver does not look at the deadlines -/

namespace Run

section

variable (c : RunConfig) (f : Duration) (r : Option Duration) (keys : List MessageKey)
  (relay : FinalizedMessage → Nat → RelayTrace)

theorem take_withDeadlines (s : State) (position : Nat) (polled : Polled) :
    s.take (c.withDeadlines f r) keys relay position polled =
      s.take c keys relay position polled := rfl

theorem release_withDeadlines (s : State) :
    s.release (c.withDeadlines f r) keys relay = s.release c keys relay := by
  have hall : ∀ steps (s : State), s.releaseUpTo (c.withDeadlines f r) keys relay steps =
      s.releaseUpTo c keys relay steps := by
    intro steps
    induction steps with
    | zero => exact fun s => rfl
    | succ steps ih =>
      intro s
      simp only [State.releaseUpTo, take_withDeadlines, ih]
  exact hall s.gate.buffered s

theorem step_withDeadlines :
    step (c.withDeadlines f r) keys relay = step c keys relay := by
  funext s done
  simp only [step, release_withDeadlines]
  rfl

/-- **The driver never looks at a deadline.** -/
theorem drive_withDeadlines (done : List Completion) :
    drive (c.withDeadlines f r) keys relay done = drive c keys relay done := by
  rw [drive, drive, step_withDeadlines]

theorem repair_withDeadlines (s : State) :
    repair (c.withDeadlines f r) keys relay s = repair c keys relay s := by
  simp only [repair, release_withDeadlines]

end

variable {c : RunConfig} {ledger : Ledger} {batch : Batch}

/-- Deadlines that make the same schedule make the same polls. -/
theorem polls_withDeadlines {f f' : Duration} {r r' : Option Duration}
    (h : (c.withDeadlines f r).schedule = (c.withDeadlines f' r').schedule) :
    polls (c.withDeadlines f r) ledger batch = polls (c.withDeadlines f' r') ledger batch := by
  funext horizon
  rw [polls, polls, h]

/-- Deadlines that make the same schedule make the same run. -/
theorem observe_withDeadlines {f f' : Duration} {r r' : Option Duration}
    (h : (c.withDeadlines f r).schedule = (c.withDeadlines f' r').schedule) :
    observe (c.withDeadlines f r) ledger batch = observe (c.withDeadlines f' r') ledger batch := by
  have hrelay : ∀ f r, relayOn (c.withDeadlines f r) ledger = relayOn c ledger := fun _ _ => rfl
  have hends : ∀ f r s, State.endsPolls (c.withDeadlines f r) s = State.endsPolls c s :=
    fun _ _ _ => rfl
  funext horizon
  simp only [observe, polls_withDeadlines h, hrelay, hends, drive_withDeadlines,
    repair_withDeadlines]

/-- **The deadline of a run is only a cap.** Let a run have a deadline besides the one of its
messages, and let either be whatever it may, zero and no instant of the clock included. The run goes
like the one that has only the lesser of the two, as the deadline of its messages: all polls make
the same calls at the same times and get the same answers, the driver does the same in every state,
and if the run comes to an end, then at the same instant and with the same submissions and reports.
If the lesser one is an instant, no query is in flight later than at the first whole millisecond
that is not in front of it. -/
theorem runDeadline_caps (c : RunConfig) (ledger : Ledger) (batch : Batch) (f d : Duration) :
    let both := c.withDeadlines f (some d)
    let lesser := c.withDeadlines (min f d) none
    (∀ horizon, polls both ledger batch horizon = polls lesser ledger batch horizon) ∧
    (∀ done, drive both batch.keys (relayOn both ledger) done =
      drive lesser batch.keys (relayOn lesser ledger) done) ∧
    (∀ horizon, observe both ledger batch horizon = observe lesser ledger batch horizon) ∧
    trace both ledger batch = trace lesser ledger batch ∧
    (min f d < .ofMillis Clock.limit → ∀ horizon, ∀ poll ∈ polls both ledger batch horizon,
      ∀ query t, (min f d).millisUp < t → t < horizon → ¬ poll.InFlight query t) := by
  intro both lesser
  have hschedule : both.schedule = lesser.schedule := c.schedule_capped f d
  have hpolls : polls both ledger batch = polls lesser ledger batch :=
    polls_withDeadlines hschedule
  have hobserve : observe both ledger batch = observe lesser ledger batch :=
    observe_withDeadlines hschedule
  refine ⟨congrFun hpolls, fun done => ?_, congrFun hobserve, ?_, ?_⟩
  · rw [drive_withDeadlines c, drive_withDeadlines c]
    rfl
  · rw [trace, trace, hobserve]
  · intro hinstant horizon poll hpoll query t ht hseen
    rw [hpolls] at hpoll
    obtain ⟨m, -, rfl⟩ := List.mem_map.mp hpoll
    have hd : lesser.schedule.deadline = some (min f d) := Clock.instant?_of_lt hinstant
    exact Poll.not_inFlight hd ht hseen

/-- The messages have no deadline, since theirs is no instant, and the run has 24.5 milliseconds: on
a ledger that takes 12 of them for each negative answer, no query is in flight behind 25. -/
theorem runDeadline_caps_neverFinal :
    min (Duration.ofMillis Clock.limit) ⟨24500000⟩ < .ofMillis Clock.limit ∧
      let c : RunConfig := { interval := .ofMillis 10 }
      let both := c.withDeadlines (.ofMillis Clock.limit) (some ⟨24500000⟩)
      let lesser := c.withDeadlines (min (.ofMillis Clock.limit) ⟨24500000⟩) none
      trace both Poll.neverFinal Batch.three = trace lesser Poll.neverFinal Batch.three ∧
        ∀ poll ∈ polls both Poll.neverFinal Batch.three 100, ∀ query,
          ¬ poll.InFlight query 26 := by
  have hinstant : min (Duration.ofMillis Clock.limit) ⟨24500000⟩ < .ofMillis Clock.limit := by
    decide
  refine ⟨hinstant, ?_⟩
  intro c both lesser
  obtain ⟨-, -, -, htrace, hbehind⟩ :=
    runDeadline_caps c Poll.neverFinal Batch.three (.ofMillis Clock.limit) ⟨24500000⟩
  exact ⟨htrace, fun poll hpoll query =>
    hbehind hinstant 100 poll hpoll query 26 (by decide) (by decide)⟩

/-- A ledger that answers no query. -/
def silentQueries : Ledger :=
  { Poll.neverFinal with
    estimate := fun _ _ => .answer 0 (.ok 100)
    check := fun _ _ _ _ => .silence }

/-- A query that is not answered is given up when the timer of the deadline goes off. -/
theorem observe_silentQueries (m : Message) :
    Poll.observe silentQueries m (.within (.ofMillis 10) ⟨500000⟩) 100 =
      ⟨[.answered .estimate 0 0 .cost (.ok 100), .unanswered (.check 150) 0], [.pollAttempt],
        some (1, .result (.timedOut 1 1))⟩ := by
  have hi : (Schedule.within (.ofMillis 10) ⟨500000⟩).interval ≠ .zero := by decide
  have hdz : (Schedule.within (.ofMillis 10) ⟨500000⟩).deadline ≠ some .zero := by decide
  have hin : (Schedule.within (.ofMillis 10) ⟨500000⟩).InTime 0 := fun _ _ => Nat.zero_le _
  rw [Poll.observe_of_cost hi hdz ⟨0, rfl, rfl⟩ hin (by decide), Poll.attempts,
    dif_pos ⟨by decide, by decide, hi⟩, if_neg (by decide)]
  rfl

/-- **The deadline itself is not the end of the queries** if it is no whole number of milliseconds.
Half a millisecond is an instant, and yet a query that is not answered is still in flight at the
first millisecond. -/
theorem inFlight_behind_deadline :
    let c : RunConfig := { interval := .ofMillis 10 }
    let f := Duration.ofMillis 1000
    let d : Duration := ⟨500000⟩
    let both := c.withDeadlines f (some d)
    min f d < .ofMillis Clock.limit ∧
      ¬ ∀ horizon, ∀ poll ∈ polls both silentQueries Batch.three horizon,
        ∀ query t, min f d < .ofMillis t → t < horizon → ¬ poll.InFlight query t := by
  intro c f d both
  refine ⟨by decide, fun hnone => ?_⟩
  have hpoll : Poll.observe silentQueries (.sample 1) both.schedule 100 ∈
      polls both silentQueries Batch.three 100 :=
    List.mem_map_of_mem List.mem_cons_self
  refine hnone 100 _ hpoll (.unanswered (.check 150) 0) 1 (by decide) (by decide) ?_
  rw [show both.schedule = .within (.ofMillis 10) ⟨500000⟩ by decide, observe_silentQueries]
  refine ⟨List.mem_singleton_self _, Nat.zero_le 1, fun stop answer h => ?_,
    fun stop ending h => ?_⟩
  · exact absurd h (Option.some_ne_none _).symm
  · obtain ⟨rfl, -⟩ := Prod.mk.inj (Option.some.inj h)
    exact Nat.le_refl 1

end Run

end MessageRelay
