import MessageRelay.Proofs.Poll.Schedule

/-!
# The bounds of a poll

A poll with a deadline ends, and no later than at the deadline, even if the ledger never answers:
each of its waits is cut off at the deadline or before it. What bounds the number of its queries is
not the time they take but their slots. One round uses up one interval of the slots before the
deadline (`MessageRelay.Poll.round_bounded`), also when it is made late, so the rest of a poll has
no more queries than there are slots left (`MessageRelay.Poll.attempts_bounded`, by induction over
the rounds).

The number of a query is counted with 32 bits. That this is enough is the only place where the
deadline must not be too many intervals away.
-/

namespace MessageRelay

/-- A ledger that never kills a task that polls for a message. It may well never answer. -/
structure Ledger.Spares (ledger : Ledger) (m : Message) : Prop where
  estimate : ∀ start delay, ledger.estimate m start ≠ .death delay
  check : ∀ gas k start delay, ledger.check m gas k start ≠ .death delay
  finalityTime : ∀ start delay, ledger.finalityTime m start ≠ .death delay

/-- **A wait with a cut-off is over at the cut-off**: with an answer until then, at the cut-off
itself, or because the reply kills the caller. -/
theorem Reply.await_over {α : Type} (reply : Reply α) {start c horizon : Nat}
    (hlt : max c start < horizon) :
    match reply.await start (some c) horizon with
    | .pending => False
    | .died t => t ≤ max c start ∧ ∃ delay, reply = .death delay
    | .cutOff t => t = max c start
    | .answered t _ => start ≤ t ∧ t ≤ max c start := by
  rw [await_eq_outcome hlt]
  cases reply with
  | answer delay result =>
    by_cases hc : start + delay ≤ max c start
    · simp only [outcome, if_pos hc]
      exact ⟨Nat.le_add_right _ _, hc⟩
    · simp only [outcome, if_neg hc]
  | silence => rfl
  | death delay =>
    by_cases hc : start + delay ≤ max c start
    · simp only [outcome, if_pos hc]
      exact ⟨hc, delay, rfl⟩
    · simp only [outcome, if_neg hc]

namespace Poll

/-! ### One round -/

/-- How a poll ends that is bounded by a deadline: no later than that, if it runs out of time
exactly then, and with a result unless the ledger kills the task. -/
structure EndsBounded (ledger : Ledger) (m : Message) (deadline attempts t : Nat)
    (ending : PollEnding) : Prop where
  /-- The end is not behind the deadline. -/
  timely : t ≤ deadline
  /-- There is a result. -/
  concluded : ledger.Spares m → ∃ r, ending = .result r
  /-- Running out of time takes until the deadline, and all queries are reported. -/
  timedOut : ∀ n elapsed, ending = .result (.timedOut n elapsed) →
    t = deadline ∧ elapsed = deadline ∧ n.toNat = attempts

section

variable {ledger : Ledger} {m : Message} {deadline attempt : Nat}

/-- The poll ends when its time is over. -/
theorem EndsBounded.of_timedOut (hcount : attempt < UInt32.size) :
    EndsBounded ledger m deadline attempt deadline
      (.result (.timedOut (UInt32.ofNat attempt) deadline)) := by
  refine ⟨Nat.le_refl _, fun _ => ⟨_, rfl⟩, ?_⟩
  rintro n elapsed ⟨⟩
  exact ⟨rfl, rfl, UInt32.toNat_ofNat_of_lt' hcount⟩

/-- The poll ends with a positive answer, or with an error. -/
theorem EndsBounded.of_answer {n t : Nat} {r : PollResult} (ht : t ≤ deadline)
    (hr : ∀ n elapsed, r ≠ .timedOut n elapsed) :
    EndsBounded ledger m deadline n t (.result r) :=
  ⟨ht, fun _ => ⟨r, rfl⟩, fun n elapsed h => absurd (PollEnding.result.inj h) (hr n elapsed)⟩

/-- The task dies. -/
theorem EndsBounded.of_death {n t : Nat} (ht : t ≤ deadline) (hnot : ¬ ledger.Spares m) :
    EndsBounded ledger m deadline n t .death :=
  ⟨ht, fun hspares => absurd hspares hnot, fun _ _ => nofun⟩

end

variable {ledger : Ledger} {m : Message} {s : Schedule} {deadline : Duration} {horizon : Nat}
  {gas : UInt64} {attempt : Nat} {slot : Duration} {now : Nat}

/-- The pause behind an answer in time ends the poll at the deadline, or leads to a slot before the
deadline. -/
theorem pause_bounded {t : Nat} (hd : s.deadline = some deadline) (hcount : attempt < UInt32.size)
    (ht : t ≤ deadline.millisUp) (hhor : deadline.millisUp < horizon) :
    match (pause ledger m s horizon attempt slot t).2 with
    | .last none => False
    | .last (some (t', ending)) => EndsBounded ledger m deadline.millisUp attempt t' ending
    | .another slot' now' =>
      slot' = slot + s.interval ∧ slot'.millisUp ≤ now' ∧ slot' < deadline ∧
        now' ≤ deadline.millisUp := by
  have hcut := Schedule.cutOff_of_deadline hd
  cases hn : s.nextSlot? slot with
  | none =>
    have hmax : max deadline.millisUp t = deadline.millisUp := Nat.max_eq_left ht
    rw [pause_of_deadline hn hcut, hmax, if_pos hhor]
    exact .of_timedOut hcount
  | some next =>
    obtain ⟨rfl, hplan⟩ := Schedule.nextSlot?_eq_some_iff.mp hn
    have hslot : slot + s.interval < deadline := Schedule.lt_of_plans hd hplan
    have hle : max (slot + s.interval).millisUp t ≤ deadline.millisUp :=
      Nat.max_le.mpr ⟨Duration.millisUp_mono (Nat.le_of_lt hslot), ht⟩
    by_cases hone : attempt = 1
    · subst hone
      rw [pause_of_first hn]
      have hover := (ledger.finalityTime m t).await_over (Nat.lt_of_le_of_lt hle hhor)
      cases ha : (ledger.finalityTime m t).await t (some (slot + s.interval).millisUp) horizon with
      | pending =>
        rw [ha] at hover
        exact hover
      | died t' =>
        rw [ha] at hover
        obtain ⟨ht', delay, hdeath⟩ := hover
        exact .of_death (Nat.le_trans ht' hle) fun hspares => hspares.finalityTime t delay hdeath
      | cutOff t' | answered t' result => exact ⟨rfl, Nat.le_max_left _ _, hslot, hle⟩
    · rw [pause_of_later hn hone]
      exact ⟨rfl, Nat.le_max_left _ _, hslot, hle⟩

variable (ledger m gas slot) in
/-- **A round uses up one interval** of the slots before the deadline, or ends the poll in time. -/
theorem round_bounded (hd : s.deadline = some deadline) (hcount : attempt < UInt32.size)
    (hnow : now ≤ deadline.millisUp) (hhor : deadline.millisUp < horizon) :
    match (round ledger m s horizon gas attempt slot now).sequel with
    | .last none => False
    | .last (some (t, ending)) => EndsBounded ledger m deadline.millisUp attempt t ending
    | .another slot' now' =>
      slot' = slot + s.interval ∧ slot'.millisUp ≤ now' ∧ slot' < deadline ∧
        now' ≤ deadline.millisUp := by
  have hcut := Schedule.cutOff_of_deadline hd
  have hmax : max deadline.millisUp now = deadline.millisUp := Nat.max_eq_left hnow
  have hover := (ledger.check m gas attempt now).await_over (hmax.symm ▸ hhor)
  rw [hmax] at hover
  cases ha : (ledger.check m gas attempt now).await now (some deadline.millisUp) horizon with
  | pending =>
    rw [ha] at hover
    exact hover.elim
  | died t =>
    rw [ha] at hover
    obtain ⟨ht, delay, hdeath⟩ := hover
    simp only [round, hcut, ha]
    exact .of_death ht fun hspares => hspares.check gas attempt now delay hdeath
  | cutOff t =>
    rw [ha] at hover
    obtain rfl : t = deadline.millisUp := hover
    simp only [round, hcut, ha]
    exact .of_timedOut hcount
  | answered t result =>
    rw [ha] at hover
    have ht : t ≤ deadline.millisUp := hover.2
    rcases result with e | (_ | _)
    · simp only [round, hcut, ha]
      exact .of_answer ht (by simp)
    · rw [round_of_negative (by rw [hcut, ha])]
      exact pause_bounded hd hcount ht hhor
    · simp only [round, hcut, ha]
      exact .of_answer ht (by simp)

/-! ### The rest of a poll -/

/-- What bounds the rest of a poll that has made some queries and comes to `slot`: it ends, and has
no more queries than there are slots left. -/
structure Bounded (ledger : Ledger) (m : Message) (interval deadline : Duration) (made : Nat)
    (slot : Duration) (poll : PollTrace) : Prop where
  /-- The poll ends, and all its queries are counted. -/
  ends : ∃ t ending, poll.ending = some (t, ending) ∧
    EndsBounded ledger m deadline.millisUp (made + poll.queries.length) t ending
  /-- The slot of the last query lies before the deadline. -/
  queries : slot.nanos + poll.queries.length * interval.nanos < deadline.nanos + interval.nanos

/-- The last round of a poll. -/
theorem Bounded.of_last {made t : Nat} {ending : PollEnding} (hslot : slot < deadline)
    (h : EndsBounded ledger m deadline.millisUp (made + 1) t ending) :
    Bounded ledger m s.interval deadline made slot
      ((round ledger m s horizon gas attempt slot now).before ⟨[], [], some (t, ending)⟩) := by
  have hnone : (⟨[], [], some (t, ending)⟩ : PollTrace).queries.length = 0 := rfl
  refine ⟨⟨t, ending, rfl, ?_⟩, ?_⟩
  · rw [length_queries_before, hnone]
    exact h
  · rw [length_queries_before, hnone]
    have hlt := Duration.lt_iff.mp hslot
    omega

/-- A round in front of the rest of a poll uses up one interval. -/
theorem Bounded.before {made : Nat} {rest : PollTrace}
    (h : Bounded ledger m s.interval deadline (made + 1) (slot + s.interval) rest) :
    Bounded ledger m s.interval deadline made slot
      ((round ledger m s horizon gas attempt slot now).before rest) := by
  obtain ⟨⟨t, ending, hending, hbound⟩, hqueries⟩ := h
  refine ⟨⟨t, ending, hending, ?_⟩, ?_⟩
  · rw [length_queries_before, ← Nat.add_assoc, Nat.add_right_comm]
    exact hbound
  · rw [Duration.nanos_add] at hqueries
    rw [length_queries_before, Nat.succ_mul]
    omega

/-- **The rest of a poll is bounded** if its queries can be counted up to the deadline. -/
theorem attempts_bounded {made : Nat} (hdue : Due s horizon (made + 1) slot now)
    (hd : s.deadline = some deadline) (hslot : slot < deadline) (hhor : deadline.millisUp < horizon)
    (hcount : deadline.nanos + (made + 1) * s.interval.nanos ≤
      slot.nanos + UInt32.size * s.interval.nanos) :
    Bounded ledger m s.interval deadline made slot
      (attempts ledger m s horizon gas (made + 1) slot now) := by
  induction slot using Schedule.slot_induction s horizon generalizing made now with
  | step slot ih =>
    have hi : s.interval ≠ .zero := hdue.interval
    have hnow : now ≤ deadline.millisUp := hdue.timely _ (Schedule.cutOff_of_deadline hd)
    have hround := round_bounded ledger m gas slot hd hdue.counted hnow hhor
    rw [attempts_of_due hdue]
    rcases hseq : (round ledger m s horizon gas (made + 1) slot now).sequel with
      (_ | ⟨t, ending⟩) | ⟨next, now'⟩
    · rw [hseq] at hround
      exact hround.elim
    · rw [hseq] at hround
      exact .of_last hslot hround
    · rw [hseq] at hround
      obtain ⟨rfl, hreached, hnext, hnow'⟩ := hround
      -- the next slot lies before the deadline, so there is a number left for its query
      have hsize : (made + 2) * s.interval.nanos < UInt32.size * s.interval.nanos := by
        have hlt := Duration.lt_iff.mp hnext
        rw [Duration.nanos_add] at hlt
        rw [Nat.add_mul] at hcount ⊢
        omega
      have hcounted : made + 2 < UInt32.size := Nat.lt_of_mul_lt_mul_right hsize
      have htimely : s.InTime now' := fun stop hstop =>
        Option.some.inj ((Schedule.cutOff_of_deadline hd).symm.trans hstop) ▸ hnow'
      have hdue' : Due s horizon (made + 1 + 1) (slot + s.interval) now' :=
        ⟨hi, hcounted, hreached, htimely, Nat.lt_of_le_of_lt hnow' hhor⟩
      have hcount' : deadline.nanos + (made + 1 + 1) * s.interval.nanos ≤
          (slot + s.interval).nanos + UInt32.size * s.interval.nanos := by
        rw [Nat.succ_mul (made + 1), Duration.nanos_add]
        omega
      exact .before (ih hdue.slot_lt hi hdue' hnext hcount')

/-! ### The whole poll -/

theorem Bounded.afterCall {interval : Duration} {made : Nat} {poll : PollTrace} {c : LedgerCall}
    (hc : c.isCheck = false) (h : Bounded ledger m interval deadline made slot poll) :
    Bounded ledger m interval deadline made slot (poll.afterCall c) := by
  obtain ⟨⟨t, ending, hending, hbound⟩, hqueries⟩ := h
  have hsame : (poll.afterCall c).queries = poll.queries := PollTrace.queries_afterCall hc poll
  exact ⟨⟨t, ending, hending, hsame ▸ hbound⟩, hsame ▸ hqueries⟩

theorem bounded_of_no_query {t : Nat} {ending : PollEnding} {poll : PollTrace}
    {interval : Duration} (hi : interval ≠ .zero) (hqueries : poll.queries = [])
    (hending : poll.ending = some (t, ending))
    (h : EndsBounded ledger m deadline.millisUp 0 t ending) :
    Bounded ledger m interval deadline 0 .zero poll := by
  have hlength : poll.queries.length = 0 := congrArg List.length hqueries
  refine ⟨⟨t, ending, hending, ?_⟩, ?_⟩
  · rw [hlength]
    exact h
  · have hpos := Duration.nanos_pos hi
    rw [hlength, Duration.nanos_zero]
    omega

/-- A poll without time asks nothing. -/
theorem observe_of_no_time (hi : s.interval ≠ .zero) (hd : s.deadline = some .zero)
    (hhor : 0 < horizon) :
    observe ledger m s horizon = PollTrace.ended 0 (.result (.timedOut 0 0)) := by
  rw [observe, if_neg (Nat.ne_of_gt hhor), if_neg hi, if_pos hd]

/-- **A poll with a deadline is bounded.** -/
theorem observe_bounded (hi : s.interval ≠ .zero) (hd : s.deadline = some deadline)
    (hhor : deadline.millisUp < horizon)
    (hcount : deadline.nanos ≤ (UInt32.size - 1) * s.interval.nanos) :
    Bounded ledger m s.interval deadline 0 .zero (observe ledger m s horizon) := by
  have hpos : 0 < horizon := Nat.zero_lt_of_lt hhor
  have hnever : EndsBounded ledger m deadline.millisUp 0 deadline.millisUp
      (.result (.timedOut 0 deadline.millisUp)) := .of_timedOut (by decide)
  by_cases hzero : deadline = .zero
  · subst hzero
    rw [observe_of_no_time hi hd hpos]
    exact bounded_of_no_query hi rfl rfl hnever
  have hdz : s.deadline ≠ some .zero := by
    rw [hd]
    exact fun h => hzero (Option.some.inj h)
  have hmax : max deadline.millisUp 0 = deadline.millisUp := Nat.max_zero _
  have hover := (ledger.estimate m 0).await_over (hmax.symm ▸ hhor)
  rw [hmax, ← Schedule.cutOff_of_deadline hd] at hover
  cases ha : (ledger.estimate m 0).await 0 s.cutOff horizon with
  | pending =>
    rw [ha] at hover
    exact hover.elim
  | died t =>
    rw [ha] at hover
    obtain ⟨ht, delay, hdeath⟩ := hover
    simp only [observe, if_neg (Nat.ne_of_gt hpos), if_neg hi, if_neg hdz, ha]
    exact bounded_of_no_query hi rfl rfl
      (.of_death ht fun hspares => hspares.estimate 0 delay hdeath)
  | cutOff t =>
    rw [ha] at hover
    obtain rfl : t = deadline.millisUp := hover
    simp only [observe, if_neg (Nat.ne_of_gt hpos), if_neg hi, if_neg hdz, ha]
    exact bounded_of_no_query hi rfl rfl hnever
  | answered t result =>
    rw [ha] at hover
    obtain ⟨harr, hin, hseen⟩ := estimate_await_iff.mp ha
    cases result with
    | error e =>
      rw [observe_of_refusal hi hdz harr hin hseen]
      exact bounded_of_no_query hi rfl rfl
        (.of_answer hover.2 (by simp))
    | ok cost =>
      have hslots : deadline.nanos + (0 + 1) * s.interval.nanos ≤
          Duration.zero.nanos + UInt32.size * s.interval.nanos := by
        have hsize : UInt32.size * s.interval.nanos =
            (UInt32.size - 1) * s.interval.nanos + s.interval.nanos :=
          Nat.succ_mul (UInt32.size - 1) s.interval.nanos
        rw [Duration.nanos_zero]
        omega
      rw [observe_of_cost hi hdz harr hin hseen]
      refine Bounded.afterCall rfl ?_
      exact attempts_bounded (due_first hi hin hseen) hd (Duration.nanos_pos hzero) hhor hslots

/-- **A poll is bounded by its deadline**, whatever the ledger replies and even if it never does.
Let the deadline be an instant that is so few intervals away that the queries up to it can be
counted, and let an observer watch beyond it. Then the poll ends, and no later than at the deadline;
it ends with a result unless the ledger kills the task. It makes no more queries than there are
intervals begun before the deadline. If it runs out of time, it does so exactly at the deadline and
reports all its queries. Without any time it runs out of it at once and asks nothing. -/
theorem observe_in_time (ledger : Ledger) (m : Message) {interval deadline : Nat}
    (hi : 0 < interval) (hinstant : deadline < Clock.limit)
    (hcount : deadline ≤ (UInt32.size - 1) * interval) (hhor : deadline < horizon) :
    let poll := observe ledger m (.within (.ofMillis interval) (.ofMillis deadline)) horizon
    (∃ t ending, poll.ending = some (t, ending) ∧ t ≤ deadline ∧
      (ledger.Spares m → ∃ r, ending = .result r)) ∧
    poll.queries.length ≤ (deadline + interval - 1) / interval ∧
    (∀ t n elapsed, poll.ending = some (t, .result (.timedOut n elapsed)) →
      t = deadline ∧ elapsed = deadline ∧ n.toNat = poll.queries.length) ∧
    (deadline = 0 → poll.calls = [] ∧ poll.ending = some (0, .result (.timedOut 0 0))) := by
  intro poll
  have hi' : Duration.ofMillis interval ≠ .zero :=
    mt Duration.ofMillis_eq_zero_iff.mp (Nat.ne_of_gt hi)
  have hd : (Schedule.within (.ofMillis interval) (.ofMillis deadline)).deadline =
      some (.ofMillis deadline) := by
    rw [Schedule.deadline_ofMillis, if_pos hinstant]
  have hstop := Duration.millisUp_ofMillis deadline
  have hcount' : (Duration.ofMillis deadline).nanos ≤
      (UInt32.size - 1) * (Duration.ofMillis interval).nanos := by
    rw [Duration.ofMillis, Duration.ofMillis, Nat.mul_left_comm]
    exact Nat.mul_le_mul_left _ hcount
  have hbounded : Bounded ledger m (.ofMillis interval) (.ofMillis deadline) 0 .zero poll :=
    observe_bounded hi' hd (hstop.symm ▸ hhor) hcount'
  obtain ⟨⟨t, ending, hending, hbound⟩, hqueries⟩ := hbounded
  rw [Nat.zero_add, hstop] at hbound
  refine ⟨⟨t, ending, hending, hbound.timely, hbound.concluded⟩, ?_, ?_, ?_⟩
  · have hslots : poll.queries.length * interval < deadline + interval := by
      refine Nat.lt_of_mul_lt_mul_left (a := Duration.nanosPerMilli) ?_
      rw [Nat.mul_left_comm, Nat.mul_add]
      rwa [Duration.nanos_zero, Nat.zero_add] at hqueries
    rw [Nat.le_div_iff_mul_le hi]
    omega
  · intro t' n elapsed h
    obtain ⟨rfl, rfl⟩ := Prod.mk.inj (Option.some.inj (hending.symm.trans h))
    exact hbound.timedOut n elapsed rfl
  · rintro rfl
    have hnone : poll = PollTrace.ended 0 (.result (.timedOut 0 0)) :=
      observe_of_no_time hi' hd hhor
    rw [hnone]
    exact ⟨rfl, rfl⟩

/-- A ledger that takes longer than an interval for each negative answer. -/
def neverFinal : Ledger where
  estimate _ _ := .answer 1 (.ok 100)
  check _ _ _ _ := .answer 12 (.ok false)
  finalityTime _ _ := .silence
  submit _ _ _ := .silence

/-- A poll of 25 milliseconds on that ledger, every 10 of them, makes at most three queries. -/
theorem observe_in_time_neverFinal :
    (0 < 10 ∧ 25 < Clock.limit ∧ 25 ≤ (UInt32.size - 1) * 10 ∧ 25 < 100) ∧
      let poll := observe neverFinal default (.within (.ofMillis 10) (.ofMillis 25)) 100
      (∃ t r, poll.ending = some (t, .result r) ∧ t ≤ 25) ∧ poll.queries.length ≤ 3 := by
  have hi : 0 < 10 := by decide
  have hinstant : 25 < Clock.limit := by decide
  have hcount : 25 ≤ (UInt32.size - 1) * 10 := by decide
  have hhor : 25 < 100 := by decide
  have hspares : neverFinal.Spares default :=
    ⟨fun _ _ => nofun, fun _ _ _ _ => nofun, fun _ _ => nofun⟩
  obtain ⟨⟨t, ending, hending, ht, hresult⟩, hqueries, -, -⟩ :=
    observe_in_time neverFinal default hi hinstant hcount hhor
  obtain ⟨r, rfl⟩ := hresult hspares
  exact ⟨⟨hi, hinstant, hcount, hhor⟩, ⟨t, r, hending, ht⟩, hqueries⟩

end Poll

end MessageRelay
