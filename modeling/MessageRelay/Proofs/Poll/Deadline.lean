import MessageRelay.Proofs.Poll.Bounds

/-!
# Queries at the deadline

The poll plans a query for each slot before the deadline, but it makes the query when its slot has
come *and* what it waits for is there: the estimate for the first query, the negative answer to the
query before for every other one (`MessageRelay.Poll.Prompts`). Only the slot is held against the
deadline. What the query waits for may arrive exactly at the deadline and still counts, and then the
query is made at the deadline.

That is the one way in which a query comes so late, as long as all is planned in whole milliseconds:
`MessageRelay.Poll.observe_starts` says that every query is made before the deadline unless what it
waits for arrives exactly there, and `MessageRelay.Poll.asks_at_deadline` that such a query can even
finalize the message. Below a millisecond there is a second way. Timers round up, so a slot before
the deadline may be kept only at the millisecond in which the deadline lies.
-/

namespace MessageRelay

namespace Poll

/-- What the `k`-th query of a poll waits for arrives at `t`: the estimate, or the negative answer
to the query before. -/
def Prompts (ledger : Ledger) (m : Message) (poll : PollTrace) (t : Nat) : Nat → Prop
  | 0 => ∃ cost, (ledger.estimate m 0).Arrives 0 t (.ok cost)
  | k + 1 => ∃ gas a, poll.Asks k gas a ∧ (ledger.check m gas (k + 1) a).Arrives a t (.ok false)

variable {ledger : Ledger} {m : Message} {s : Schedule} {interval deadline : Duration}
  {horizon : Nat}

theorem Prompts.unique {poll : PollTrace} {k t t' : Nat} (h : Prompts ledger m poll t k)
    (h' : Prompts ledger m poll t' k) : t = t' := by
  cases k with
  | zero =>
    obtain ⟨cost, harr⟩ := h
    obtain ⟨cost', harr'⟩ := h'
    exact (harr.unique harr').1
  | succ k =>
    obtain ⟨gas, a, hask, harr⟩ := h
    obtain ⟨gas', a', hask', harr'⟩ := h'
    obtain ⟨rfl, rfl⟩ := hask.unique hask'
    exact (harr.unique harr').1

/-- A poll without time asks nothing, so one that asks has some. -/
theorem deadline_ne_zero_of_asks (hi : s.interval ≠ .zero) {k : Nat} {gas : UInt64} {start : Nat}
    (hask : (observe ledger m s horizon).Asks k gas start) : s.deadline ≠ some .zero := by
  intro hd
  obtain ⟨answer, hask⟩ := hask
  by_cases hhor : horizon = 0
  · rw [observe, if_pos hhor] at hask
    cases hask
  · rw [observe_of_no_time hi hd (Nat.pos_of_ne_zero hhor)] at hask
    cases hask

/-- **A query is made when its slot has come and what it waits for is there.** -/
theorem exists_prompts (hi : s.interval ≠ .zero) (hd : s.deadline ≠ some .zero) {k : Nat}
    {gas : UInt64} {start : Nat} (hask : (observe ledger m s horizon).Asks k gas start) :
    ∃ t, Prompts ledger m (observe ledger m s horizon) t k ∧ s.InTime t ∧
      (0 < k → s.plans (s.slot k)) ∧ start = max (s.slot k).millisUp t := by
  cases k with
  | zero =>
    obtain ⟨cost, harr, hin, -, -⟩ := (observe_asks_zero_iff hi hd).mp hask
    refine ⟨start, ⟨cost, harr⟩, hin, fun h => absurd h (Nat.lt_irrefl 0), ?_⟩
    rw [Schedule.slot_zero, Duration.millisUp_zero, Nat.zero_max]
  | succ k =>
    obtain ⟨a, t, hbefore, hcont, hstart⟩ := (observe_asks_succ_iff hi hd).mp hask
    refine ⟨t, ⟨gas, a, hbefore, hcont.negative⟩, hcont.timely, fun _ => ?_, hstart⟩
    rw [← s.slot_add_interval]
    exact hcont.planned

/-- The slot of a query lies before the deadline, and the query is made no later than when the timer
of the deadline goes off. It is made just then if what it waits for arrives then, or if that is when
the timer of its slot goes off. -/
theorem start_of_asks (hi : s.interval ≠ .zero) (hd : s.deadline = some deadline) {k : Nat}
    {gas : UInt64} {start : Nat} (hask : (observe ledger m s horizon).Asks k gas start) :
    s.slot k < deadline ∧ start ≤ deadline.millisUp ∧
      (deadline ≤ .ofMillis start ↔
        Prompts ledger m (observe ledger m s horizon) deadline.millisUp k ∨
          deadline ≤ .ofMillis (s.slot k).millisUp) := by
  have hdz : s.deadline ≠ some .zero := deadline_ne_zero_of_asks hi hask
  have hpos : .zero < deadline :=
    Duration.nanos_pos fun hzero => hdz (hzero ▸ hd)
  obtain ⟨t, hprompts, hin, hplans, hstart⟩ := exists_prompts hi hdz hask
  have ht : t ≤ deadline.millisUp := hin _ (Schedule.cutOff_of_deadline hd)
  have hslot : s.slot k < deadline := by
    cases k with
    | zero => rwa [Schedule.slot_zero]
    | succ k => exact Schedule.lt_of_plans hd (hplans (Nat.succ_pos k))
  have hkept : (s.slot k).millisUp ≤ deadline.millisUp :=
    Duration.millisUp_mono (Nat.le_of_lt hslot)
  refine ⟨hslot, by omega, ?_⟩
  rw [Duration.le_ofMillis_iff, Duration.le_ofMillis_iff]
  constructor
  · intro hlate
    rcases Nat.le_total (s.slot k).millisUp t with hwaits | hprompt
    · -- the query has waited until the timer of the deadline goes off
      obtain rfl : t = deadline.millisUp := by omega
      exact .inl hprompts
    · exact .inr (by omega)
  · rintro (hlate | hlate)
    · have hsame : t = deadline.millisUp := hprompts.unique hlate
      omega
    · omega

/-- In whole milliseconds the timer of a slot goes off before that of the deadline. -/
theorem slot_not_late {ms stop k : Nat} {s : Schedule} (hi : s.interval = .ofMillis ms)
    (hslot : s.slot k < .ofMillis stop) :
    ¬ Duration.ofMillis stop ≤ .ofMillis (s.slot k).millisUp := by
  have hwhole : s.slot k = .ofMillis (k * ms) := by
    rw [Schedule.slot, hi]
    exact Duration.ext (Nat.mul_left_comm _ _ _)
  rw [hwhole, Duration.ofMillis_lt_iff] at hslot
  rw [hwhole, Duration.millisUp_ofMillis, Duration.le_ofMillis_iff, Duration.millisUp_ofMillis]
  exact Nat.not_le.mpr hslot

/-- The query that finalizes a message is among the queries of the poll. -/
theorem exists_finalizing_query {t : Nat} {f : FinalizedMessage}
    (h : (observe ledger m s horizon).ending = some (t, .result (.finalized f))) :
    ∃ (k : Nat) (gas : UInt64) (start : Nat), (observe ledger m s horizon).queries[k]? =
      some ⟨.check gas, start, some (t, .finality true)⟩ := by
  obtain ⟨-, ⟨kind, start, answer⟩, hmem, hcheck, hanswer⟩ := exists_positive_answer h
  obtain rfl : answer = some (t, .finality true) := hanswer
  have hquery := List.mem_filter.mpr ⟨hmem, hcheck⟩
  obtain ⟨k, hk⟩ := List.getElem?_of_mem hquery
  cases kind with
  | check gas => exact ⟨k, gas, start, hk⟩
  | estimate | finalityTime | submit => cases hcheck

/-- How late a poll makes its `k`-th query, which it makes at `start`. -/
structure MadeInTime (ledger : Ledger) (m : Message) (interval deadline : Duration)
    (poll : PollTrace) (k start : Nat) : Prop where
  /-- The query is made no later than when the timer of the deadline goes off. -/
  not_later : start ≤ deadline.millisUp
  /-- It is made at the deadline or behind it if what it waits for arrives just when that timer goes
  off, or if the timer of its slot goes off no earlier; and only then. -/
  late_iff : deadline ≤ .ofMillis start ↔ Prompts ledger m poll deadline.millisUp k ∨
    deadline ≤ .ofMillis ((Schedule.within interval deadline).slot k).millisUp
  /-- In whole milliseconds only the former happens. -/
  late_iff_of_whole : ∀ i d, interval = .ofMillis i → deadline = .ofMillis d →
    (start = d ↔ Prompts ledger m poll d k)

/-- **When the queries of a poll are made.** Let the deadline be an instant. The slot of every query
lies before the deadline, whatever the ledger replies and however long it takes, and no query is
made later than when the timer of the deadline goes off. A query is made *at* the deadline if what
it waits for arrives exactly there, the estimate or the negative answer to the query before, and in
whole milliseconds only then. The same holds of the query that finalizes the message. -/
theorem observe_starts (ledger : Ledger) (m : Message) (hi : interval ≠ .zero)
    (hinstant : deadline < .ofMillis Clock.limit) (horizon : Nat) :
    let poll := observe ledger m (.within interval deadline) horizon
    (∀ k gas start, poll.Asks k gas start →
      (Schedule.within interval deadline).slot k < deadline ∧
        MadeInTime ledger m interval deadline poll k start) ∧
    ∀ t f, poll.ending = some (t, .result (.finalized f)) →
      ∃ (k : Nat) (gas : UInt64) (start : Nat),
        poll.queries[k]? = some ⟨.check gas, start, some (t, .finality true)⟩ ∧
        MadeInTime ledger m interval deadline poll k start := by
  intro poll
  have hd : (Schedule.within interval deadline).deadline = some deadline := if_pos hinstant
  have hall : ∀ k gas start, poll.Asks k gas start →
      (Schedule.within interval deadline).slot k < deadline ∧
        MadeInTime ledger m interval deadline poll k start := by
    intro k gas start hask
    obtain ⟨hslot, hle, hlate⟩ := start_of_asks (s := .within interval deadline) hi hd hask
    refine ⟨hslot, hle, hlate, ?_⟩
    rintro i d hwhole rfl
    have hnot := slot_not_late (s := .within interval _) hwhole hslot
    rw [Duration.le_ofMillis_iff, or_iff_left hnot, Duration.millisUp_ofMillis] at hlate
    rw [Duration.millisUp_ofMillis] at hle
    rw [← hlate]
    exact ⟨fun h => Nat.le_of_eq h.symm, Nat.le_antisymm hle⟩
  refine ⟨hall, fun t f hending => ?_⟩
  obtain ⟨k, gas, start, hquery⟩ := exists_finalizing_query hending
  exact ⟨k, gas, start, hquery, (hall k gas start ⟨_, hquery⟩).2⟩

/-- A ledger that takes a second for the estimate and nothing for a positive answer. -/
def lateEstimate : Ledger where
  estimate _ _ := .answer 1000 (.ok 100000)
  check _ _ _ _ := .answer 0 (.ok true)
  finalityTime _ _ := .silence
  submit _ _ _ := .silence

/-- Where the estimate of that ledger comes in time, the only query is made behind it and finalizes
the message at once. -/
theorem finalized_lateEstimate {stop : Nat} (hd : 1000 ≤ stop) :
    let poll := observe lateEstimate default (.within (.ofMillis 100) (.ofMillis stop)) 2000
    poll.Asks 0 150000 1000 ∧ poll.queries.length = 1 ∧
      poll.ending = some (1000, .result (.finalized ⟨default, 1, 1000⟩)) := by
  intro poll
  have hi : Duration.ofMillis 100 ≠ .zero := by decide
  have hdz := deadline_ne_zero 100 (show 0 < stop by omega)
  have hin : (Schedule.within (.ofMillis 100) (.ofMillis stop)).InTime 1000 :=
    timely_iff.mpr fun _ => hd
  have hcost : (lateEstimate.estimate default 0).Arrives 0 1000 (.ok 100000) := ⟨1000, rfl, rfl⟩
  have hanswer : (lateEstimate.check default 150000 1 1000).Arrives 1000 1000 (.ok true) :=
    ⟨0, rfl, rfl⟩
  have hask : poll.Asks 0 150000 1000 :=
    (observe_asks_zero_iff hi hdz).mpr ⟨100000, hcost, hin, by decide, by decide⟩
  obtain ⟨hending, hcount, -⟩ := observe_concluded hi hdz hask hanswer hin (by decide) rfl
  exact ⟨hask, hcount, hending⟩

/-- Nothing that a query waits for comes from that ledger at any other instant than the estimate. -/
theorem not_prompts_lateEstimate {poll : PollTrace} {k t : Nat} (ht : t ≠ 1000) :
    ¬ Prompts lateEstimate m poll t k := by
  intro h
  cases k with
  | zero =>
    obtain ⟨cost, delay, hreply, rfl⟩ := h
    obtain ⟨rfl, -⟩ := Reply.answer.inj hreply
    exact ht rfl
  | succ k =>
    obtain ⟨gas, a, -, delay, hreply, -⟩ := h
    exact nomatch (Reply.answer.inj hreply).2

/-- With a deadline one millisecond behind the estimate, the message is finalized by a query that is
made before the deadline. -/
theorem observe_starts_lateEstimate :
    (Duration.ofMillis 100 ≠ .zero ∧ Duration.ofMillis 1001 < .ofMillis Clock.limit) ∧
      let poll := observe lateEstimate default (.within (.ofMillis 100) (.ofMillis 1001)) 2000
      poll.ending = some (1000, .result (.finalized ⟨default, 1, 1000⟩)) ∧
        ∃ c ∈ poll.calls, c.answer = some (1000, .finality true) ∧ c.start < 1001 := by
  have hi : Duration.ofMillis 100 ≠ .zero := by decide
  have hinstant : Duration.ofMillis 1001 < .ofMillis Clock.limit := by decide
  refine ⟨⟨hi, hinstant⟩, ?_⟩
  intro poll
  obtain ⟨-, -, hending⟩ := finalized_lateEstimate (show 1000 ≤ 1001 by decide)
  obtain ⟨-, hfinal⟩ := observe_starts lateEstimate default hi hinstant 2000
  obtain ⟨k, gas, start, hquery, ⟨hle, -, hlate⟩⟩ := hfinal _ _ hending
  have hmem := (List.mem_filter.mp (List.mem_of_getElem? hquery)).1
  have hne : start ≠ 1001 := fun h =>
    not_prompts_lateEstimate (by decide) ((hlate 100 1001 rfl rfl).mp h)
  rw [Duration.millisUp_ofMillis] at hle
  exact ⟨hending, _, hmem, rfl, Nat.lt_of_le_of_ne hle hne⟩

/-- **A query can be made at the deadline**, and it can finalize the message. Here the estimate
comes exactly at the deadline; the first query, planned for the start of the poll, is still made,
and it is the only one. -/
theorem asks_at_deadline :
    (Duration.ofMillis 100 ≠ .zero ∧ Duration.ofMillis 1000 < .ofMillis Clock.limit) ∧
      let poll := observe lateEstimate default (.within (.ofMillis 100) (.ofMillis 1000)) 2000
      ¬ (∀ k gas start, poll.Asks k gas start → start < 1000) ∧
      poll.Asks 0 150000 1000 ∧ poll.queries.length = 1 ∧
      poll.ending = some (1000, .result (.finalized ⟨default, 1, 1000⟩)) := by
  refine ⟨by decide, ?_⟩
  intro poll
  obtain ⟨hask, hcount, hending⟩ := finalized_lateEstimate (Nat.le_refl 1000)
  exact ⟨fun hbefore => Nat.lt_irrefl 1000 (hbefore 0 150000 1000 hask), hask, hcount, hending⟩

end Poll

end MessageRelay
