import MessageRelay.Proofs.Poll.Deadline

/-!
# The distance between two queries

The slots of a poll lie an interval apart, and they stay where they are whatever the ledger does. So
a query that is made behind its slot has less than an interval to the next one. It is its *slot*
that the interval is counted from and not the instant at which it is made.

`MessageRelay.Poll.le_next_start_iff` says when two queries in a row are an interval apart: when the
timer of the next slot goes off an interval behind the first of them, or the answer to it takes that
long. In whole milliseconds the former means that the first one is made at its slot. Otherwise the
second one follows too early, and behind a slow estimate or a slow answer several queries can even
be made at one instant (`MessageRelay.Poll.asks_in_burst`). They only make up for what was missed:
no query is made before its slot (`MessageRelay.Poll.slot_le_start`), so up to any instant there are
no more queries than slots (`MessageRelay.Poll.length_queriesUpTo_le`).
-/

namespace MessageRelay

namespace PollTrace

/-- The queries that are made up to an instant. -/
def queriesUpTo (poll : PollTrace) (t : Nat) : List LedgerCall :=
  poll.queries.filter fun c => c.start ≤ t

/-- Every query has a limit and an instant at which it is made. -/
theorem exists_asks {poll : PollTrace} {k : Nat} {c : LedgerCall} (h : poll.queries[k]? = some c) :
    ∃ gas, poll.Asks k gas c.start := by
  obtain ⟨kind, start, answer⟩ := c
  have hcheck := (List.mem_filter.mp (List.mem_of_getElem? h)).2
  cases kind with
  | check gas => exact ⟨gas, answer, h⟩
  | estimate | finalityTime | submit => cases hcheck

end PollTrace

namespace Poll

variable {ledger : Ledger} {m : Message} {s : Schedule} {horizon : Nat}

/-- **No query is made before its slot.** -/
theorem slot_le_start (hi : s.interval ≠ .zero) {k : Nat} {gas : UInt64} {start : Nat}
    (hask : (observe ledger m s horizon).Asks k gas start) : s.slot k ≤ .ofMillis start := by
  obtain ⟨t, -, -, -, rfl⟩ := exists_prompts hi (deadline_ne_zero_of_asks hi hask) hask
  exact Duration.le_ofMillis_iff.mpr (Nat.le_max_left _ _)

/-- **Two queries in a row** are an interval apart if the timer of the second one's slot goes off an
interval behind the first one, or if what the second one waits for, the answer to the first, comes
no earlier than that; and only then. -/
theorem le_next_start_iff (hi : s.interval ≠ .zero) {k : Nat} {gas : UInt64} {a b : Nat}
    (hb : (observe ledger m s horizon).Asks (k + 1) gas b) :
    Duration.ofMillis a + s.interval ≤ .ofMillis b ↔
      Duration.ofMillis a + s.interval ≤ .ofMillis (s.slot (k + 1)).millisUp ∨
      ∃ t, Prompts ledger m (observe ledger m s horizon) t (k + 1) ∧
        Duration.ofMillis a + s.interval ≤ .ofMillis t := by
  obtain ⟨t, hprompts, -, -, rfl⟩ := exists_prompts hi (deadline_ne_zero_of_asks hi hb) hb
  simp only [Duration.le_ofMillis_iff]
  constructor
  · intro hle
    rcases Nat.le_total t (s.slot (k + 1)).millisUp with hearly | hlate
    · exact .inl (Nat.max_eq_left hearly ▸ hle)
    · exact .inr ⟨t, hprompts, Nat.max_eq_right hlate ▸ hle⟩
  · rintro (hslot | ⟨t', hprompts', hle⟩)
    · exact Nat.le_trans hslot (Nat.le_max_left _ _)
    · obtain rfl : t = t' := hprompts.unique hprompts'
      exact Nat.le_trans hle (Nat.le_max_right _ _)

/-- In whole milliseconds the timer of the next slot goes off an interval behind a query if that
query is made at its slot. -/
theorem next_slot_iff_of_whole {i k a : Nat} (hi : s.interval = .ofMillis i)
    (hslot : s.slot k ≤ .ofMillis a) :
    Duration.ofMillis a + s.interval ≤ .ofMillis (s.slot (k + 1)).millisUp ↔ a = k * i := by
  have hwhole : ∀ j, s.slot j = .ofMillis (j * i) := fun j => by
    rw [Schedule.slot, hi]
    exact Duration.ext (Nat.mul_left_comm _ _ _)
  have hnext : (k + 1) * i = k * i + i := Nat.succ_mul k i
  rw [hwhole, Duration.le_ofMillis_iff, Duration.millisUp_ofMillis] at hslot
  rw [hwhole, hi, ← Duration.ofMillis_add, Duration.le_ofMillis_iff, Duration.millisUp_ofMillis,
    Duration.millisUp_ofMillis]
  omega

/-- The queries in a list up to an instant, if none of them is made before its slot. -/
theorem length_filter_le_of_slots {interval : Duration} {t : Nat} (hi : 0 < interval.nanos)
    {calls : List LedgerCall}
    (hslots : ∀ (k : Nat) c, calls[k]? = some c →
      k * interval.nanos ≤ (Duration.ofMillis c.start).nanos) :
    (calls.filter fun c => c.start ≤ t).length ≤
      (Duration.ofMillis t).nanos / interval.nanos + 1 := by
  -- what stands further back in the list belongs to a slot behind the instant
  let slots := (Duration.ofMillis t).nanos / interval.nanos + 1
  have hlate : (calls.drop slots).filter (fun c => c.start ≤ t) = [] := by
    refine List.filter_eq_nil_iff.mpr fun c hc => ?_
    obtain ⟨k, hk⟩ := List.getElem?_of_mem hc
    rw [List.getElem?_drop] at hk
    have hslot := hslots _ c hk
    have hbehind : (Duration.ofMillis t).nanos < (slots + k) * interval.nanos :=
      Nat.lt_mul_of_div_lt (by omega) hi
    rw [decide_eq_true_eq, ← Duration.ofMillis_le_iff, Duration.le_iff]
    omega
  have hearly : calls.filter (fun c => c.start ≤ t) =
      (calls.take slots).filter fun c => c.start ≤ t := by
    calc calls.filter (fun c => c.start ≤ t)
        = (calls.take slots ++ calls.drop slots).filter fun c => c.start ≤ t := by
          rw [List.take_append_drop]
      _ = (calls.take slots).filter fun c => c.start ≤ t := by
          rw [List.filter_append, hlate, List.append_nil]
  rw [hearly]
  exact Nat.le_trans (List.length_filter_le _ _) (List.length_take_le _ _)

/-- **Up to any instant there are no more queries than slots.** -/
theorem length_queriesUpTo_le (hi : s.interval ≠ .zero) (t : Nat) :
    ((observe ledger m s horizon).queriesUpTo t).length ≤
      (Duration.ofMillis t).nanos / s.interval.nanos + 1 := by
  refine length_filter_le_of_slots (Duration.nanos_pos hi) fun k c hc => ?_
  obtain ⟨gas, hask⟩ := PollTrace.exists_asks hc
  exact slot_le_start hi hask

/-- **How far the queries of a poll are apart**, whatever the ledger replies and however long it
takes. Two queries in a row are an interval apart exactly if the timer of the second one's slot goes
off an interval behind the first one, which in whole milliseconds means that the first one is made
at its slot, or if the answer to the first one takes at least an interval; behind a query that is
made too late and answered sooner, the next one comes too early. But no query is made before its
slot, so up to any instant there are no more queries than slots. -/
theorem observe_spacing (ledger : Ledger) (m : Message) {interval : Duration}
    (hi : interval ≠ .zero) (deadline : Duration) (horizon : Nat) :
    let schedule := Schedule.within interval deadline
    let poll := observe ledger m schedule horizon
    (∀ k gas gas' a b, poll.Asks k gas a → poll.Asks (k + 1) gas' b →
      (Duration.ofMillis a + interval ≤ .ofMillis b ↔
        Duration.ofMillis a + interval ≤ .ofMillis (schedule.slot (k + 1)).millisUp ∨
        ∃ t, Prompts ledger m poll t (k + 1) ∧ Duration.ofMillis a + interval ≤ .ofMillis t) ∧
      ∀ i, interval = .ofMillis i →
        (a + i ≤ b ↔ a = k * i ∨ ∃ t, Prompts ledger m poll t (k + 1) ∧ a + i ≤ t)) ∧
    (∀ k gas a, poll.Asks k gas a → schedule.slot k ≤ .ofMillis a) ∧
    ∀ t, (poll.queriesUpTo t).length ≤ (Duration.ofMillis t).nanos / interval.nanos + 1 := by
  intro schedule poll
  refine ⟨?distance, ?notBefore, ?count⟩
  case distance =>
    intro k gas gas' a b ha hb
    have hapart := le_next_start_iff (s := schedule) (a := a) hi hb
    refine ⟨hapart, ?_⟩
    rintro i rfl
    rw [next_slot_iff_of_whole (s := schedule) rfl (slot_le_start (s := schedule) hi ha)] at hapart
    have hinterval : schedule.interval = .ofMillis i := rfl
    simpa only [hinterval, ← Duration.ofMillis_add, Duration.ofMillis_le_iff] using hapart
  case notBefore =>
    intro k gas a ha
    exact slot_le_start (s := schedule) hi ha
  case count => exact length_queriesUpTo_le (s := schedule) hi

/-! ### Queries in a burst -/

/-- A ledger that takes two and a half seconds for the estimate and nothing for its other answers,
of which the second one is positive. -/
def slowEstimate : Ledger where
  estimate _ _ := .answer 2500 (.ok 100000)
  check _ _ k _ := .answer 0 (.ok (k == 2))
  finalityTime _ _ := .answer 0 (.ok none)
  submit _ _ _ := .silence

/-- Every second for up to ten, the first two queries on that ledger are made at one instant. -/
theorem asks_slowEstimate :
    let poll := observe slowEstimate default (.within (.ofMillis 1000) (.ofMillis 10000)) 20000
    poll.Asks 0 150000 2500 ∧ poll.Asks 1 150000 2500 := by
  intro poll
  have hi : Duration.ofMillis 1000 ≠ .zero := by decide
  have hdz := deadline_ne_zero 1000 (show 0 < 10000 by decide)
  have hin : (Schedule.within (.ofMillis 1000) (.ofMillis 10000)).InTime 2500 :=
    timely_iff.mpr fun _ => by decide
  have hplanned : Planned 10000 ((0 + 1) * 1000) := by simp [Planned, Clock.limit]
  have hcost : (slowEstimate.estimate default 0).Arrives 0 2500 (.ok 100000) := ⟨2500, rfl, rfl⟩
  have hanswer : (slowEstimate.check default 150000 1 2500).Arrives 2500 2500 (.ok false) :=
    ⟨0, rfl, rfl⟩
  have hspared : ¬ (slowEstimate.finalityTime default 2500).Kills 2500 1000 := by
    rintro ⟨_, hdeath, -⟩
    cases hdeath
  have hfirst : poll.Asks 0 150000 2500 :=
    (observe_asks_zero_iff hi hdz).mpr ⟨100000, hcost, hin, by decide, by decide⟩
  refine ⟨hfirst, (observe_asks_succ_iff hi hdz).mpr ⟨2500, 2500, hfirst, ?_, by decide⟩⟩
  exact continues_ofMillis_iff.mpr
    ⟨hanswer, fun _ => by decide, hplanned, fun _ => hspared, by decide, by decide⟩

/-- The answer to the first of these queries came within an interval, and up to that instant there
are no more than three of them. -/
theorem observe_spacing_slowEstimate :
    Duration.ofMillis 1000 ≠ .zero ∧
      let poll := observe slowEstimate default (.within (.ofMillis 1000) (.ofMillis 10000)) 20000
      (∀ t, Prompts slowEstimate default poll t 1 → t < 2500 + 1000) ∧
        (poll.queriesUpTo 2500).length ≤ 3 := by
  have hi : Duration.ofMillis 1000 ≠ .zero := by decide
  refine ⟨hi, ?_⟩
  intro poll
  obtain ⟨hfirst, hsecond⟩ := asks_slowEstimate
  obtain ⟨hdistance, -, hcount⟩ := observe_spacing slowEstimate default hi (.ofMillis 10000) 20000
  refine ⟨fun t hprompts => ?_, hcount 2500⟩
  refine Nat.lt_of_not_le fun hle => ?_
  have hapart := (hdistance 0 150000 150000 2500 2500 hfirst hsecond).2 1000 rfl
  exact absurd (hapart.mpr (Or.inr ⟨t, hprompts, hle⟩)) (by decide)

/-- **Queries can follow each other at once**, so it does not hold of every poll that two of them
are an interval apart. Here the estimate comes when two further slots have passed; the first query
is made behind it, and with its negative answer the second one is made at the same instant. -/
theorem asks_in_burst :
    ¬ ∀ (ledger : Ledger) (m : Message) (interval deadline : Duration) (horizon k : Nat)
        (gas gas' : UInt64) (a b : Nat), interval ≠ .zero →
      (observe ledger m (.within interval deadline) horizon).Asks k gas a →
      (observe ledger m (.within interval deadline) horizon).Asks (k + 1) gas' b →
      Duration.ofMillis a + interval ≤ .ofMillis b := by
  intro hspaced
  obtain ⟨hfirst, hsecond⟩ := asks_slowEstimate
  have hfar := hspaced slowEstimate default (.ofMillis 1000) (.ofMillis 10000) 20000 0 150000 150000
    2500 2500 (by decide) hfirst hsecond
  exact absurd hfar (by decide)

end Poll

end MessageRelay
