import MessageRelay.Proofs.Poll.Queries

/-!
# The schedule of a poll

The slots of a poll lie at the multiples of its interval, whatever the ledger does. A query is made
at its slot, or behind the answer to the query before it if that answer is late. So a slow answer
delays the query behind it but never the slots behind that one, and the look-up of the finality time
delays nothing.

`MessageRelay.Poll.asks_succ_iff` says this of the `k`-th query behind the present one, by induction
on `k` over the rounds, and `MessageRelay.Poll.attempts_concluded` that the poll ends with the first
answer that is not negative. From the estimate on, both are said of whole polls, and together they
are the schedule (`MessageRelay.Poll.KeepsSchedule`), which every poll keeps
(`MessageRelay.Poll.observe_keepsSchedule`).
-/

namespace MessageRelay

/-! ### Schedules in whole milliseconds -/

namespace Schedule

theorem deadline_ofMillis (interval : Duration) (ms : Nat) :
    (within interval (.ofMillis ms)).deadline =
      if ms < Clock.limit then some (.ofMillis ms) else none := by
  simp only [within, Clock.instant?, Duration.ofMillis_lt_iff]

theorem cutOff_ofMillis (interval : Duration) (ms : Nat) :
    (within interval (.ofMillis ms)).cutOff = if ms < Clock.limit then some ms else none := by
  rw [cutOff, deadline_ofMillis]
  split <;> simp

theorem slot_ofMillis (ms : Nat) (deadline : Duration) (k : Nat) :
    (within (.ofMillis ms) deadline).slot k = .ofMillis (k * ms) :=
  Duration.ext (Nat.mul_left_comm _ _ _)

end Schedule

namespace Poll

variable {ledger : Ledger} {m : Message} {s : Schedule} {horizon : Nat} {gas : UInt64}
  {attempt : Nat} {slot : Duration} {now : Nat}

/-! ### The query behind the `k`-th one -/

/-- All queries have the same limit. -/
theorem gas_of_asks (hdue : Due s horizon attempt slot now) {k : Nat} {gas' : UInt64} {start : Nat}
    (h : (attempts ledger m s horizon gas attempt slot now).Asks k gas' start) : gas' = gas := by
  induction k generalizing attempt slot now with
  | zero => exact ((asks_zero hdue).mp h).1
  | succ k ih =>
    obtain ⟨t, hcont, hnext⟩ := (asks_succ hdue).mp h
    exact ih (hcont.due hdue.interval) hnext

/-- **The slots do not drift**: whatever happened before, the query behind the `k`-th one belongs to
the slot that lies `k + 1` intervals behind the present one. It is made when its slot has come and
the answer to the `k`-th query is there. -/
theorem asks_succ_iff (hdue : Due s horizon attempt slot now) {k : Nat} {gas' : UInt64}
    {start : Nat} :
    (attempts ledger m s horizon gas attempt slot now).Asks (k + 1) gas' start ↔
      ∃ a t, (attempts ledger m s horizon gas attempt slot now).Asks k gas' a ∧
        Continues ledger m s horizon gas (attempt + k) (slot + s.slot k) a t ∧
        start = max (slot + s.slot (k + 1)).millisUp t := by
  induction k generalizing attempt slot now with
  | zero =>
    have hfirst : slot + s.slot 0 = slot := Duration.ext (by simp)
    rw [asks_succ hdue, hfirst, Nat.add_zero, Nat.zero_add, Schedule.slot_one]
    constructor
    · rintro ⟨t, hcont, hnext⟩
      obtain ⟨hgas, hstart⟩ := (asks_zero (hcont.due hdue.interval)).mp hnext
      exact ⟨now, t, (asks_zero hdue).mpr ⟨hgas, rfl⟩, hcont, hstart⟩
    · rintro ⟨a, t, hask, hcont, hstart⟩
      obtain ⟨hgas, rfl⟩ := (asks_zero hdue).mp hask
      exact ⟨t, hcont, (asks_zero (hcont.due hdue.interval)).mpr ⟨hgas, hstart⟩⟩
  | succ k ih =>
    have hattempt : attempt + 1 + k = attempt + (k + 1) := by omega
    rw [asks_succ hdue]
    constructor
    · rintro ⟨t, hcont, hnext⟩
      obtain ⟨a, t', hask, hcont', hstart⟩ := (ih (hcont.due hdue.interval)).mp hnext
      rw [hattempt, s.add_interval_add_slot] at hcont'
      rw [s.add_interval_add_slot] at hstart
      exact ⟨a, t', (asks_succ hdue).mpr ⟨t, hcont, hask⟩, hcont', hstart⟩
    · rintro ⟨a, t', hask, hcont', hstart⟩
      obtain ⟨t, hcont, hnext⟩ := (asks_succ hdue).mp hask
      refine ⟨t, hcont, (ih (hcont.due hdue.interval)).mpr ⟨a, t', hnext, ?_, ?_⟩⟩
      · rw [hattempt, s.add_interval_add_slot]
        exact hcont'
      · rw [s.add_interval_add_slot]
        exact hstart

/-! ### The end of a poll -/

/-- What the answer to the `n`-th query makes of the poll, unless the poll goes on. -/
def conclusion? (m : Message) (n t : Nat) : Except LedgerError Bool → Option PollResult
  | .ok true => some (.finalized ⟨m, UInt32.ofNat n, t⟩)
  | .ok false => none
  | .error e => some (.failed (.query (UInt32.ofNat n) e))

variable (slot) in
theorem round_of_conclusion {t : Nat} {result : Except LedgerError Bool} {r : PollResult}
    (ha : (ledger.check m gas attempt now).await now s.cutOff horizon = .answered t result)
    (hr : conclusion? m attempt t result = some r) :
    (round ledger m s horizon gas attempt slot now).calls =
        [.answered (.check gas) now t .finality result] ∧
      (round ledger m s horizon gas attempt slot now).sequel = .last (some (t, .result r)) := by
  rcases result with e | (_ | _)
  · obtain rfl := Option.some.inj hr
    simp only [round, ha, and_self]
  · cases hr
  · obtain rfl := Option.some.inj hr
    simp only [round, ha, and_self]

/-- **The poll ends with the first answer that concludes it**: the answer to the `k`-th query behind
the present one is the last thing the poll asks for. -/
theorem attempts_concluded (hdue : Due s horizon attempt slot now) {k a t : Nat} {gas' : UInt64}
    {result : Except LedgerError Bool} {r : PollResult}
    (hask : (attempts ledger m s horizon gas attempt slot now).Asks k gas' a)
    (harr : (ledger.check m gas (attempt + k) a).Arrives a t result) (hin : s.InTime t)
    (ht : t < horizon) (hr : conclusion? m (attempt + k) t result = some r) :
    (attempts ledger m s horizon gas attempt slot now).ending = some (t, .result r) ∧
      (attempts ledger m s horizon gas attempt slot now).queries.length = k + 1 ∧
      (attempts ledger m s horizon gas attempt slot now).calls.getLast? =
        some (.answered (.check gas) a t .finality result) := by
  induction k generalizing attempt slot now with
  | zero =>
    obtain ⟨-, rfl⟩ := (asks_zero hdue).mp hask
    rw [Nat.add_zero] at harr hr
    obtain ⟨hcalls, hseq⟩ :=
      round_of_conclusion slot (hdue.await_iff.mpr ⟨harr, hin, ht⟩) hr
    rw [attempts_of_due hdue, hseq]
    refine ⟨rfl, length_queries_before _, ?_⟩
    simp [Round.before, hcalls]
  | succ k ih =>
    obtain ⟨t', hcont, hnext⟩ := (asks_succ hdue).mp hask
    have hattempt : attempt + (k + 1) = attempt + 1 + k := by omega
    rw [hattempt] at harr hr
    obtain ⟨hending, hcount, hlast⟩ := ih (hcont.due hdue.interval) hnext harr hr
    rw [attempts_of_due hdue, sequel_of_continues hdue hcont]
    refine ⟨hending, ?_, ?_⟩
    · rw [length_queries_before, hcount]
    · simp [Round.before, List.getLast?_append, hlast]

/-! ### From the estimate on -/

/-- A poll begins with the question what a query costs. -/
theorem exists_estimate (ledger : Ledger) (m : Message) (hi : s.interval ≠ .zero)
    (hd : s.deadline ≠ some .zero) (hhor : 0 < horizon) :
    ∃ call rest, (observe ledger m s horizon).calls = call :: rest ∧ call.kind = .estimate := by
  rw [observe, if_neg (Nat.ne_of_gt hhor), if_neg hi, if_neg hd]
  cases (ledger.estimate m 0).await 0 s.cutOff horizon with
  | pending | died t | cutOff t => exact ⟨_, _, rfl, rfl⟩
  | answered t result => cases result <;> exact ⟨_, _, rfl, rfl⟩

theorem due_first {t : Nat} (hi : s.interval ≠ .zero) (hin : s.InTime t) (ht : t < horizon) :
    Due s horizon 1 .zero t :=
  ⟨hi, by decide, Nat.zero_le t, hin, ht⟩

/-- Waiting for the estimate. -/
theorem estimate_await_iff {t : Nat} {result : Except LedgerError UInt64} :
    (ledger.estimate m 0).await 0 s.cutOff horizon = .answered t result ↔
      (ledger.estimate m 0).Arrives 0 t result ∧ s.InTime t ∧ t < horizon := by
  rw [Reply.await_eq_answered_iff, Schedule.inTime_iff_of_start (fun _ _ => Nat.zero_le _)]

/-- When the estimate is there, the first query is made at once. -/
theorem observe_of_cost (hi : s.interval ≠ .zero) (hd : s.deadline ≠ some .zero) {t : Nat}
    {cost : UInt64} (harr : (ledger.estimate m 0).Arrives 0 t (.ok cost)) (hin : s.InTime t) (ht : t < horizon) :
    observe ledger m s horizon =
      (attempts ledger m s horizon (paddedGas cost) 1 .zero t).afterCall
        (.answered .estimate 0 t .cost (.ok cost)) := by
  have hnz : horizon ≠ 0 := Nat.ne_zero_of_lt ht
  have ha := (estimate_await_iff (s := s)).mpr ⟨harr, hin, ht⟩
  simp only [observe, if_neg hnz, if_neg hi, if_neg hd, ha]

/-- Without an estimate nothing is asked. -/
theorem observe_of_refusal (hi : s.interval ≠ .zero) (hd : s.deadline ≠ some .zero) {t : Nat}
    {e : LedgerError} (harr : (ledger.estimate m 0).Arrives 0 t (.error e)) (hin : s.InTime t)
    (ht : t < horizon) :
    observe ledger m s horizon =
      (PollTrace.ended t (.result (.failed (.estimate e)))).afterCall
        (.answered .estimate 0 t .cost (.error e)) := by
  have hnz : horizon ≠ 0 := Nat.ne_zero_of_lt ht
  have ha := (estimate_await_iff (s := s)).mpr ⟨harr, hin, ht⟩
  simp only [observe, if_neg hnz, if_neg hi, if_neg hd, ha]

/-- Whatever a poll asks, it asks behind the estimate. -/
theorem asks_observe_iff (hi : s.interval ≠ .zero) (hd : s.deadline ≠ some .zero) {k : Nat}
    {gas : UInt64} {start : Nat} :
    (observe ledger m s horizon).Asks k gas start ↔
      ∃ cost t, (ledger.estimate m 0).Arrives 0 t (.ok cost) ∧ s.InTime t ∧ t < horizon ∧
        (attempts ledger m s horizon (paddedGas cost) 1 .zero t).Asks k gas start := by
  constructor
  · rintro ⟨answer, hask⟩
    by_cases hnz : horizon = 0
    · rw [observe, if_pos hnz] at hask
      cases hask
    cases ha : (ledger.estimate m 0).await 0 s.cutOff horizon with
    | pending | died t | cutOff t =>
      simp only [observe, if_neg hnz, if_neg hi, if_neg hd, ha] at hask
      cases hask
    | answered t result =>
      obtain ⟨harr, hin, ht⟩ := estimate_await_iff.mp ha
      cases result with
      | error e =>
        rw [observe_of_refusal hi hd harr hin ht] at hask
        cases hask
      | ok cost =>
        rw [observe_of_cost hi hd harr hin ht, PollTrace.queries_afterCall rfl] at hask
        exact ⟨cost, t, harr, hin, ht, answer, hask⟩
  · rintro ⟨cost, t, harr, hin, ht, answer, hask⟩
    refine ⟨answer, ?_⟩
    rw [observe_of_cost hi hd harr hin ht, PollTrace.queries_afterCall rfl]
    exact hask

theorem observe_asks_zero_iff (hi : s.interval ≠ .zero) (hd : s.deadline ≠ some .zero)
    {gas : UInt64} {start : Nat} :
    (observe ledger m s horizon).Asks 0 gas start ↔
      ∃ cost, (ledger.estimate m 0).Arrives 0 start (.ok cost) ∧ s.InTime start ∧
        start < horizon ∧ gas = paddedGas cost := by
  rw [asks_observe_iff hi hd]
  constructor
  · rintro ⟨cost, t, harr, hin, ht, hask⟩
    obtain ⟨rfl, rfl⟩ := (asks_zero (due_first hi hin ht)).mp hask
    exact ⟨cost, harr, hin, ht, rfl⟩
  · rintro ⟨cost, harr, hin, ht, rfl⟩
    exact ⟨cost, start, harr, hin, ht, (asks_zero (due_first hi hin ht)).mpr ⟨rfl, rfl⟩⟩

theorem observe_asks_succ_iff (hi : s.interval ≠ .zero) (hd : s.deadline ≠ some .zero) {k : Nat}
    {gas : UInt64} {start : Nat} :
    (observe ledger m s horizon).Asks (k + 1) gas start ↔
      ∃ a t, (observe ledger m s horizon).Asks k gas a ∧
        Continues ledger m s horizon gas (k + 1) (s.slot k) a t ∧
        start = max (s.slot (k + 1)).millisUp t := by
  have hattempt : 1 + k = k + 1 := Nat.add_comm 1 k
  have hslot : ∀ d : Duration, .zero + d = d := fun d => Duration.ext (Nat.zero_add _)
  constructor
  · intro h
    obtain ⟨cost, t₀, harr, hin, ht₀, hask⟩ := (asks_observe_iff hi hd).mp h
    have hdue := due_first hi hin ht₀
    obtain rfl := gas_of_asks hdue hask
    obtain ⟨a, t, hbefore, hcont, hstart⟩ := (asks_succ_iff hdue).mp hask
    rw [hattempt, hslot] at hcont
    rw [hslot] at hstart
    exact ⟨a, t, (asks_observe_iff hi hd).mpr ⟨cost, t₀, harr, hin, ht₀, hbefore⟩, hcont, hstart⟩
  · rintro ⟨a, t, hbefore, hcont, hstart⟩
    obtain ⟨cost, t₀, harr, hin, ht₀, hask⟩ := (asks_observe_iff hi hd).mp hbefore
    have hdue := due_first hi hin ht₀
    obtain rfl := gas_of_asks hdue hask
    refine (asks_observe_iff hi hd).mpr ⟨cost, t₀, harr, hin, ht₀, ?_⟩
    refine (asks_succ_iff hdue).mpr ⟨a, t, hask, ?_, ?_⟩
    · rw [hattempt, hslot]
      exact hcont
    · rw [hslot]
      exact hstart

/-- A poll that has come to a query has had a negative answer in time to every query before. -/
theorem negative_of_asks (hi : s.interval ≠ .zero) (hd : s.deadline ≠ some .zero) {k j : Nat}
    {gas : UInt64} {start : Nat} (hask : (observe ledger m s horizon).Asks k gas start)
    (hj : j < k) :
    ∃ a t, (observe ledger m s horizon).Asks j gas a ∧
      (ledger.check m gas (j + 1) a).Arrives a t (.ok false) ∧ s.InTime t := by
  induction k generalizing start with
  | zero => exact absurd hj (Nat.not_lt_zero j)
  | succ k ih =>
    obtain ⟨a, t, hbefore, hcont, -⟩ := (observe_asks_succ_iff hi hd).mp hask
    rcases Nat.lt_succ_iff_lt_or_eq.mp hj with hlt | rfl
    · exact ih hbefore hlt
    · exact ⟨a, t, hbefore, hcont.negative, hcont.timely⟩

/-- The number of a query that is made can be counted. -/
theorem counted_of_asks (hi : s.interval ≠ .zero) (hd : s.deadline ≠ some .zero) {k : Nat}
    {gas : UInt64} {start : Nat} (hask : (observe ledger m s horizon).Asks k gas start) :
    (UInt32.ofNat (k + 1)).toNat = k + 1 := by
  have hlt : k + 1 < UInt32.size := by
    cases k with
    | zero => decide
    | succ k =>
      obtain ⟨a, t, -, hcont, -⟩ := (observe_asks_succ_iff hi hd).mp hask
      exact hcont.counted
  exact UInt32.toNat_ofNat_of_lt' hlt

/-- The poll ends with the first answer that concludes it. -/
theorem observe_concluded (hi : s.interval ≠ .zero) (hd : s.deadline ≠ some .zero) {k a t : Nat}
    {gas : UInt64} {result : Except LedgerError Bool} {r : PollResult}
    (hask : (observe ledger m s horizon).Asks k gas a)
    (harr : (ledger.check m gas (k + 1) a).Arrives a t result) (hin : s.InTime t)
    (ht : t < horizon) (hr : conclusion? m (k + 1) t result = some r) :
    (observe ledger m s horizon).ending = some (t, .result r) ∧
      (observe ledger m s horizon).queries.length = k + 1 ∧
      (observe ledger m s horizon).calls.getLast? =
        some (.answered (.check gas) a t .finality result) := by
  obtain ⟨cost, t₀, hcost, hin₀, ht₀, hrest⟩ := (asks_observe_iff hi hd).mp hask
  have hdue := due_first hi hin₀ ht₀
  obtain rfl := gas_of_asks hdue hrest
  rw [Nat.add_comm] at harr hr
  obtain ⟨hending, hcount, hlast⟩ := attempts_concluded hdue hrest harr hin ht hr
  rw [observe_of_cost hi hd hcost hin₀ ht₀, PollTrace.queries_afterCall rfl]
  refine ⟨hending, hcount, ?_⟩
  simp [PollTrace.afterCall, List.getLast?_cons, hlast]

/-! ### The whole schedule -/

/-- The limit of a query is one and a half times its cost, as far as sixty-four bits hold it. -/
theorem toNat_paddedGas (cost : UInt64) :
    (paddedGas cost).toNat = min (3 * cost.toNat / 2) (UInt64.size - 1) := by
  have hsize : UInt64.size = 18446744073709551616 := rfl
  have hcost : cost.toNat < UInt64.size := cost.toNat_lt
  have hhalf : 3 * cost.toNat / 2 = cost.toNat + cost.toNat / 2 := by omega
  unfold paddedGas
  split
  · rw [UInt64.toNat_add, UInt64.toNat_div]
    simp only [UInt64.reduceToNat]
    omega
  · rw [UInt64.toNat_ofNat']
    omega

/-- At or before the deadline, where a deadline that is no instant is none. -/
def Timely (deadline t : Nat) : Prop :=
  deadline < Clock.limit → t ≤ deadline

/-- A slot before the deadline, or a slot that is an instant where the deadline is none. -/
def Planned (deadline slot : Nat) : Prop :=
  if deadline < Clock.limit then slot < deadline else slot < Clock.limit

/-- **The schedule of a poll.** Queries are counted from zero on: the slot of the `k`-th one lies
`k` intervals behind the start of the poll, and for the ledger it is the `k + 1`-st. -/
structure KeepsSchedule (ledger : Ledger) (m : Message) (interval deadline horizon : Nat)
    (poll : PollTrace) : Prop where
  /-- The first query is made when the estimate arrives. -/
  first : ∀ gas start, poll.Asks 0 gas start ↔
    ∃ cost, (ledger.estimate m 0).Arrives 0 start (.ok cost) ∧ Timely deadline start ∧
      start < horizon ∧ gas = paddedGas cost
  /-- Another query is made if all answers were negative and in time and its slot is planned, and
  only then; but if the look-up behind the first answer kills the task, there is no second query.
  It is made at its slot, or when the answer before it arrives if that is later. -/
  next : ∀ k gas start, k + 2 < UInt32.size →
    (poll.Asks (k + 1) gas start ↔
      (∀ j ≤ k, ∃ a t, poll.Asks j gas a ∧
        (ledger.check m gas (j + 1) a).Arrives a t (.ok false) ∧ Timely deadline t) ∧
      Planned deadline ((k + 1) * interval) ∧
      ∃ a t, poll.Asks k gas a ∧ (ledger.check m gas (k + 1) a).Arrives a t (.ok false) ∧
        (k = 0 → ¬ (ledger.finalityTime m t).Kills t interval) ∧
        start = max ((k + 1) * interval) t ∧ start < horizon)
  /-- Every query has the same limit: one and a half times the estimate. -/
  limit : ∀ k gas start, poll.Asks k gas start →
    ∃ cost t, (ledger.estimate m 0).Arrives 0 t (.ok cost) ∧
      gas.toNat = min (3 * cost.toNat / 2) (UInt64.size - 1)
  /-- The first positive answer finalizes the message, and it is the last the poll asks for. -/
  finalized : ∀ k gas a t, poll.Asks k gas a →
    (ledger.check m gas (k + 1) a).Arrives a t (.ok true) → Timely deadline t → t < horizon →
    (∃ n : UInt32, n.toNat = k + 1 ∧
      poll.ending = some (t, .result (.finalized ⟨m, n, t⟩))) ∧
    poll.queries.length = k + 1 ∧
    poll.calls.getLast? = some (.answered (.check gas) a t .finality (.ok true))
  /-- The first error fails the poll, and it is the last the poll asks for. -/
  failed : ∀ k gas a t e, poll.Asks k gas a →
    (ledger.check m gas (k + 1) a).Arrives a t (.error e) → Timely deadline t → t < horizon →
    (∃ n : UInt32, n.toNat = k + 1 ∧ poll.ending = some (t, .result (.failed (.query n e)))) ∧
    poll.queries.length = k + 1 ∧
    poll.calls.getLast? = some (.answered (.check gas) a t .finality (.error e))
  /-- An error in place of the estimate fails the poll, and nothing else is asked for. -/
  refused : ∀ t e, (ledger.estimate m 0).Arrives 0 t (.error e) → Timely deadline t → t < horizon →
    poll.ending = some (t, .result (.failed (.estimate e))) ∧
    poll.calls = [.answered .estimate 0 t .cost (.error e)]

section

variable {interval deadline : Nat}

theorem timely_iff {t : Nat} :
    (Schedule.within (.ofMillis interval) (.ofMillis deadline)).InTime t ↔ Timely deadline t := by
  simp only [Schedule.InTime, Schedule.cutOff_ofMillis, Timely]
  grind

theorem planned_iff {slot : Nat} :
    (Schedule.within (.ofMillis interval) (.ofMillis deadline)).plans (.ofMillis slot) ↔
      Planned deadline slot := by
  simp only [Schedule.plans, Schedule.deadline_ofMillis, Planned, decide_eq_true_eq]
  split <;> exact Duration.ofMillis_lt_iff

variable (interval) in
theorem deadline_ne_zero (hd : 0 < deadline) :
    (Schedule.within (.ofMillis interval) (.ofMillis deadline)).deadline ≠ some .zero := by
  simp only [Schedule.deadline_ofMillis, ne_eq]
  grind [Duration.ofMillis_eq_zero_iff]

/-- What it takes in whole milliseconds that a poll continues behind its `k`-th query. -/
theorem continues_ofMillis_iff {k a t : Nat} :
    Continues ledger m (.within (.ofMillis interval) (.ofMillis deadline)) horizon gas (k + 1)
        ((Schedule.within (.ofMillis interval) (.ofMillis deadline)).slot k) a t ↔
      (ledger.check m gas (k + 1) a).Arrives a t (.ok false) ∧ Timely deadline t ∧
        Planned deadline ((k + 1) * interval) ∧
        (k = 0 → ¬ (ledger.finalityTime m t).Kills t interval) ∧ k + 2 < UInt32.size ∧
        max ((k + 1) * interval) t < horizon := by
  have hnext :=
    (Schedule.slot_add_interval (.within (.ofMillis interval) (.ofMillis deadline)) k).trans
      (Schedule.slot_ofMillis interval _ (k + 1))
  constructor
  · rintro ⟨hnegative, hin, hplan, hspared, hcount, hseen⟩
    rw [hnext] at hplan hspared hseen
    rw [Duration.millisUp_ofMillis] at hspared hseen
    refine ⟨hnegative, timely_iff.mp hin, planned_iff.mp hplan, ?_, hcount, hseen⟩
    rintro rfl
    simpa using hspared rfl
  · rintro ⟨hnegative, hin, hplan, hspared, hcount, hseen⟩
    refine ⟨hnegative, timely_iff.mpr hin, ?_, fun hone => ?_, hcount, ?_⟩
    · rw [hnext]
      exact planned_iff.mpr hplan
    · obtain rfl : k = 0 := by omega
      rw [hnext, Duration.millisUp_ofMillis]
      simpa using hspared rfl
    · rw [hnext, Duration.millisUp_ofMillis]
      exact hseen

/-- **A poll keeps its schedule**, whatever the ledger replies and however long it takes. -/
theorem observe_keepsSchedule (ledger : Ledger) (m : Message) (hi : 0 < interval)
    (hd : 0 < deadline) (horizon : Nat) :
    KeepsSchedule ledger m interval deadline horizon
      (observe ledger m (.within (.ofMillis interval) (.ofMillis deadline)) horizon) := by
  have hi : Duration.ofMillis interval ≠ .zero :=
    mt Duration.ofMillis_eq_zero_iff.mp (Nat.ne_of_gt hi)
  have hdz := deadline_ne_zero interval hd
  refine ⟨?first, ?next, ?limit, ?finalized, ?failed, ?refused⟩
  case first =>
    intro gas start
    simp only [observe_asks_zero_iff hi hdz, timely_iff]
  case next =>
    intro k gas start hk
    rw [observe_asks_succ_iff hi hdz]
    simp only [Schedule.slot_ofMillis interval _ (k + 1), Duration.millisUp_ofMillis]
    constructor
    · rintro ⟨a, t, hbefore, hcont, rfl⟩
      obtain ⟨hnegative, hin, hplan, hspared, -, hseen⟩ := continues_ofMillis_iff.mp hcont
      refine ⟨fun j hj => ?_, hplan, a, t, hbefore, hnegative, hspared, rfl, hseen⟩
      rcases Nat.lt_or_eq_of_le hj with hlt | rfl
      · obtain ⟨a', t', hask', harr', hin'⟩ := negative_of_asks hi hdz hbefore hlt
        exact ⟨a', t', hask', harr', timely_iff.mp hin'⟩
      · exact ⟨a, t, hbefore, hnegative, hin⟩
    · rintro ⟨hnegative, hplan, a, t, hbefore, harr, hspared, rfl, hseen⟩
      obtain ⟨a', t', hbefore', harr', hin⟩ := hnegative k (Nat.le_refl k)
      obtain ⟨-, rfl⟩ := hbefore.unique hbefore'
      obtain ⟨rfl, -⟩ := harr.unique harr'
      exact ⟨a, t, hbefore, continues_ofMillis_iff.mpr ⟨harr, hin, hplan, hspared, hk, hseen⟩, rfl⟩
  case limit =>
    intro k gas start hask
    obtain ⟨cost, t, harr, hin, ht, hrest⟩ := (asks_observe_iff hi hdz).mp hask
    obtain rfl := gas_of_asks (due_first hi hin ht) hrest
    exact ⟨cost, t, harr, toNat_paddedGas cost⟩
  case finalized =>
    intro k gas a t hask harr hin ht
    obtain ⟨hending, hcount, hlast⟩ :=
      observe_concluded hi hdz hask harr (timely_iff.mpr hin) ht rfl
    exact ⟨⟨_, counted_of_asks hi hdz hask, hending⟩, hcount, hlast⟩
  case failed =>
    intro k gas a t e hask harr hin ht
    obtain ⟨hending, hcount, hlast⟩ :=
      observe_concluded hi hdz hask harr (timely_iff.mpr hin) ht rfl
    exact ⟨⟨_, counted_of_asks hi hdz hask, hending⟩, hcount, hlast⟩
  case refused =>
    intro t e harr hin ht
    rw [observe_of_refusal hi hdz harr (timely_iff.mpr hin) ht]
    exact ⟨rfl, rfl⟩

end

/-- A ledger whose first answer is late: it comes when two further slots have passed. The third
answer is positive. -/
def lateFirst : Ledger where
  estimate _ _ := .answer 0 (.ok 100)
  check _ _ k _ := .answer (if k = 1 then 25 else 0) (.ok (k == 3))
  finalityTime _ _ := .silence
  submit _ _ _ := .silence

/-- Behind a first answer that comes at 25 the second and the third query, planned for 10 and 20,
are made at once, and the message is final at 25. -/
theorem observe_keepsSchedule_lateFirst :
    let poll := observe lateFirst default (.within (.ofMillis 10) (.ofMillis 100)) 200
    (0 < 10 ∧ 0 < 100) ∧ poll.Asks 0 150 0 ∧ poll.Asks 1 150 25 ∧ poll.Asks 2 150 25 ∧
      poll.ending = some (25, .result (.finalized ⟨default, 3, 25⟩)) := by
  have hi : 0 < 10 := by decide
  have hd : 0 < 100 := by decide
  have hkeeps := observe_keepsSchedule lateFirst default hi hd 200
  have hplan : ∀ slot, slot < 100 → Planned 100 slot := fun slot hlt => by
    simpa [Planned, Clock.limit] using hlt
  have htimely : ∀ t, t ≤ 100 → Timely 100 t := fun t hle _ => hle
  have h0 := (hkeeps.first 150 0).mpr ⟨100, ⟨0, rfl, rfl⟩, htimely 0 (by decide), by decide, rfl⟩
  have hanswer0 : (lateFirst.check default 150 1 0).Arrives 0 25 (.ok false) := ⟨25, rfl, rfl⟩
  have hanswer1 : (lateFirst.check default 150 2 25).Arrives 25 25 (.ok false) := ⟨0, rfl, rfl⟩
  have hanswer2 : (lateFirst.check default 150 3 25).Arrives 25 25 (.ok true) := ⟨0, rfl, rfl⟩
  have hspared : ¬ (lateFirst.finalityTime default 25).Kills 25 10 := by
    rintro ⟨_, hdeath, -⟩
    exact nomatch hdeath
  have h1 := (hkeeps.next 0 150 25 (by decide)).mpr ⟨fun j hj => by
      obtain rfl : j = 0 := by omega
      exact ⟨0, 25, h0, hanswer0, htimely 25 (by decide)⟩,
    hplan 10 (by decide), 0, 25, h0, hanswer0, fun _ => hspared, rfl, by decide⟩
  have h2 := (hkeeps.next 1 150 25 (by decide)).mpr ⟨fun j hj => by
      obtain rfl | rfl : j = 0 ∨ j = 1 := by omega
      · exact ⟨0, 25, h0, hanswer0, htimely 25 (by decide)⟩
      · exact ⟨25, 25, h1, hanswer1, htimely 25 (by decide)⟩,
    hplan 20 (by decide), 25, 25, h1, hanswer1, fun _ => hspared, rfl, by decide⟩
  obtain ⟨⟨n, hn, hending⟩, -, -⟩ :=
    hkeeps.finalized 2 150 25 25 h2 hanswer2 (htimely 25 (by decide)) (by decide)
  obtain rfl : n = 3 := UInt32.toNat_inj.mp hn
  exact ⟨⟨hi, hd⟩, h0, h1, h2, hending⟩

end Poll

end MessageRelay
