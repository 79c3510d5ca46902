import MessageRelay.Proofs.Poll.Round

/-!
# The queries of a poll

A poll makes a query, waits for the answer, and makes another one if the answer is negative and
comes in time. What decides whether an answer comes in time is when it *arrives*
(`MessageRelay.Reply.Arrives`): `MessageRelay.Reply.await_eq_answered_iff` says that a wait ends
with an answer if the answer arrives no later than the cut-off.

A query is *due* (`MessageRelay.Poll.Due`) when the poll has come to it in time, and the poll
*continues* behind it (`MessageRelay.Poll.Continues`) when the answer is negative and the next slot
is planned. `MessageRelay.Poll.asks_succ` says what a poll asks from a query that is due on: behind
that query it asks what it asks from the next slot on, if it continues, and nothing otherwise.
-/

namespace MessageRelay

/-! ### Answers and when they come -/

namespace Reply

variable {α : Type}

/-- The reply is an answer, and to a call made at `start` it comes at `stop`. -/
def Arrives (reply : Reply α) (start stop : Nat) (result : Except LedgerError α) : Prop :=
  ∃ delay, reply = .answer delay result ∧ stop = start + delay

/-- The reply kills the caller before the caller gives up waiting. -/
def Kills (reply : Reply α) (start cut : Nat) : Prop :=
  ∃ delay, reply = .death delay ∧ start + delay ≤ max cut start

variable {reply : Reply α} {start stop horizon : Nat} {cut : Option Nat}
  {result : Except LedgerError α}

theorem Arrives.unique {stop' : Nat} {result' : Except LedgerError α}
    (h : reply.Arrives start stop result) (h' : reply.Arrives start stop' result') :
    stop = stop' ∧ result = result' := by
  obtain ⟨delay, rfl, rfl⟩ := h
  obtain ⟨delay', heq, rfl⟩ := h'
  obtain ⟨rfl, rfl⟩ := Reply.answer.inj heq
  exact ⟨rfl, rfl⟩

theorem outcome_eq_answered_iff :
    reply.outcome start cut = .answered stop result ↔
      reply.Arrives start stop result ∧ ∀ c, cut = some c → stop ≤ max c start := by
  constructor
  · intro h
    cases reply with
    | answer delay result' =>
      cases cut with
      | none =>
        obtain ⟨rfl, rfl⟩ := Awaited.answered.inj h
        exact ⟨⟨delay, rfl, rfl⟩, fun c => nofun⟩
      | some c =>
        by_cases hc : start + delay ≤ max c start
        · simp only [outcome, if_pos hc] at h
          obtain ⟨rfl, rfl⟩ := Awaited.answered.inj h
          exact ⟨⟨delay, rfl, rfl⟩, fun _ he => Option.some.inj he ▸ hc⟩
        · simp only [outcome, if_neg hc, reduceCtorEq] at h
    | silence => cases cut <;> cases h
    | death delay =>
      cases cut with
      | none => cases h
      | some c =>
        by_cases hc : start + delay ≤ max c start
        · simp only [outcome, if_pos hc, reduceCtorEq] at h
        · simp only [outcome, if_neg hc, reduceCtorEq] at h
  · rintro ⟨⟨delay, rfl, rfl⟩, hcut⟩
    cases cut with
    | none => rfl
    | some c => simp only [outcome, if_pos (hcut c rfl)]

/-- **A wait ends with an answer** if the answer comes no later than the cut-off. The observer sees
that if it lies before the horizon. -/
theorem await_eq_answered_iff :
    reply.await start cut horizon = .answered stop result ↔
      reply.Arrives start stop result ∧ (∀ c, cut = some c → stop ≤ max c start) ∧
        stop < horizon := by
  rw [await_eq, ← and_assoc, ← outcome_eq_answered_iff]
  constructor
  · intro h
    split at h
    next hseen =>
      rw [h] at hseen
      exact ⟨h, by simpa [Awaited.instant?] using hseen⟩
    next => cases h
  · rintro ⟨h, hlt⟩
    rw [h, if_pos (by simpa [Awaited.instant?] using hlt)]

/-- A wait with a cut-off ends. -/
theorem exists_instant_outcome (reply : Reply α) (start c : Nat) :
    ∃ t, (reply.outcome start (some c)).instant? = some t := by
  cases reply with
  | answer delay | death delay =>
    by_cases hc : start + delay ≤ max c start <;> simp [outcome, Awaited.instant?, hc]
  | silence => simp [outcome, Awaited.instant?]

/-- An observer who watches beyond the cut-off sees how the wait ends. -/
theorem await_eq_outcome {c : Nat} (hlt : max c start < horizon) :
    reply.await start (some c) horizon = reply.outcome start (some c) := by
  obtain ⟨t, ht⟩ := exists_instant_outcome reply start c
  have hle : t ≤ max c start := (outcome_bounds ht).2 c rfl
  have hseen : t < horizon := by omega
  rw [await_eq, ht, Option.any_some, if_pos (decide_eq_true hseen)]

/-- A wait with a cut-off lets the caller go on unless the reply kills it. -/
theorem await_goes_on_iff {c : Nat} (hlt : max c start < horizon) :
    ((∃ t, reply.await start (some c) horizon = .cutOff t) ∨
        ∃ t result, reply.await start (some c) horizon = .answered t result) ↔
      ¬ reply.Kills start c := by
  rw [await_eq_outcome hlt]
  cases reply with
  | answer delay result =>
    refine iff_of_true ?_ fun ⟨_, h, _⟩ => nomatch h
    by_cases hc : start + delay ≤ max c start
    · exact Or.inr ⟨_, result, if_pos hc⟩
    · exact Or.inl ⟨_, if_neg hc⟩
  | silence => exact iff_of_true (Or.inl ⟨_, rfl⟩) fun ⟨_, h, _⟩ => nomatch h
  | death delay =>
    by_cases hc : start + delay ≤ max c start
    · refine iff_of_false ?_ fun hlives => hlives ⟨delay, rfl, hc⟩
      simp only [outcome, if_pos hc, reduceCtorEq, exists_false, or_self, not_false_eq_true]
    · refine iff_of_true (Or.inl ⟨_, if_neg hc⟩) ?_
      rintro ⟨delay', h, hle⟩
      obtain rfl := Reply.death.inj h
      exact hc hle

end Reply

/-! ### Slots and the deadline -/

namespace Schedule

/-- An instant that is not behind the one at which the timer of the deadline goes off. -/
def InTime (s : Schedule) (t : Nat) : Prop :=
  ∀ stop, s.cutOff = some stop → t ≤ stop

theorem cutOff_of_deadline {s : Schedule} {deadline : Duration} (h : s.deadline = some deadline) :
    s.cutOff = some deadline.millisUp :=
  congrArg (Option.map Duration.millisUp) h

/-- The `k`-th slot, from zero on. -/
def slot (s : Schedule) (k : Nat) : Duration :=
  ⟨k * s.interval.nanos⟩

@[simp] theorem slot_zero (s : Schedule) : s.slot 0 = .zero :=
  Duration.ext (Nat.zero_mul _)

@[simp] theorem slot_one (s : Schedule) : s.slot 1 = s.interval :=
  Duration.ext (Nat.one_mul _)

/-- Behind each slot lies the next one. -/
theorem slot_add_interval (s : Schedule) (k : Nat) : s.slot k + s.interval = s.slot (k + 1) :=
  Duration.ext (Nat.succ_mul k _).symm

/-- The slots behind the next one are the slots behind the present one. -/
theorem add_interval_add_slot (s : Schedule) (start : Duration) (k : Nat) :
    start + s.interval + s.slot k = start + s.slot (k + 1) := by
  refine Duration.ext ?_
  rw [← slot_add_interval]
  simp only [Duration.nanos_add]
  omega

theorem nextSlot?_eq_some_iff {s : Schedule} {slot next : Duration} :
    s.nextSlot? slot = some next ↔ next = slot + s.interval ∧ s.plans next := by
  unfold nextSlot?
  grind

/-- A slot that is planned lies before the deadline. -/
theorem lt_of_plans {s : Schedule} {slot deadline : Duration} (hd : s.deadline = some deadline)
    (h : s.plans slot) : slot < deadline := by
  simpa [plans, hd] using h

/-- Its timer goes off before that of the deadline, or just then. -/
theorem inTime_of_plans {s : Schedule} {slot : Duration} (h : s.plans slot) :
    s.InTime slot.millisUp := by
  intro stop hstop
  obtain ⟨deadline, hd, rfl⟩ := Option.map_eq_some_iff.mp hstop
  exact Duration.millisUp_mono (Nat.le_of_lt (lt_of_plans hd h))

/-- Up to a call that is made in time, a wait until the deadline is a wait for an answer in time. -/
theorem inTime_iff_of_start {s : Schedule} {start t : Nat} (hstart : s.InTime start) :
    (∀ stop, s.cutOff = some stop → t ≤ max stop start) ↔ s.InTime t := by
  refine forall_congr' fun stop => imp_congr_right fun hd => ?_
  have hle : start ≤ stop := hstart stop hd
  rw [Nat.max_eq_left hle]

end Schedule

/-! ### The queries of a poll -/

namespace PollTrace

/-- The finality queries among the calls, in order. -/
def queries (t : PollTrace) : List LedgerCall :=
  t.calls.filter LedgerCall.isCheck

/-- The `k`-th query, from zero on, has the limit `gas` and is made at `start`. -/
def Asks (t : PollTrace) (k : Nat) (gas : UInt64) (start : Nat) : Prop :=
  ∃ answer, t.queries[k]? = some ⟨.check gas, start, answer⟩

theorem Asks.unique {t : PollTrace} {k : Nat} {gas gas' : UInt64} {start start' : Nat}
    (h : t.Asks k gas start) (h' : t.Asks k gas' start') : gas = gas' ∧ start = start' := by
  obtain ⟨answer, h⟩ := h
  obtain ⟨answer', h'⟩ := h'
  rw [h] at h'
  cases h'
  exact ⟨rfl, rfl⟩

@[simp] theorem queries_ended (t : Nat) (ending : PollEnding) : (ended t ending).queries = [] := rfl

theorem queries_afterCall {c : LedgerCall} (hc : c.isCheck = false) (t : PollTrace) :
    (t.afterCall c).queries = t.queries := by
  simp [queries, afterCall, hc]

end PollTrace

namespace Poll

theorem Round.queries_before (r : Round) (t : PollTrace) :
    (r.before t).queries = r.calls.filter LedgerCall.isCheck ++ t.queries := by
  simp [PollTrace.queries, before]

/-- A query is due: the poll has come to it, in time and before the horizon. -/
structure Due (s : Schedule) (horizon attempt : Nat) (slot : Duration) (now : Nat) : Prop where
  /-- There is time between two slots. -/
  interval : s.interval ≠ .zero
  /-- The query can be counted. -/
  counted : attempt < UInt32.size
  /-- Its slot has come. -/
  reached : slot.millisUp ≤ now
  /-- The deadline has not passed. -/
  timely : s.InTime now
  /-- The query is seen. -/
  seen : now < horizon

/-- Behind the query that is planned for `slot` and made at `now` the poll continues: the answer at
`t` is negative and another query follows. -/
structure Continues (ledger : Ledger) (m : Message) (s : Schedule) (horizon : Nat) (gas : UInt64)
    (attempt : Nat) (slot : Duration) (now t : Nat) : Prop where
  /-- The answer is negative. -/
  negative : (ledger.check m gas attempt now).Arrives now t (.ok false)
  /-- It comes in time. -/
  timely : s.InTime t
  /-- Another slot is planned. -/
  planned : s.plans (slot + s.interval)
  /-- The look-up behind the first answer does not end the task. -/
  spared : attempt = 1 → ¬ (ledger.finalityTime m t).Kills t (slot + s.interval).millisUp
  /-- The next query can be counted. -/
  counted : attempt + 1 < UInt32.size
  /-- It is seen. -/
  seen : max (slot + s.interval).millisUp t < horizon

variable {ledger : Ledger} {m : Message} {s : Schedule} {horizon : Nat} {gas : UInt64}
  {attempt : Nat} {slot : Duration} {now : Nat}

theorem Due.slot_lt (hdue : Due s horizon attempt slot now) : slot.millisUp < horizon :=
  Nat.lt_of_le_of_lt hdue.reached hdue.seen

/-- The next query is due when its slot has come and the answer is there. -/
theorem Continues.due {t : Nat} (hi : s.interval ≠ .zero)
    (h : Continues ledger m s horizon gas attempt slot now t) :
    Due s horizon (attempt + 1) (slot + s.interval) (max (slot + s.interval).millisUp t) := by
  refine ⟨hi, h.counted, Nat.le_max_left _ _, fun stop hd => ?_, h.seen⟩
  exact Nat.max_le.mpr ⟨Schedule.inTime_of_plans h.planned stop hd, h.timely stop hd⟩

/-- Waiting for the answer to a query that is due. -/
theorem Due.await_iff (hdue : Due s horizon attempt slot now) {t : Nat}
    {result : Except LedgerError Bool} :
    (ledger.check m gas attempt now).await now s.cutOff horizon = .answered t result ↔
      (ledger.check m gas attempt now).Arrives now t result ∧ s.InTime t ∧ t < horizon := by
  rw [Reply.await_eq_answered_iff, Schedule.inTime_iff_of_start hdue.timely]

/-! ### One round and the queries behind it -/

theorem pause_queries (t : Nat) :
    (pause ledger m s horizon attempt slot t).1.filter LedgerCall.isCheck = [] := by
  unfold pause
  repeat' split
  all_goals rfl

/-- A pause that leads to another query. -/
theorem pause_another_iff {t : Nat} {slot' : Duration} {now' : Nat} (hnow' : now' < horizon) :
    (pause ledger m s horizon attempt slot t).2 = .another slot' now' ↔
      slot' = slot + s.interval ∧ now' = max slot'.millisUp t ∧ s.plans (slot + s.interval) ∧
        (attempt = 1 → ¬ (ledger.finalityTime m t).Kills t (slot + s.interval).millisUp) := by
  cases hn : s.nextSlot? slot with
  | none =>
    have hnot : ¬ s.plans (slot + s.interval) := fun hplan =>
      nomatch hn.symm.trans (Schedule.nextSlot?_eq_some_iff.mpr ⟨rfl, hplan⟩)
    cases hd : s.cutOff with
    | none => simp [pause_of_no_deadline hn hd, hnot]
    | some stop => simp [pause_of_deadline hn hd, hnot]
  | some next =>
    obtain ⟨rfl, hplan⟩ := Schedule.nextSlot?_eq_some_iff.mp hn
    by_cases hone : attempt = 1
    · subst hone
      have hgoes : (pause ledger m s horizon 1 slot t).2 = .another slot' now' ↔
          (slot + s.interval = slot' ∧ max (slot + s.interval).millisUp t = now') ∧
            ((∃ t', (ledger.finalityTime m t).await t (some (slot + s.interval).millisUp) horizon =
                .cutOff t') ∨
              ∃ t' result, (ledger.finalityTime m t).await t (some (slot + s.interval).millisUp)
                horizon = .answered t' result) := by
        rw [pause_of_first hn]
        cases (ledger.finalityTime m t).await t (some (slot + s.interval).millisUp) horizon <;> simp
      rw [hgoes]
      constructor
      · rintro ⟨⟨rfl, rfl⟩, hgo⟩
        exact ⟨rfl, rfl, hplan, fun _ => (Reply.await_goes_on_iff hnow').mp hgo⟩
      · rintro ⟨rfl, rfl, -, hspared⟩
        exact ⟨⟨rfl, rfl⟩, (Reply.await_goes_on_iff hnow').mpr (hspared rfl)⟩
    · rw [pause_of_later hn hone]
      simp only [Sequel.another.injEq, hone, hplan, false_imp_iff, and_true]
      grind

variable (ledger m s horizon gas attempt slot now) in
theorem round_queries : ∃ answer,
    (round ledger m s horizon gas attempt slot now).calls.filter LedgerCall.isCheck =
      [⟨.check gas, now, answer⟩] := by
  cases ha : (ledger.check m gas attempt now).await now s.cutOff horizon with
  | pending | died t | cutOff t =>
    simp only [round, ha]
    exact ⟨none, rfl⟩
  | answered t result =>
    rcases result with e | (_ | _)
    · simp only [round, ha]
      exact ⟨_, rfl⟩
    · rw [round_of_negative ha, List.filter_cons_of_pos rfl, pause_queries]
      exact ⟨_, rfl⟩
    · simp only [round, ha]
      exact ⟨_, rfl⟩

/-- A round adds one query. -/
theorem length_queries_before (rest : PollTrace) :
    ((round ledger m s horizon gas attempt slot now).before rest).queries.length =
      rest.queries.length + 1 := by
  obtain ⟨answer, hquery⟩ := round_queries ledger m s horizon gas attempt slot now
  rw [Round.queries_before, hquery, List.length_append, List.length_singleton, Nat.add_comm]

/-- A query that is due is made, and the poll does what follows its round. -/
theorem attempts_of_due (hdue : Due s horizon attempt slot now) :
    attempts ledger m s horizon gas attempt slot now =
      match (round ledger m s horizon gas attempt slot now).sequel with
      | .last ending =>
        (round ledger m s horizon gas attempt slot now).before ⟨[], [], ending⟩
      | .another slot' now' =>
        (round ledger m s horizon gas attempt slot now).before
          (attempts ledger m s horizon gas (attempt + 1) slot' now') :=
  attempts_eq_round hdue.seen hdue.slot_lt hdue.interval hdue.counted

/-- A round that leads to another query: its answer is negative, and the pause goes on. -/
theorem round_another_iff {slot' : Duration} {now' : Nat} :
    (round ledger m s horizon gas attempt slot now).sequel = .another slot' now' ↔
      ∃ t, (ledger.check m gas attempt now).await now s.cutOff horizon =
          .answered t (.ok false) ∧
        (pause ledger m s horizon attempt slot t).2 = .another slot' now' := by
  cases ha : (ledger.check m gas attempt now).await now s.cutOff horizon with
  | pending | died t | cutOff t => simp [round, ha]
  | answered t result =>
    rcases result with e | (_ | _)
    · simp [round, ha]
    · simp [round_of_negative ha]
    · simp [round, ha]

/-- Where a poll asks, there is still something to see and to count. -/
theorem seen_of_asks {k : Nat} {gas' : UInt64} {start : Nat}
    (h : (attempts ledger m s horizon gas attempt slot now).Asks k gas' start) :
    now < horizon ∧ attempt < UInt32.size := by
  obtain ⟨answer, hask⟩ := h
  rw [attempts] at hask
  split at hask
  next hguard =>
    refine ⟨hguard.1, Nat.lt_of_not_le fun hspent => ?_⟩
    rw [if_pos hspent, PollTrace.queries_ended] at hask
    cases hask
  next => cases hask

variable (ledger m gas) in
/-- **The queries of a poll** from one that is due on: that one, and what the rest of the poll asks
if there is a rest. -/
theorem attempts_queries (hdue : Due s horizon attempt slot now) : ∃ answer,
    (attempts ledger m s horizon gas attempt slot now).queries =
      ⟨.check gas, now, answer⟩ ::
        match (round ledger m s horizon gas attempt slot now).sequel with
        | .last _ => []
        | .another slot' now' =>
          (attempts ledger m s horizon gas (attempt + 1) slot' now').queries := by
  obtain ⟨answer, hquery⟩ := round_queries ledger m s horizon gas attempt slot now
  refine ⟨answer, ?_⟩
  rw [attempts_of_due hdue]
  cases (round ledger m s horizon gas attempt slot now).sequel with
  | last ending => rw [Round.queries_before, hquery]; rfl
  | another slot' now' => rw [Round.queries_before, hquery]; rfl

/-- A poll that continues goes on to the next slot. -/
theorem sequel_of_continues (hdue : Due s horizon attempt slot now) {t : Nat}
    (hcont : Continues ledger m s horizon gas attempt slot now t) :
    (round ledger m s horizon gas attempt slot now).sequel =
      .another (slot + s.interval) (max (slot + s.interval).millisUp t) := by
  have ht : t < horizon := Nat.lt_of_le_of_lt (Nat.le_max_right _ _) hcont.seen
  exact round_another_iff.mpr ⟨t, hdue.await_iff.mpr ⟨hcont.negative, hcont.timely, ht⟩,
    (pause_another_iff hcont.seen).mpr ⟨rfl, rfl, hcont.planned, hcont.spared⟩⟩

theorem asks_zero (hdue : Due s horizon attempt slot now) {gas' : UInt64} {start : Nat} :
    (attempts ledger m s horizon gas attempt slot now).Asks 0 gas' start ↔
      gas' = gas ∧ start = now := by
  obtain ⟨answer, hqueries⟩ := attempts_queries ledger m gas hdue
  simp only [PollTrace.Asks, hqueries]
  grind

/-- **Behind a query that is due** the poll asks what it asks from the next slot on, if it
continues. -/
theorem asks_succ (hdue : Due s horizon attempt slot now) {k : Nat} {gas' : UInt64} {start : Nat} :
    (attempts ledger m s horizon gas attempt slot now).Asks (k + 1) gas' start ↔
      ∃ t, Continues ledger m s horizon gas attempt slot now t ∧
        (attempts ledger m s horizon gas (attempt + 1) (slot + s.interval)
          (max (slot + s.interval).millisUp t)).Asks k gas' start := by
  obtain ⟨answer, hqueries⟩ := attempts_queries ledger m gas hdue
  constructor
  · rintro ⟨answer', hask⟩
    rw [hqueries, List.getElem?_cons_succ] at hask
    cases hseq : (round ledger m s horizon gas attempt slot now).sequel with
    | last ending =>
      rw [hseq] at hask
      exact nomatch hask
    | another slot' now' =>
      rw [hseq] at hask
      -- a query behind this one shows that the next one is made
      have hmade : now' < horizon ∧ attempt + 1 < UInt32.size := seen_of_asks ⟨answer', hask⟩
      obtain ⟨t, ha, hp⟩ := round_another_iff.mp hseq
      obtain ⟨harr, hin, -⟩ := hdue.await_iff.mp ha
      obtain ⟨rfl, rfl, hplan, hspared⟩ := (pause_another_iff hmade.1).mp hp
      exact ⟨t, ⟨harr, hin, hplan, hspared, hmade.2, hmade.1⟩, answer', hask⟩
  · rintro ⟨t, hcont, answer', hask⟩
    refine ⟨answer', ?_⟩
    rw [hqueries, sequel_of_continues hdue hcont, List.getElem?_cons_succ]
    exact hask

end Poll

end MessageRelay
