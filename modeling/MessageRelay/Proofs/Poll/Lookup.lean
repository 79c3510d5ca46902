import MessageRelay.Proofs.Poll.Queries

/-!
# The look-up of the finality time

Behind the first negative answer a poll asks once when the message becomes final. Nothing hangs on
the reply: it is not used, and the wait for it is cut off at the next slot, which is when the poll
goes on in any case. `MessageRelay.Poll.rest_pause` is that argument: whatever the reply is, short
of the death of the task, the poll behind the pause is the one that comes to the next slot.

What an observer sees of a poll apart from its look-up is `MessageRelay.PollTrace.withoutLookups`.
By induction over the rounds it is the same for two ledgers that differ only in what they reply to
the look-up (`MessageRelay.Poll.observe_withoutLookups`). Where the look-up itself stands among the
calls, and when it is over, is `MessageRelay.Poll.LooksUpOnce`.
-/

namespace MessageRelay

/-! ### Waits that end -/

namespace Reply

variable {α : Type} {reply : Reply α} {start t horizon : Nat}

/-- A wait whose end is seen ends as it does for an observer who watches forever. -/
theorem await_eq_outcome_of_seen {cut : Option Nat} (h : reply.await start cut horizon ≠ .pending) :
    reply.await start cut horizon = reply.outcome start cut := by
  rw [await_eq] at h ⊢
  split at h
  next hseen => rw [if_pos hseen]
  next => exact absurd rfl h

/-- The caller dies only of a reply that kills. -/
theorem await_ne_died {cut : Option Nat} (h : ∀ delay, reply ≠ .death delay) :
    reply.await start cut horizon ≠ .died t := by
  intro hdied
  have houtcome := (await_eq_outcome_of_seen (by rw [hdied]; nofun)).symm.trans hdied
  cases reply with
  | death delay => exact h delay rfl
  | silence => cases cut <;> cases houtcome
  | answer delay result =>
    cases cut with
    | none => cases houtcome
    | some c => by_cases hc : start + delay ≤ max c start <;> simp [outcome, hc] at houtcome

/-- A wait that is cut off ends at the cut-off. -/
theorem instant_of_cutOff {c : Nat} (h : reply.await start (some c) horizon = .cutOff t) :
    t = max c start := by
  have houtcome := (await_eq_outcome_of_seen (by rw [h]; nofun)).symm.trans h
  cases reply with
  | silence => exact (Awaited.cutOff.inj houtcome).symm
  | answer delay | death delay =>
    by_cases hc : start + delay ≤ max c start
    · simp [outcome, hc] at houtcome
    · simp only [outcome, if_neg hc, Awaited.cutOff.injEq] at houtcome
      exact houtcome.symm

end Reply

/-! ### A poll apart from its look-up -/

/-- Whether the call is a look-up of the finality time. -/
def LedgerCall.isLookup (c : LedgerCall) : Bool :=
  match c.kind with
  | .finalityTime => true
  | _ => false

/-- A query is no look-up. -/
theorem LedgerCall.isLookup_of_isCheck {c : LedgerCall} (h : c.isCheck = true) :
    c.isLookup = false := by
  obtain ⟨kind, start, answer⟩ := c
  cases kind with
  | check gas => rfl
  | estimate | finalityTime | submit => cases h

/-- The poll without its look-ups. -/
def PollTrace.withoutLookups (t : PollTrace) : PollTrace :=
  { t with calls := t.calls.filter fun c => !c.isLookup }

theorem PollTrace.withoutLookups_afterCall {c : LedgerCall} (hc : c.isLookup = false)
    (t : PollTrace) : (t.afterCall c).withoutLookups = t.withoutLookups.afterCall c := by
  simp [withoutLookups, afterCall, hc]

namespace Poll

theorem Round.withoutLookups_before (r : Round) (t : PollTrace) :
    (r.before t).withoutLookups =
      ⟨(r.calls.filter fun c => !c.isLookup) ++ t.withoutLookups.calls,
        r.events ++ t.withoutLookups.events, t.withoutLookups.ending⟩ := by
  simp [PollTrace.withoutLookups, before]

variable (ledger : Ledger) (m : Message) (s : Schedule) (horizon : Nat)

/-- What a poll does behind a round. -/
def rest (gas : UInt64) (attempt : Nat) : Sequel → PollTrace
  | .last ending => ⟨[], [], ending⟩
  | .another slot now => attempts ledger m s horizon gas (attempt + 1) slot now

variable {ledger m s horizon} {ledger' : Ledger} {gas : UInt64} {attempt : Nat}
  {slot : Duration} {now : Nat}

/-- The loop does one round and then the rest. -/
theorem attempts_eq_before_rest (hnow : now < horizon) (hslot : slot.millisUp < horizon)
    (hi : s.interval ≠ .zero) (ha : attempt < UInt32.size) :
    attempts ledger m s horizon gas attempt slot now =
      (round ledger m s horizon gas attempt slot now).before
        (rest ledger m s horizon gas attempt
          (round ledger m s horizon gas attempt slot now).sequel) := by
  rw [attempts_eq_round hnow hslot hi ha]
  cases (round ledger m s horizon gas attempt slot now).sequel <;> rfl

/-- Beyond the horizon nothing is seen. -/
theorem attempts_of_unseen
    (h : ¬ (now < horizon ∧ slot.millisUp < horizon ∧ s.interval ≠ .zero)) :
    attempts ledger m s horizon gas attempt slot now = PollTrace.waiting := by
  rw [attempts, dif_neg h]

/-- A query that cannot be counted is not made. -/
theorem attempts_of_spent (hnow : now < horizon) (hslot : slot.millisUp < horizon)
    (hi : s.interval ≠ .zero) (ha : UInt32.size ≤ attempt) :
    attempts ledger m s horizon gas attempt slot now = PollTrace.ended now .death := by
  rw [attempts, dif_pos ⟨hnow, hslot, hi⟩, if_pos ha]

/-- **Induction over the rounds of a poll**: what holds of a poll that is not seen or dies for want
of a number, and of every last round, and of a round in front of polls of which it holds, holds of
every poll from any of its queries on. -/
theorem attempts_induction {P : PollTrace → Prop} (hwaiting : P .waiting)
    (hspent : ∀ now, P (.ended now .death))
    (hlast : ∀ {attempt slot now ending},
      (round ledger m s horizon gas attempt slot now).sequel = .last ending →
        P ((round ledger m s horizon gas attempt slot now).before ⟨[], [], ending⟩))
    (hanother : ∀ {attempt slot now slot' now'} {rest : PollTrace},
      (round ledger m s horizon gas attempt slot now).sequel = .another slot' now' → P rest →
        P ((round ledger m s horizon gas attempt slot now).before rest)) :
    P (attempts ledger m s horizon gas attempt slot now) := by
  induction slot using Schedule.slot_induction s horizon generalizing attempt now with
  | step slot ih =>
    by_cases hguard : now < horizon ∧ slot.millisUp < horizon ∧ s.interval ≠ .zero
    · obtain ⟨hnow, hslot, hi⟩ := hguard
      rcases Nat.lt_or_ge attempt UInt32.size with ha | ha
      · rw [attempts_eq_before_rest hnow hslot hi ha]
        have hround := round_sequel ledger m s horizon gas attempt slot now
        cases hseq : (round ledger m s horizon gas attempt slot now).sequel with
        | last ending => exact hlast hseq
        | another slot' now' =>
          rw [hseq] at hround
          obtain ⟨rfl, -⟩ := hround
          exact hanother hseq (ih hslot hi)
      · rw [attempts_of_spent hnow hslot hi ha]
        exact hspent now
    · rw [attempts_of_unseen hguard]
      exact hwaiting

/-- **Behind a pause the poll goes on at the next slot**, whatever the look-up is replied, as long
as the reply does not kill the task. -/
theorem rest_pause {t : Nat} {next : Duration}
    (hlives : ∀ delay, ledger.finalityTime m t ≠ .death delay)
    (hn : s.nextSlot? slot = some next) :
    rest ledger m s horizon gas attempt (pause ledger m s horizon attempt slot t).2 =
      attempts ledger m s horizon gas (attempt + 1) next (max next.millisUp t) := by
  by_cases hone : attempt = 1
  · subst hone
    rw [pause_of_first hn]
    cases ha : (ledger.finalityTime m t).await t (some next.millisUp) horizon with
    | cutOff t' | answered t' result => rfl
    | died t' => exact absurd ha (Reply.await_ne_died hlives)
    | pending =>
      -- the wait is cut off at the next query, so that lies beyond the horizon
      have hunseen : ¬ max next.millisUp t < horizon := by
        intro hlt
        have hgoes := (Reply.await_goes_on_iff hlt).mpr fun ⟨delay, hdeath, _⟩ =>
          hlives delay hdeath
        rw [ha] at hgoes
        rcases hgoes with ⟨_, h⟩ | ⟨_, _, h⟩ <;> cases h
      rw [attempts_of_unseen fun h => hunseen h.1]
      rfl
  · rw [pause_of_later hn hone]
    rfl

theorem pause_calls (t : Nat) :
    (pause ledger m s horizon attempt slot t).1.filter (fun c => !c.isLookup) = [] := by
  unfold pause
  repeat' split
  all_goals rfl

/-- Past the last slot there is no look-up. -/
theorem rest_pause_of_last {t : Nat} (hn : s.nextSlot? slot = none) :
    rest ledger m s horizon gas attempt (pause ledger m s horizon attempt slot t).2 =
      rest ledger' m s horizon gas attempt (pause ledger' m s horizon attempt slot t).2 := by
  cases hd : s.cutOff with
  | none =>
    rw [pause_of_no_deadline hn hd, pause_of_no_deadline hn hd]
    rfl
  | some stop =>
    rw [pause_of_deadline hn hd, pause_of_deadline hn hd]
    rfl

/-- **The rounds of a poll do not show the look-up**: on two ledgers that give the same answers to
the queries, the poll is the same apart from it. -/
theorem attempts_withoutLookups (hcheck : ledger.check m = ledger'.check m)
    (hlives : ∀ t delay, ledger.finalityTime m t ≠ .death delay)
    (hlives' : ∀ t delay, ledger'.finalityTime m t ≠ .death delay) :
    (attempts ledger m s horizon gas attempt slot now).withoutLookups =
      (attempts ledger' m s horizon gas attempt slot now).withoutLookups := by
  induction slot using Schedule.slot_induction s horizon generalizing attempt now with
  | step slot ih =>
    by_cases hguard : now < horizon ∧ slot.millisUp < horizon ∧ s.interval ≠ .zero
    · obtain ⟨hnow, hslot, hi⟩ := hguard
      rcases Nat.lt_or_ge attempt UInt32.size with ha | ha
      · rw [attempts_eq_before_rest hnow hslot hi ha, attempts_eq_before_rest hnow hslot hi ha]
        cases hawait : (ledger.check m gas attempt now).await now s.cutOff horizon with
        | pending | died t | cutOff t => simp only [round, ← hcheck, hawait, rest]
        | answered t result =>
          rcases result with e | (_ | _)
          · simp only [round, ← hcheck, hawait, rest]
          · -- a negative answer, with a pause behind it
            have hrest :
                (rest ledger m s horizon gas attempt
                  (pause ledger m s horizon attempt slot t).2).withoutLookups =
                (rest ledger' m s horizon gas attempt
                  (pause ledger' m s horizon attempt slot t).2).withoutLookups := by
              cases hn : s.nextSlot? slot with
              | none => rw [rest_pause_of_last hn]
              | some next =>
                rw [rest_pause (hlives t) hn, rest_pause (hlives' t) hn]
                obtain rfl := Schedule.eq_of_nextSlot? hn
                exact ih hslot hi
            have hawait' :
                (ledger'.check m gas attempt now).await now s.cutOff horizon =
                  .answered t (.ok false) := by rw [← hcheck, hawait]
            rw [round_of_negative hawait, round_of_negative hawait',
              Round.withoutLookups_before, Round.withoutLookups_before, hrest]
            simp only [List.filter_cons, pause_calls]
          · simp only [round, ← hcheck, hawait, rest]
      · rw [attempts_of_spent hnow hslot hi ha, attempts_of_spent hnow hslot hi ha]
    · rw [attempts_of_unseen hguard, attempts_of_unseen hguard]

/-- **A poll does not show its look-up**: on two ledgers that give the same estimate and the same
answers to the queries, the poll is the same apart from it. -/
theorem observe_withoutLookups (hestimate : ledger.estimate m = ledger'.estimate m)
    (hcheck : ledger.check m = ledger'.check m)
    (hlives : ∀ t delay, ledger.finalityTime m t ≠ .death delay)
    (hlives' : ∀ t delay, ledger'.finalityTime m t ≠ .death delay) :
    (observe ledger m s horizon).withoutLookups = (observe ledger' m s horizon).withoutLookups := by
  unfold observe
  rw [← hestimate]
  by_cases hhor : horizon = 0
  · rw [if_pos hhor, if_pos hhor]
  by_cases hi : s.interval = .zero
  · rw [if_neg hhor, if_pos hi, if_neg hhor, if_pos hi]
  by_cases hd : s.deadline = some .zero
  · rw [if_neg hhor, if_neg hi, if_pos hd, if_neg hhor, if_neg hi, if_pos hd]
  rw [if_neg hhor, if_neg hi, if_neg hd, if_neg hhor, if_neg hi, if_neg hd]
  cases (ledger.estimate m 0).await 0 s.cutOff horizon with
  | pending | died t | cutOff t => rfl
  | answered t result =>
    cases result with
    | error e => rfl
    | ok cost =>
      dsimp only
      rw [PollTrace.withoutLookups_afterCall rfl, PollTrace.withoutLookups_afterCall rfl,
        attempts_withoutLookups hcheck hlives hlives']

/-! ### The look-up among the calls -/

/-- The look-up `c` is over by an instant: it has been answered by then, or it is given up then. -/
def LookupOver (ledger : Ledger) (m : Message) (s : Schedule) (horizon : Nat) (c : LedgerCall)
    (instant : Nat) : Prop :=
  (∃ t result,
    (ledger.finalityTime m c.start).await c.start (some s.interval.millisUp) horizon =
      .answered t result ∧
    c = .answered .finalityTime c.start t .time result ∧ t ≤ instant) ∨
  ((ledger.finalityTime m c.start).await c.start (some s.interval.millisUp) horizon =
      .cutOff instant ∧
    c = .unanswered .finalityTime c.start)

/-- **The look-up of a poll.** -/
structure LooksUpOnce (ledger : Ledger) (m : Message) (s : Schedule) (horizon : Nat)
    (poll : PollTrace) : Prop where
  /-- There is one at most. -/
  once : (poll.calls.filter LedgerCall.isLookup).length ≤ 1
  /-- It stands behind the estimate and the first query, and it is made when the answer to that one
  arrives, which is negative. -/
  behind : ∀ front c back, poll.calls = front ++ c :: back → c.isLookup = true →
    ∃ cost t gas a, front = [.answered .estimate 0 t .cost (.ok cost),
      .answered (.check gas) a c.start .finality (.ok false)]
  /-- What follows it is a query, and it is over when that is made. -/
  finished : ∀ front c q back, poll.calls = front ++ c :: q :: back → c.isLookup = true →
    q.isCheck = true ∧ LookupOver ledger m s horizon c q.start

/-- Behind a later query nothing is looked up. -/
theorem pause_calls_of_later (ha : attempt ≠ 1) (t : Nat) :
    (pause ledger m s horizon attempt slot t).1 = [] := by
  cases hn : s.nextSlot? slot with
  | some next => rw [pause_of_later hn ha]
  | none =>
    cases hd : s.cutOff with
    | none => rw [pause_of_no_deadline hn hd]
    | some stop => rw [pause_of_deadline hn hd]

variable (ledger m s horizon gas attempt slot now) in
/-- The calls of a round: its query, and what is looked up behind a negative answer. -/
theorem round_calls :
    (∃ answer, (round ledger m s horizon gas attempt slot now).calls =
      [⟨.check gas, now, answer⟩]) ∨
    ∃ t, (ledger.check m gas attempt now).await now s.cutOff horizon = .answered t (.ok false) ∧
      (round ledger m s horizon gas attempt slot now).calls =
        .answered (.check gas) now t .finality (.ok false) ::
          (pause ledger m s horizon attempt slot t).1 := by
  cases ha : (ledger.check m gas attempt now).await now s.cutOff horizon with
  | pending | died t | cutOff t =>
    simp only [round, ha]
    exact Or.inl ⟨none, rfl⟩
  | answered t result =>
    rcases result with e | (_ | _)
    · simp only [round, ha]
      exact Or.inl ⟨_, rfl⟩
    · rw [round_of_negative ha]
      exact Or.inr ⟨t, rfl, rfl⟩
    · simp only [round, ha]
      exact Or.inl ⟨_, rfl⟩

variable (ledger m s horizon gas attempt slot now) in
/-- Behind a query there are the calls of one round and those of the rest, or there are no calls. -/
theorem attempts_calls_cases :
    (slot.millisUp < horizon ∧ s.interval ≠ .zero ∧
      (attempts ledger m s horizon gas attempt slot now).calls =
        (round ledger m s horizon gas attempt slot now).calls ++
          (rest ledger m s horizon gas attempt
            (round ledger m s horizon gas attempt slot now).sequel).calls) ∨
      (attempts ledger m s horizon gas attempt slot now).calls = [] := by
  by_cases hguard : now < horizon ∧ slot.millisUp < horizon ∧ s.interval ≠ .zero
  · obtain ⟨hnow, hslot, hi⟩ := hguard
    rcases Nat.lt_or_ge attempt UInt32.size with ha | ha
    · left
      rw [attempts_eq_before_rest hnow hslot hi ha]
      exact ⟨hslot, hi, rfl⟩
    · right
      rw [attempts_of_spent hnow hslot hi ha]
      rfl
  · right
    rw [attempts_of_unseen hguard]
    rfl

/-- The first call from a query on is that query. -/
theorem start_of_head {q : LedgerCall}
    (h : (attempts ledger m s horizon gas attempt slot now).calls.head? = some q) :
    q.isCheck = true ∧ q.start = now := by
  rcases attempts_calls_cases ledger m s horizon gas attempt slot now with ⟨-, -, hcalls⟩ | hnone
  · rw [hcalls] at h
    rcases round_calls ledger m s horizon gas attempt slot now with ⟨answer, hround⟩ |
      ⟨t, -, hround⟩
    all_goals
      rw [hround] at h
      obtain rfl := Option.some.inj h
      exact ⟨rfl, rfl⟩
  · rw [hnone] at h
    cases h

/-- **From the second query on there are only queries.** -/
theorem isCheck_of_later (hlater : 1 < attempt) :
    ∀ q ∈ (attempts ledger m s horizon gas attempt slot now).calls, q.isCheck = true := by
  induction slot using Schedule.slot_induction s horizon generalizing attempt now with
  | step slot ih =>
    rcases attempts_calls_cases ledger m s horizon gas attempt slot now with
      ⟨hslot, hi, hcalls⟩ | hnone
    · obtain ⟨answer, hround⟩ : ∃ answer,
          (round ledger m s horizon gas attempt slot now).calls = [⟨.check gas, now, answer⟩] := by
        rcases round_calls ledger m s horizon gas attempt slot now with hround | ⟨t, -, hround⟩
        · exact hround
        · rw [pause_calls_of_later (Nat.ne_of_gt hlater)] at hround
          exact ⟨_, hround⟩
      rw [hcalls, hround]
      refine List.forall_mem_cons.mpr ⟨rfl, ?_⟩
      have hsequel := round_sequel ledger m s horizon gas attempt slot now
      cases hseq : (round ledger m s horizon gas attempt slot now).sequel with
      | last ending => exact nofun
      | another slot' now' =>
        rw [hseq] at hsequel
        obtain ⟨rfl, -⟩ := hsequel
        exact ih hslot hi (Nat.lt_succ_of_lt hlater)
    · rw [hnone]
      exact nofun

variable (ledger m s horizon gas) in
/-- **The pause behind the first query**: either nothing is looked up, or there is one look-up; what
the poll asks behind it are queries, and it is over when the first of them is made. -/
theorem lookup_of_pause (t : Nat) :
    (pause ledger m s horizon 1 .zero t).1 = [] ∨
      ∃ c, (pause ledger m s horizon 1 .zero t).1 = [c] ∧ c.isLookup = true ∧ c.start = t ∧
        ∀ q, (rest ledger m s horizon gas 1 (pause ledger m s horizon 1 .zero t).2).calls.head? =
          some q → LookupOver ledger m s horizon c q.start := by
  cases hn : s.nextSlot? .zero with
  | none =>
    left
    cases hd : s.cutOff with
    | none => rw [pause_of_no_deadline hn hd]
    | some stop => rw [pause_of_deadline hn hd]
  | some next =>
    right
    obtain rfl : next = s.interval :=
      (Schedule.eq_of_nextSlot? hn).trans (Duration.ext (Nat.zero_add _))
    rw [pause_of_first hn]
    cases ha : (ledger.finalityTime m t).await t (some s.interval.millisUp) horizon with
    | pending | died t' => exact ⟨_, rfl, rfl, rfl, fun q => nofun⟩
    | cutOff t' =>
      refine ⟨_, rfl, rfl, rfl, fun q hq => Or.inr ⟨?_, rfl⟩⟩
      rw [(start_of_head hq).2, ← Reply.instant_of_cutOff ha]
      exact ha
    | answered t' result =>
      refine ⟨_, rfl, rfl, rfl, fun q hq => Or.inl ⟨t', result, ha, rfl, ?_⟩⟩
      rw [(start_of_head hq).2]
      exact (Reply.await_bounds (congrArg Awaited.instant? ha)).2.2 _ rfl

variable (ledger m s horizon gas now) in
/-- The calls of a poll behind the estimate: queries only, or the first query with a negative
answer, the look-up at that instant, and then queries. -/
theorem lookup_of_attempts :
    (∀ q ∈ (attempts ledger m s horizon gas 1 .zero now).calls, q.isCheck = true) ∨
      ∃ c back, (attempts ledger m s horizon gas 1 .zero now).calls =
          .answered (.check gas) now c.start .finality (.ok false) :: c :: back ∧
        c.isLookup = true ∧ (∀ q ∈ back, q.isCheck = true) ∧
        ∀ q, back.head? = some q → LookupOver ledger m s horizon c q.start := by
  have hlater : ∀ sequel, ∀ q ∈ (rest ledger m s horizon gas 1 sequel).calls,
      q.isCheck = true := by
    intro sequel
    cases sequel with
    | last ending => exact nofun
    | another slot' now' => exact isCheck_of_later (by decide)
  rcases attempts_calls_cases ledger m s horizon gas 1 .zero now with ⟨-, -, hcalls⟩ | hnone
  · rw [hcalls]
    rcases round_calls ledger m s horizon gas 1 .zero now with
      ⟨answer, hround⟩ | ⟨t, hawait, hround⟩
    · left
      rw [hround]
      exact List.forall_mem_cons.mpr ⟨rfl, hlater _⟩
    · rcases lookup_of_pause ledger m s horizon gas t with
        hpause | ⟨c, hc, hlookup, rfl, hover⟩
      · left
        rw [hround, hpause]
        exact List.forall_mem_cons.mpr ⟨rfl, hlater _⟩
      · right
        rw [hround, hc, round_of_negative hawait]
        exact ⟨c, _, rfl, hlookup, hlater _, hover⟩
  · left
    rw [hnone]
    exact nofun

variable (ledger m s horizon) in
/-- The calls of a poll: no look-up at all, or the estimate, the first query with a negative answer,
the look-up at that instant, and then queries. -/
theorem lookup_of_observe :
    (∀ c ∈ (observe ledger m s horizon).calls, c.isLookup = false) ∨
      ∃ cost t gas a c back, (observe ledger m s horizon).calls =
          [.answered .estimate 0 t .cost (.ok cost),
            .answered (.check gas) a c.start .finality (.ok false)] ++ c :: back ∧
        c.isLookup = true ∧ (∀ q ∈ back, q.isCheck = true) ∧
        ∀ q, back.head? = some q → LookupOver ledger m s horizon c q.start := by
  unfold observe
  by_cases hhor : horizon = 0
  · rw [if_pos hhor]
    exact Or.inl nofun
  by_cases hi : s.interval = .zero
  · rw [if_neg hhor, if_pos hi]
    exact Or.inl nofun
  by_cases hd : s.deadline = some .zero
  · rw [if_neg hhor, if_neg hi, if_pos hd]
    exact Or.inl nofun
  rw [if_neg hhor, if_neg hi, if_neg hd]
  cases (ledger.estimate m 0).await 0 s.cutOff horizon with
  | pending | died t | cutOff t => exact Or.inl (List.forall_mem_singleton.mpr rfl)
  | answered t result =>
    cases result with
    | error e => exact Or.inl (List.forall_mem_singleton.mpr rfl)
    | ok cost =>
      dsimp only [PollTrace.afterCall]
      rcases lookup_of_attempts ledger m s horizon (paddedGas cost) t with
        hchecks | ⟨c, back, hcalls, hlookup, hback, hover⟩
      · left
        exact List.forall_mem_cons.mpr
          ⟨rfl, fun c hc => LedgerCall.isLookup_of_isCheck (hchecks c hc)⟩
      · right
        rw [hcalls]
        exact ⟨cost, t, paddedGas cost, t, c, back, rfl, hlookup, hback, hover⟩

theorem LooksUpOnce.of_none {poll : PollTrace} (h : ∀ c ∈ poll.calls, c.isLookup = false) :
    LooksUpOnce ledger m s horizon poll := by
  have hnot : ∀ {front c back}, poll.calls = front ++ c :: back → c.isLookup = true → False := by
    intro front c back heq hc
    rw [h c (by simp [heq])] at hc
    cases hc
  refine ⟨?_, fun front c back heq hc => (hnot heq hc).elim,
    fun front c q back heq hc => (hnot heq hc).elim⟩
  rw [List.filter_eq_nil_iff.mpr fun c hc => by simp [h c hc]]
  exact Nat.zero_le 1

/-- Behind an estimate and a query, what is looked up at the third place is looked up nowhere else.
-/
theorem eq_of_lookup_at {e q c c' : LedgerCall} {front back back' : List LedgerCall}
    (he : e.isLookup = false) (hq : q.isLookup = false) (hback : ∀ d ∈ back, d.isLookup = false)
    (heq : [e, q] ++ c :: back = front ++ c' :: back') (hc' : c'.isLookup = true) :
    front = [e, q] ∧ c' = c ∧ back' = back := by
  rcases front with _ | ⟨x, _ | ⟨y, _ | ⟨z, front⟩⟩⟩
  · obtain ⟨rfl, -⟩ := List.cons.inj heq
    rw [he] at hc'
    cases hc'
  · obtain ⟨-, heq⟩ := List.cons.inj heq
    obtain ⟨rfl, -⟩ := List.cons.inj heq
    rw [hq] at hc'
    cases hc'
  · simp only [List.cons_append, List.nil_append, List.cons.injEq] at heq
    obtain ⟨rfl, rfl, rfl, rfl⟩ := heq
    exact ⟨rfl, rfl, rfl⟩
  · simp only [List.cons_append, List.nil_append, List.cons.injEq] at heq
    obtain ⟨-, -, -, rfl⟩ := heq
    rw [hback c' (by simp)] at hc'
    cases hc'

variable (ledger m s horizon) in
/-- **Every poll looks up once**, whatever the ledger replies. -/
theorem observe_looksUpOnce :
    LooksUpOnce ledger m s horizon (observe ledger m s horizon) := by
  rcases lookup_of_observe ledger m s horizon with
    hnone | ⟨cost, t, gas, a, c, back, hcalls, hlookup, hback, hover⟩
  · exact .of_none hnone
  · have hrest : ∀ q ∈ back, q.isLookup = false := fun q hq =>
      LedgerCall.isLookup_of_isCheck (hback q hq)
    refine ⟨?once, fun front c' back' heq hc' => ?behind, fun front c' q back' heq hc' => ?finished⟩
    case once =>
      have hnone : back.filter LedgerCall.isLookup = [] :=
        List.filter_eq_nil_iff.mpr fun q hq => by simp [hrest q hq]
      rw [hcalls, List.filter_append, List.filter_cons_of_pos hlookup, hnone]
      exact Nat.le_refl 1
    case behind =>
      rw [hcalls] at heq
      obtain ⟨rfl, rfl, -⟩ := eq_of_lookup_at rfl rfl hrest heq hc'
      exact ⟨cost, t, gas, a, rfl⟩
    case finished =>
      rw [hcalls] at heq
      obtain ⟨-, rfl, rfl⟩ := eq_of_lookup_at rfl rfl hrest heq hc'
      exact ⟨hback q (List.mem_cons_self ..), hover q rfl⟩

/-- **The look-up is invisible.** Let two ledgers give the same estimate and the same answers to the
queries, and let them reply to the look-up of the finality time whatever they like and whenever, or
never; only that the task does not die of it. Then all that a poll does apart from the look-up, its
other calls and their instants, what it counts, its end and its result, is the same on both, for
every schedule and every observer. And on each of them the finality time is looked up once at most,
behind the first negative answer, and that is over when the next query is made. -/
theorem lookup_invisible {ledger ledger' : Ledger} {m : Message}
    (hestimate : ledger.estimate m = ledger'.estimate m)
    (hcheck : ledger.check m = ledger'.check m)
    (hlives : ∀ t delay, ledger.finalityTime m t ≠ .death delay)
    (hlives' : ∀ t delay, ledger'.finalityTime m t ≠ .death delay)
    (s : Schedule) (horizon : Nat) :
    (observe ledger m s horizon).withoutLookups = (observe ledger' m s horizon).withoutLookups ∧
      LooksUpOnce ledger m s horizon (observe ledger m s horizon) ∧
      LooksUpOnce ledger' m s horizon (observe ledger' m s horizon) :=
  ⟨observe_withoutLookups hestimate hcheck hlives hlives', observe_looksUpOnce ledger m s horizon,
    observe_looksUpOnce ledger' m s horizon⟩

/-- A ledger that gives a negative answer late and then a positive one at once, and a reply to the
look-up. -/
def finalSecond (time : Reply (Option Nat)) : Ledger where
  estimate _ _ := .answer 0 (.ok 100)
  check _ _ k _ := .answer (if k = 1 then 25 else 0) (.ok (k == 2))
  finalityTime _ _ := time
  submit _ _ _ := .silence

/-- Whether that ledger never tells the time or tells it after four seconds does not show in a poll
that asks it every ten milliseconds. -/
theorem lookup_invisible_finalSecond :
    let silent := finalSecond .silence
    let slow := finalSecond (.answer 4000 (.ok (some 1700000000)))
    let schedule := Schedule.within (.ofMillis 10) (.ofMillis 100)
    (silent.estimate default = slow.estimate default ∧ silent.check default = slow.check default ∧
      (∀ t delay, silent.finalityTime default t ≠ .death delay) ∧
      ∀ t delay, slow.finalityTime default t ≠ .death delay) ∧
    (observe silent default schedule 200).withoutLookups =
      (observe slow default schedule 200).withoutLookups ∧
    LooksUpOnce slow default schedule 200 (observe slow default schedule 200) := by
  intro silent slow schedule
  have hestimate : silent.estimate default = slow.estimate default := rfl
  have hcheck : silent.check default = slow.check default := rfl
  have hlives : ∀ t delay, silent.finalityTime default t ≠ .death delay := fun _ _ => nofun
  have hlives' : ∀ t delay, slow.finalityTime default t ≠ .death delay := fun _ _ => nofun
  obtain ⟨hsame, -, honce⟩ :=
    lookup_invisible hestimate hcheck hlives hlives' schedule 200
  exact ⟨⟨hestimate, hcheck, hlives, hlives'⟩, hsame, honce⟩

end Poll

end MessageRelay
