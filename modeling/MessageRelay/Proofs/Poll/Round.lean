import MessageRelay.Poll

/-!
# A poll round by round

A poll is a loop, and one turn of it is a *round* (`MessageRelay.Poll.round`): a query, and behind a
negative answer the pause up to the next query with the one look-up of the finality time in it. A
round either is the last one or says for which slot the next query is planned and when it is made.

`MessageRelay.Poll.attempts_eq_round` says that the loop does its rounds one after the other, and
`MessageRelay.Poll.round_sequel` says once what a round can do. What holds of whole polls follows by
induction over the rounds: an ending that an observer sees is seen by every observer who watches
beyond it (`MessageRelay.Poll.observe_eq_of_lt`), and a message is called final only on a positive
answer that arrives at that instant (`MessageRelay.Poll.exists_positive_answer`).
-/

namespace MessageRelay

/-! ### Waiting for a reply -/

/-- When a wait ends, if it does. -/
def Awaited.instant? {α : Type} : Awaited α → Option Nat
  | answered t _ => some t
  | cutOff t => some t
  | died t => some t
  | pending => none

/-- How a wait ends for an observer who watches forever. -/
def Reply.outcome {α : Type} (reply : Reply α) (start : Nat) (cut : Option Nat) : Awaited α :=
  match reply, cut with
  | answer delay result, none => .answered (start + delay) result
  | answer delay result, some c =>
    if start + delay ≤ max c start then .answered (start + delay) result else .cutOff (max c start)
  | death delay, none => .died (start + delay)
  | death delay, some c =>
    if start + delay ≤ max c start then .died (start + delay) else .cutOff (max c start)
  | silence, none => .pending
  | silence, some c => .cutOff (max c start)

/-- **The horizon only decides whether the end of a wait is seen.** -/
theorem Reply.await_eq {α : Type} (reply : Reply α) (start : Nat) (cut : Option Nat)
    (horizon : Nat) :
    reply.await start cut horizon =
      if (reply.outcome start cut).instant?.any (· < horizon) then reply.outcome start cut
      else .pending := by
  cases reply with
  | answer delay | death delay =>
    cases cut with
    | none => simp [await, outcome, Awaited.instant?]
    | some c =>
      by_cases hc : start + delay ≤ max c start <;>
        simp [await, outcome, Awaited.instant?, hc]
  | silence => cases cut <;> simp [await, outcome, Awaited.instant?]

/-- A wait ends no earlier than it starts and no later than its cut-off. -/
theorem Reply.outcome_bounds {α : Type} {reply : Reply α} {start t : Nat} {cut : Option Nat}
    (h : (reply.outcome start cut).instant? = some t) :
    start ≤ t ∧ ∀ c, cut = some c → t ≤ max c start := by
  unfold outcome at h
  cases reply <;> cases cut <;> grind [Awaited.instant?]

section

variable {α : Type} {reply : Reply α} {start t horizon horizon' : Nat} {cut : Option Nat}

/-- An end that is seen lies before the horizon, and within the bounds of the wait. -/
theorem Reply.await_bounds (h : (reply.await start cut horizon).instant? = some t) :
    start ≤ t ∧ t < horizon ∧ ∀ c, cut = some c → t ≤ max c start := by
  rw [await_eq] at h
  split at h
  next hany =>
    rw [h, Option.any_some, decide_eq_true_eq] at hany
    exact ⟨(outcome_bounds h).1, hany, (outcome_bounds h).2⟩
  next => exact nomatch h

/-- An end that is seen is seen by every observer who watches beyond it. -/
theorem Reply.await_eq_of_lt (h : (reply.await start cut horizon).instant? = some t)
    (ht : t < horizon') : reply.await start cut horizon' = reply.await start cut horizon := by
  rw [await_eq] at h ⊢
  rw [await_eq reply start cut horizon]
  split at h
  next hany => rw [if_pos hany, if_pos (by rw [h, Option.any_some]; exact decide_eq_true ht)]
  next => exact nomatch h

end

/-! ### Slots -/

/-- **Induction over the slots** that an observer may see: each one is followed by the next slot,
and behind the horizon there is nothing to be shown. -/
@[elab_as_elim]
theorem Schedule.slot_induction {motive : Duration → Prop} (s : Schedule) (horizon : Nat)
    (step : ∀ slot : Duration,
      (slot.millisUp < horizon → s.interval ≠ .zero → motive (slot + s.interval)) → motive slot)
    (slot : Duration) : motive slot := by
  -- what is left of the time up to the horizon
  induction hk : Duration.nanosPerMilli * horizon - slot.nanos using Nat.strongRecOn
    generalizing slot with
  | ind k ih =>
    refine step slot fun hslot hi => ih _ ?_ _ rfl
    have hlt := Duration.nanos_lt_of_millisUp_lt hslot
    have hpos := Duration.nanos_pos hi
    rw [Duration.nanos_add]
    omega

namespace Poll

/-! ### Rounds -/

/-- What follows a query. -/
inductive Sequel where
  /-- No other query. The poll may have ended by then. -/
  | last (ending : Option (Nat × PollEnding))
  /-- Another query, planned for a slot and made at an instant. -/
  | another (slot : Duration) (now : Nat)

/-- A query and everything up to the next one. -/
structure Round where
  /-- The calls, in order. -/
  calls : List LedgerCall
  /-- What was counted, in order. -/
  events : List Metrics.Event
  /-- What follows. -/
  sequel : Sequel

/-- A round in front of the rest of a poll. -/
def Round.before (r : Round) (t : PollTrace) : PollTrace :=
  ⟨r.calls ++ t.calls, r.events ++ t.events, t.ending⟩

variable (ledger : Ledger) (m : Message) (s : Schedule) (horizon : Nat)

/-- The pause behind a negative answer that arrives at `t`, with the look-up if there is one. -/
def pause (attempt : Nat) (slot : Duration) (t : Nat) : List LedgerCall × Sequel :=
  match s.nextSlot? slot, s.cutOff with
  | none, some stop =>
    ([], .last (if max stop t < horizon then
      some (max stop t, .result (.timedOut (UInt32.ofNat attempt) (max stop t))) else none))
  | none, none => ([], .last none)
  | some next, _ =>
    if attempt = 1 then
      match (ledger.finalityTime m t).await t (some next.millisUp) horizon with
      | .pending => ([.unanswered .finalityTime t], .last none)
      | .died t' => ([.unanswered .finalityTime t], .last (some (t', .death)))
      | .cutOff _ => ([.unanswered .finalityTime t], .another next (max next.millisUp t))
      | .answered t' result =>
        ([.answered .finalityTime t t' .time result], .another next (max next.millisUp t))
    else ([], .another next (max next.millisUp t))

/-- The round of the query that is planned for `slot` and made at `now`. -/
def round (gas : UInt64) (attempt : Nat) (slot : Duration) (now : Nat) : Round :=
  let call := LedgerCall.answered (.check gas) now
  let open' := LedgerCall.unanswered (.check gas) now
  match (ledger.check m gas attempt now).await now s.cutOff horizon with
  | .pending => ⟨[open'], [.pollAttempt], .last none⟩
  | .died t => ⟨[open'], [.pollAttempt], .last (some (t, .death))⟩
  | .cutOff t =>
    ⟨[open'], [.pollAttempt], .last (some (t, .result (.timedOut (UInt32.ofNat attempt) t)))⟩
  | .answered t (.error e) =>
    ⟨[call t .finality (.error e)], [.pollAttempt],
      .last (some (t, .result (.failed (.query (UInt32.ofNat attempt) e))))⟩
  | .answered t (.ok true) =>
    ⟨[call t .finality (.ok true)],
      [.pollAttempt, .finalityWait (Duration.ofMillis t).toSeconds],
      .last (some (t, .result (.finalized ⟨m, UInt32.ofNat attempt, t⟩)))⟩
  | .answered t (.ok false) =>
    let (calls, sequel) := pause ledger m s horizon attempt slot t
    ⟨call t .finality (.ok false) :: calls, [.pollAttempt], sequel⟩

variable {ledger m s horizon} {gas : UInt64} {attempt : Nat} {slot : Duration} {now : Nat}

/-- Past the last slot the pause lasts until the deadline. -/
theorem pause_of_deadline {t stop : Nat} (hn : s.nextSlot? slot = none)
    (hd : s.cutOff = some stop) :
    pause ledger m s horizon attempt slot t =
      ([], .last (if max stop t < horizon then
        some (max stop t, .result (.timedOut (UInt32.ofNat attempt) (max stop t)))
      else none)) := by
  simp only [pause, hn, hd]

/-- Past the last slot and without a deadline the pause does not end. -/
theorem pause_of_no_deadline {t : Nat} (hn : s.nextSlot? slot = none) (hd : s.cutOff = none) :
    pause ledger m s horizon attempt slot t = ([], .last none) := by
  simp only [pause, hn, hd]

/-- In the first pause the finality time is looked up. -/
theorem pause_of_first {t : Nat} {next : Duration} (hn : s.nextSlot? slot = some next) :
    pause ledger m s horizon 1 slot t =
      match (ledger.finalityTime m t).await t (some next.millisUp) horizon with
      | .pending => ([.unanswered .finalityTime t], .last none)
      | .died t' => ([.unanswered .finalityTime t], .last (some (t', .death)))
      | .cutOff _ => ([.unanswered .finalityTime t], .another next (max next.millisUp t))
      | .answered t' result =>
        ([.answered .finalityTime t t' .time result], .another next (max next.millisUp t)) := by
  simp only [pause, hn, if_true]

/-- In a later pause nothing happens. -/
theorem pause_of_later {t : Nat} {next : Duration} (hn : s.nextSlot? slot = some next)
    (ha : attempt ≠ 1) :
    pause ledger m s horizon attempt slot t = ([], .another next (max next.millisUp t)) := by
  simp only [pause, hn, if_neg ha]

/-- Behind a negative answer comes a pause. -/
theorem round_of_negative {t : Nat}
    (ha : (ledger.check m gas attempt now).await now s.cutOff horizon = .answered t (.ok false)) :
    round ledger m s horizon gas attempt slot now =
      ⟨.answered (.check gas) now t .finality (.ok false) ::
          (pause ledger m s horizon attempt slot t).1,
        [.pollAttempt], (pause ledger m s horizon attempt slot t).2⟩ := by
  simp only [round, ha]

/-- The loop does one round and then what follows it. -/
theorem attempts_eq_round (hnow : now < horizon) (hslot : slot.millisUp < horizon)
    (hi : s.interval ≠ .zero) (ha : attempt < UInt32.size) :
    attempts ledger m s horizon gas attempt slot now =
      match (round ledger m s horizon gas attempt slot now).sequel with
      | .last ending =>
        (round ledger m s horizon gas attempt slot now).before ⟨[], [], ending⟩
      | .another slot' now' =>
        (round ledger m s horizon gas attempt slot now).before
          (attempts ledger m s horizon gas (attempt + 1) slot' now') := by
  rw [attempts, dif_pos ⟨hnow, hslot, hi⟩, if_neg (Nat.not_le.mpr ha)]
  unfold round
  cases (ledger.check m gas attempt now).await now s.cutOff horizon with
  | pending | died t | cutOff t => rfl
  | answered t result =>
    rcases result with e | (_ | _)
    · rfl
    · -- a negative answer, with a pause behind it
      dsimp only
      split
      next stop hn hd =>
        rw [pause_of_deadline hn hd]
        split <;> rfl
      next hn hd =>
        rw [pause_of_no_deadline hn hd]
        rfl
      next next hn =>
        by_cases hone : attempt = 1
        · subst hone
          rw [pause_of_first hn, if_pos rfl]
          cases (ledger.finalityTime m t).await t (some next.millisUp) horizon <;> rfl
        · rw [pause_of_later hn hone, if_neg hone]
          rfl
    · rfl

/-! ### What a round can do -/

variable (ledger m s horizon attempt slot) in
/-- **A pause** either ends the poll at an instant behind the answer, or leads to a query that is
made at its slot, or at once if the slot has passed. Every observer who watches beyond that sees the
same pause. -/
theorem pause_sequel (t : Nat) :
    match (pause ledger m s horizon attempt slot t).2 with
    | .last none => True
    | .last (some (t', ending)) =>
      t ≤ t' ∧ t' < horizon ∧ (∀ f, ending ≠ .result (.finalized f)) ∧
        ∀ horizon', t' < horizon' →
          pause ledger m s horizon' attempt slot t = pause ledger m s horizon attempt slot t
    | .another slot' now' =>
      slot' = slot + s.interval ∧ now' = max slot'.millisUp t ∧
        ∀ horizon', now' < horizon' →
          pause ledger m s horizon' attempt slot t = pause ledger m s horizon attempt slot t := by
  cases hn : s.nextSlot? slot with
  | none =>
    cases hd : s.cutOff with
    | none =>
      rw [pause_of_no_deadline hn hd]
      trivial
    | some stop =>
      by_cases hlt : max stop t < horizon
      · rw [pause_of_deadline hn hd, if_pos hlt]
        refine ⟨Nat.le_max_right _ _, hlt, fun f => nofun, fun horizon' hlt' => ?_⟩
        rw [pause_of_deadline hn hd, if_pos hlt']
      · rw [pause_of_deadline hn hd, if_neg hlt]
        trivial
  | some next =>
    have hnext : next = slot + s.interval := Schedule.eq_of_nextSlot? hn
    by_cases hone : attempt = 1
    · subst hone
      -- the look-up is cut off at the next slot, so its end lies before the next query
      have hseen : ∀ {t' horizon' : Nat},
          ((ledger.finalityTime m t).await t (some next.millisUp) horizon).instant? = some t' →
          t' < horizon' →
          pause ledger m s horizon' 1 slot t = pause ledger m s horizon 1 slot t := by
        intro t' horizon' ht' hlt
        rw [pause_of_first hn, pause_of_first hn, Reply.await_eq_of_lt ht' hlt]
      rw [pause_of_first hn] at hseen ⊢
      cases ha : (ledger.finalityTime m t).await t (some next.millisUp) horizon with
      | pending => trivial
      | died t' =>
        rw [ha] at hseen
        obtain ⟨hle, hlt, -⟩ := Reply.await_bounds (congrArg Awaited.instant? ha)
        exact ⟨hle, hlt, fun f => nofun, fun horizon' hlt' => hseen rfl hlt'⟩
      | cutOff t' | answered t' =>
        rw [ha] at hseen
        obtain ⟨hle, hlt, hcut⟩ := Reply.await_bounds (congrArg Awaited.instant? ha)
        exact ⟨hnext, rfl, fun horizon' hlt' => hseen rfl (Nat.lt_of_le_of_lt (hcut _ rfl) hlt')⟩
    · rw [pause_of_later hn hone]
      refine ⟨hnext, rfl, fun horizon' _ => ?_⟩
      rw [pause_of_later hn hone]

variable (ledger m s horizon) in
/-- **A round** either ends the poll, or leads to a query that is planned for the next slot. In both
cases every observer who watches beyond that sees the same round; and the message is called final
only on a positive answer that arrives at that instant. -/
theorem round_sequel (gas : UInt64) (attempt : Nat) (slot : Duration) (now : Nat) :
    match (round ledger m s horizon gas attempt slot now).sequel with
    | .last none => True
    | .last (some (t, ending)) =>
      now ≤ t ∧ t < horizon ∧
        (∀ f, ending = .result (.finalized f) → f.message = m ∧
          ∃ c ∈ (round ledger m s horizon gas attempt slot now).calls,
            c.isCheck = true ∧ c.answer = some (t, .finality true)) ∧
        ∀ horizon', t < horizon' →
          round ledger m s horizon' gas attempt slot now =
            round ledger m s horizon gas attempt slot now
    | .another slot' now' =>
      slot' = slot + s.interval ∧ slot'.millisUp ≤ now' ∧ now ≤ now' ∧
        ∀ horizon', now' < horizon' →
          round ledger m s horizon' gas attempt slot now =
            round ledger m s horizon gas attempt slot now := by
  cases ha : (ledger.check m gas attempt now).await now s.cutOff horizon with
  | pending => simp only [round, ha]
  | died t | cutOff t =>
    obtain ⟨hle, hlt, -⟩ := Reply.await_bounds (congrArg Awaited.instant? ha)
    simp only [round, ha]
    refine ⟨hle, hlt, ?_, fun horizon' hlt' => ?_⟩
    · rintro f ⟨⟩
    · rw [Reply.await_eq_of_lt (congrArg Awaited.instant? ha) hlt', ha]
  | answered t result =>
    obtain ⟨hle, hlt, -⟩ := Reply.await_bounds (congrArg Awaited.instant? ha)
    have hseen : ∀ horizon', t < horizon' →
        (ledger.check m gas attempt now).await now s.cutOff horizon' = .answered t result := by
      intro horizon' hlt'
      rw [Reply.await_eq_of_lt (congrArg Awaited.instant? ha) hlt', ha]
    rcases result with e | (_ | _)
    · simp only [round, ha]
      refine ⟨hle, hlt, ?_, fun horizon' hlt' => ?_⟩
      · rintro f ⟨⟩
      · rw [hseen horizon' hlt']
    · -- a negative answer, with a pause behind it
      have hpause := pause_sequel ledger m s horizon attempt slot t
      have hsame : ∀ horizon', t < horizon' →
          pause ledger m s horizon' attempt slot t = pause ledger m s horizon attempt slot t →
          round ledger m s horizon' gas attempt slot now =
            round ledger m s horizon gas attempt slot now := by
        intro horizon' hlt' heq
        rw [round_of_negative (hseen horizon' hlt'), round_of_negative ha, heq]
      have hsequel : (round ledger m s horizon gas attempt slot now).sequel = _ :=
        congrArg Round.sequel (round_of_negative ha)
      rw [hsequel]
      rcases hp : (pause ledger m s horizon attempt slot t).2 with
        (_ | ⟨t', ending⟩) | ⟨slot', now'⟩
      · trivial
      · rw [hp] at hpause
        obtain ⟨hle', hlt', hnot, hpause⟩ := hpause
        exact ⟨Nat.le_trans hle hle', hlt', fun f hf => absurd hf (hnot f), fun horizon' h' =>
          hsame horizon' (Nat.lt_of_le_of_lt hle' h') (hpause horizon' h')⟩
      · rw [hp] at hpause
        obtain ⟨hslot, rfl, hpause⟩ := hpause
        exact ⟨hslot, Nat.le_max_left _ _, Nat.le_trans hle (Nat.le_max_right _ _),
          fun horizon' h' =>
            hsame horizon' (Nat.lt_of_le_of_lt (Nat.le_max_right _ _) h') (hpause horizon' h')⟩
    · simp only [round, ha]
      refine ⟨hle, hlt, ?_, fun horizon' hlt' => ?_⟩
      · rintro f ⟨⟩
        exact ⟨rfl, _, List.mem_singleton_self _, rfl, rfl⟩
      · rw [hseen horizon' hlt']

/-! ### Whole polls -/

/-- **The rounds of a poll** that an observer sees to its end: the end lies at or behind the present
instant, every observer who watches beyond it sees the same poll, and a message is called final only
on a positive answer that arrives at that instant. -/
theorem attempts_ended {t : Nat} {ending : PollEnding} (hs : slot.millisUp ≤ now)
    (h : (attempts ledger m s horizon gas attempt slot now).ending = some (t, ending)) :
    now ≤ t ∧ t < horizon ∧
      (∀ f, ending = .result (.finalized f) → f.message = m ∧
        ∃ c ∈ (attempts ledger m s horizon gas attempt slot now).calls,
          c.isCheck = true ∧ c.answer = some (t, .finality true)) ∧
      ∀ horizon', t < horizon' →
        attempts ledger m s horizon' gas attempt slot now =
          attempts ledger m s horizon gas attempt slot now := by
  induction slot using Schedule.slot_induction s horizon generalizing attempt now with
  | step slot ih =>
    by_cases hguard : now < horizon ∧ slot.millisUp < horizon ∧ s.interval ≠ .zero
    · obtain ⟨hnow, hslot, hi⟩ := hguard
      rcases Nat.lt_or_ge attempt UInt32.size with ha | ha
      · have hround := round_sequel ledger m s horizon gas attempt slot now
        have heq : attempts ledger m s horizon gas attempt slot now = _ :=
          attempts_eq_round hnow hslot hi ha
        rcases hseq : (round ledger m s horizon gas attempt slot now).sequel with
          (_ | ⟨t', ending'⟩) | ⟨slot', now'⟩
        · rw [heq, hseq] at h
          exact nomatch h
        · rw [hseq] at hround heq
          obtain ⟨hle, hlt, hfinal, hsame⟩ := hround
          rw [heq] at h ⊢
          obtain ⟨rfl, rfl⟩ := Prod.mk.inj (Option.some.inj h)
          refine ⟨hle, hlt, fun f hf => ?_, fun horizon' h' => ?_⟩
          · obtain ⟨hm, c, hc, hcheck⟩ := hfinal f hf
            exact ⟨hm, c, List.mem_append_left _ hc, hcheck⟩
          · rw [attempts_eq_round (by omega) (by omega) hi ha, hsame horizon' h', hseq]
        · rw [hseq] at hround heq
          obtain ⟨rfl, hle', hle, hsame⟩ := hround
          rw [heq] at h ⊢
          obtain ⟨hlet, hlt, hfinal, hrest⟩ := ih hslot hi hle' h
          refine ⟨Nat.le_trans hle hlet, hlt, fun f hf => ?_, fun horizon' h' => ?_⟩
          · obtain ⟨hm, c, hc, hcheck⟩ := hfinal f hf
            exact ⟨hm, c, List.mem_append_right _ hc, hcheck⟩
          · rw [attempts_eq_round (by omega) (by omega) hi ha, hsame horizon' (by omega), hseq]
            dsimp only
            rw [hrest horizon' h']
      · have hspent : ∀ horizon', now < horizon' →
            attempts ledger m s horizon' gas attempt slot now = PollTrace.ended now .death := by
          intro horizon' h'
          rw [attempts, dif_pos ⟨h', by omega, hi⟩, if_pos ha]
        rw [hspent horizon hnow] at h ⊢
        obtain ⟨rfl, rfl⟩ := Prod.mk.inj (Option.some.inj h)
        exact ⟨Nat.le_refl _, hnow, fun f => nofun, hspent⟩
    · rw [attempts, dif_neg hguard] at h
      exact nomatch h

/-- What is known of a poll that was seen to its end. -/
theorem observe_ended {t : Nat} {ending : PollEnding}
    (h : (observe ledger m s horizon).ending = some (t, ending)) :
    (∀ f, ending = .result (.finalized f) → f.message = m ∧
      ∃ c ∈ (observe ledger m s horizon).calls,
        c.isCheck = true ∧ c.answer = some (t, .finality true)) ∧
    ∀ horizon', t < horizon' → observe ledger m s horizon' = observe ledger m s horizon := by
  by_cases h0 : horizon = 0
  · rw [observe, if_pos h0] at h
    exact nomatch h
  have hne : ∀ {horizon'}, t < horizon' → horizon' ≠ 0 := Nat.ne_zero_of_lt
  by_cases hi : s.interval = .zero
  · rw [observe, if_neg h0, if_pos hi] at h ⊢
    obtain ⟨rfl, rfl⟩ := Prod.mk.inj (Option.some.inj h)
    refine ⟨fun f => nofun, fun horizon' h' => ?_⟩
    rw [observe, if_neg (hne h'), if_pos hi]
  by_cases hd : s.deadline = some .zero
  · rw [observe, if_neg h0, if_neg hi, if_pos hd] at h ⊢
    obtain ⟨rfl, rfl⟩ := Prod.mk.inj (Option.some.inj h)
    refine ⟨fun f => nofun, fun horizon' h' => ?_⟩
    rw [observe, if_neg (hne h'), if_neg hi, if_pos hd]
  have hsame : ∀ {t' : Nat}, t' ≤ t →
      ((ledger.estimate m 0).await 0 s.cutOff horizon).instant? = some t' →
      ∀ horizon', t < horizon' →
        (ledger.estimate m 0).await 0 s.cutOff horizon' =
          (ledger.estimate m 0).await 0 s.cutOff horizon := fun hle ht' horizon' h' =>
    Reply.await_eq_of_lt ht' (Nat.lt_of_le_of_lt hle h')
  cases ha : (ledger.estimate m 0).await 0 s.cutOff horizon with
  | pending =>
    simp only [observe, if_neg h0, if_neg hi, if_neg hd, ha] at h
    exact nomatch h
  | died t' | cutOff t' =>
    rw [ha] at hsame
    simp only [observe, if_neg h0, if_neg hi, if_neg hd, ha] at h ⊢
    obtain ⟨rfl, rfl⟩ := Prod.mk.inj (Option.some.inj h)
    refine ⟨fun f => nofun, fun horizon' h' => ?_⟩
    rw [if_neg (hne h'), hsame (Nat.le_refl _) rfl horizon' h']
  | answered t' result =>
    rw [ha] at hsame
    cases result with
    | error e =>
      simp only [observe, if_neg h0, if_neg hi, if_neg hd, ha] at h ⊢
      obtain ⟨rfl, rfl⟩ := Prod.mk.inj (Option.some.inj h)
      refine ⟨fun f => nofun, fun horizon' h' => ?_⟩
      rw [if_neg (hne h'), hsame (Nat.le_refl _) rfl horizon' h']
    | ok cost =>
      simp only [observe, if_neg h0, if_neg hi, if_neg hd, ha] at h ⊢
      obtain ⟨hle, -, hfinal, hrest⟩ := attempts_ended (Nat.zero_le t') h
      refine ⟨fun f hf => ?_, fun horizon' h' => ?_⟩
      · obtain ⟨hm, c, hc, hcheck⟩ := hfinal f hf
        exact ⟨hm, c, List.mem_cons_of_mem _ hc, hcheck⟩
      · rw [if_neg (hne h'), hsame hle rfl horizon' h']
        dsimp only
        rw [hrest horizon' h']

/-- **The end of a poll is seen by every observer who watches beyond it.** -/
theorem observe_eq_of_lt {t horizon' : Nat} {ending : PollEnding}
    (h : (observe ledger m s horizon).ending = some (t, ending)) (ht : t < horizon') :
    observe ledger m s horizon' = observe ledger m s horizon :=
  (observe_ended h).2 horizon' ht

/-- **A message is called final on a positive answer**: the poll is about that message, and a query
of the poll was answered positively at the instant at which the poll ended. -/
theorem exists_positive_answer {t : Nat} {f : FinalizedMessage}
    (h : (observe ledger m s horizon).ending = some (t, .result (.finalized f))) :
    f.message = m ∧ ∃ c ∈ (observe ledger m s horizon).calls,
      c.isCheck = true ∧ c.answer = some (t, .finality true) :=
  (observe_ended h).1 f rfl

end Poll

end MessageRelay
