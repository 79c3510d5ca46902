import MessageRelay.Proofs.Poll.Lookup

/-!
# What a poll has started by an instant

A poll that is watched up to a horizon is the poll that goes on for ever, broken off: strictly
before the horizon it has started exactly the same calls
(`MessageRelay.Poll.startedBefore_observe`). So it makes no difference for what happened before
whether a poll is cancelled at an instant, or looked at no longer, or left to its end.

Two observers can only see the same wait end differently if it ends at or behind the earlier of the
two horizons (`MessageRelay.Reply.await_agrees`). What follows such a wait is then started there or
later, and this is what `MessageRelay.Poll.Agree` says of a round: the calls in front of the horizon
are the same, and so is what follows, unless it lies behind. The answers are not compared. A call
that is under way at the horizon has none yet for the first observer, and may have one for the
second.
-/

namespace MessageRelay

/-- The calls that were started before an instant: what was asked, and when. -/
def LedgerCall.startedBefore (t : Nat) (calls : List LedgerCall) : List (CallKind × Nat) :=
  (calls.filter fun c => c.start < t).map fun c => (c.kind, c.start)

/-- The calls that a poll has started before an instant. -/
def PollTrace.startedBefore (t : Nat) (poll : PollTrace) : List (CallKind × Nat) :=
  LedgerCall.startedBefore t poll.calls

namespace LedgerCall

variable {t : Nat}

theorem startedBefore_append (calls calls' : List LedgerCall) :
    startedBefore t (calls ++ calls') = startedBefore t calls ++ startedBefore t calls' := by
  rw [startedBefore, List.filter_append, List.map_append]
  rfl

/-- Of a call that is started only its kind and its instant are looked at. -/
theorem startedBefore_cons_congr {c c' : LedgerCall} {calls calls' : List LedgerCall}
    (hkind : c.kind = c'.kind) (hstart : c.start = c'.start)
    (h : startedBefore t calls = startedBefore t calls') :
    startedBefore t (c :: calls) = startedBefore t (c' :: calls') := by
  have hone : startedBefore t [c] = startedBefore t [c'] := by
    by_cases hlt : c.start < t
    · simp [startedBefore, ← hkind, ← hstart, hlt]
    · simp [startedBefore, ← hstart, hlt]
  rw [← List.singleton_append, ← List.singleton_append (l := calls'), startedBefore_append,
    startedBefore_append, hone, h]

/-- Calls that are made later are not among them. -/
theorem startedBefore_of_le {calls : List LedgerCall} (h : ∀ c ∈ calls, t ≤ c.start) :
    startedBefore t calls = [] := by
  rw [startedBefore, List.map_eq_nil_iff, List.filter_eq_nil_iff]
  intro c hc hlt
  exact absurd (h c hc) (Nat.not_le.mpr (of_decide_eq_true hlt))

end LedgerCall

open LedgerCall (startedBefore startedBefore_append startedBefore_cons_congr
  startedBefore_of_le)

/-- **Two observers see the same end of a wait**, unless it is behind the horizon of the first. -/
theorem Reply.await_agrees {α : Type} (reply : Reply α) (start : Nat) (cut : Option Nat)
    {cutoff horizon : Nat} (hle : cutoff ≤ horizon) :
    reply.await start cut cutoff = reply.await start cut horizon ∨
      (reply.await start cut cutoff = .pending ∧
        ∀ t, (reply.await start cut horizon).instant? = some t → cutoff ≤ t) := by
  rw [await_eq reply start cut cutoff, await_eq reply start cut horizon]
  cases hend : (reply.outcome start cut).instant? with
  | none => exact Or.inl rfl
  | some t =>
    rw [Option.any_some, Option.any_some]
    by_cases hlt : t < cutoff
    · left
      rw [if_pos (decide_eq_true hlt), if_pos (decide_eq_true (Nat.lt_of_lt_of_le hlt hle))]
    · right
      rw [if_neg (by rw [decide_eq_true_eq]; exact hlt)]
      refine ⟨rfl, fun t' ht' => ?_⟩
      split at ht'
      · rw [hend] at ht'
        exact Option.some.inj ht' ▸ Nat.not_lt.mp hlt
      · exact nomatch ht'

namespace Poll

variable {ledger : Ledger} {m : Message} {s : Schedule} {horizon cutoff : Nat} {gas : UInt64}
  {attempt : Nat} {slot : Duration} {now : Nat}

/-! ### When the calls of a poll are made -/

/-- What is looked up in a pause is looked up when the pause begins. -/
theorem start_of_pause {t : Nat} {c : LedgerCall}
    (hc : c ∈ (pause ledger m s horizon attempt slot t).1) : c.start = t := by
  unfold pause at hc
  split at hc
  · exact absurd hc List.not_mem_nil
  · exact absurd hc List.not_mem_nil
  · split at hc
    · split at hc <;> rw [List.mem_singleton.mp hc] <;> rfl
    · exact absurd hc List.not_mem_nil

/-- The calls of a round are made when it begins, or later but before the horizon. -/
theorem starts_of_round (hnow : now < horizon) :
    ∀ c ∈ (round ledger m s horizon gas attempt slot now).calls,
      now ≤ c.start ∧ c.start < horizon := by
  rcases round_calls ledger m s horizon gas attempt slot now with
    ⟨answer, hcalls⟩ | ⟨t, hawait, hcalls⟩
  · rw [hcalls]
    exact List.forall_mem_singleton.mpr ⟨Nat.le_refl now, hnow⟩
  · obtain ⟨hle, hlt, -⟩ := Reply.await_bounds (congrArg Awaited.instant? hawait)
    rw [hcalls]
    refine List.forall_mem_cons.mpr ⟨⟨Nat.le_refl now, hnow⟩, fun c hc => ?_⟩
    rw [start_of_pause hc]
    exact ⟨hle, hlt⟩

variable (ledger m s horizon gas attempt slot now) in
/-- **The calls from a query on** are made when it is, or later but before the horizon. -/
theorem starts_of_attempts :
    ∀ c ∈ (attempts ledger m s horizon gas attempt slot now).calls,
      now ≤ c.start ∧ c.start < horizon := by
  induction slot using Schedule.slot_induction s horizon generalizing attempt now with
  | step slot ih =>
    by_cases hguard : now < horizon ∧ slot.millisUp < horizon ∧ s.interval ≠ .zero
    · obtain ⟨hnow, hslot, hi⟩ := hguard
      rcases Nat.lt_or_ge attempt UInt32.size with ha | ha
      · rw [attempts_eq_before_rest hnow hslot hi ha]
        intro c hc
        rcases List.mem_append.mp hc with hc | hc
        · exact starts_of_round hnow c hc
        · have hsequel := round_sequel ledger m s horizon gas attempt slot now
          cases hseq : (round ledger m s horizon gas attempt slot now).sequel with
          | last ending =>
            rw [hseq] at hc
            exact nomatch hc
          | another slot' now' =>
            rw [hseq] at hsequel hc
            obtain ⟨rfl, -, hle, -⟩ := hsequel
            obtain ⟨hlow, hhigh⟩ := ih hslot hi (attempt + 1) now' c hc
            exact ⟨Nat.le_trans hle hlow, hhigh⟩
      · rw [attempts_of_spent hnow hslot hi ha]
        exact nofun
    · rw [attempts_of_unseen hguard]
      exact nofun

/-- **All calls of a poll are made before the horizon.** -/
theorem start_lt_horizon : ∀ c ∈ (observe ledger m s horizon).calls, c.start < horizon := by
  unfold observe
  by_cases hhor : horizon = 0
  · rw [if_pos hhor]
    exact nofun
  by_cases hi : s.interval = .zero
  · rw [if_neg hhor, if_pos hi]
    exact nofun
  by_cases hd : s.deadline = some .zero
  · rw [if_neg hhor, if_neg hi, if_pos hd]
    exact nofun
  have hzero : 0 < horizon := Nat.pos_of_ne_zero hhor
  rw [if_neg hhor, if_neg hi, if_neg hd]
  cases (ledger.estimate m 0).await 0 s.cutOff horizon with
  | pending | died t | cutOff t => exact List.forall_mem_singleton.mpr hzero
  | answered t result =>
    cases result with
    | error e => exact List.forall_mem_singleton.mpr hzero
    | ok cost =>
      exact List.forall_mem_cons.mpr ⟨hzero, fun c hc =>
        (starts_of_attempts ledger m s horizon (paddedGas cost) 1 .zero t c hc).2⟩

/-- **A poll that has ended makes no more calls.** -/
theorem start_le_of_ended {t : Nat} {ending : PollEnding}
    (h : (observe ledger m s horizon).ending = some (t, ending)) :
    ∀ c ∈ (observe ledger m s horizon).calls, c.start ≤ t := by
  rw [← observe_eq_of_lt h (Nat.lt_succ_self t)]
  exact fun c hc => Nat.le_of_lt_succ (start_lt_horizon c hc)

/-! ### Two observers -/

/-- What follows a query lies behind an instant, if there is anything that follows. -/
def Sequel.Beyond (t : Nat) : Sequel → Prop
  | .last _ => True
  | .another _ now => t ≤ now

/-- **Two observers agree on a round**, or on what belongs to one: up to the horizon of the first
they see the same calls, and what follows is the same, or lies behind that horizon for both. -/
structure Agree (cutoff : Nat) (calls : List LedgerCall) (sequel : Sequel)
    (calls' : List LedgerCall) (sequel' : Sequel) : Prop where
  calls : startedBefore cutoff calls = startedBefore cutoff calls'
  sequel : sequel = sequel' ∨ (sequel.Beyond cutoff ∧ sequel'.Beyond cutoff)

variable (ledger m s attempt slot) in
/-- Both observers see the same pause begin. -/
theorem pause_agrees (hle : cutoff ≤ horizon) (t : Nat) :
    Agree cutoff (pause ledger m s cutoff attempt slot t).1
      (pause ledger m s cutoff attempt slot t).2 (pause ledger m s horizon attempt slot t).1
      (pause ledger m s horizon attempt slot t).2 := by
  cases hn : s.nextSlot? slot with
  | none =>
    cases hd : s.cutOff with
    | none =>
      rw [pause_of_no_deadline hn hd, pause_of_no_deadline hn hd]
      exact ⟨rfl, Or.inl rfl⟩
    | some stop =>
      rw [pause_of_deadline hn hd, pause_of_deadline hn hd]
      exact ⟨rfl, Or.inr ⟨trivial, trivial⟩⟩
  | some next =>
    by_cases hone : attempt = 1
    · subst hone
      rw [pause_of_first hn, pause_of_first hn]
      rcases (ledger.finalityTime m t).await_agrees t (some next.millisUp) hle with
        hsame | ⟨hpending, hbehind⟩
      · rw [hsame]
        exact ⟨rfl, Or.inl rfl⟩
      · rw [hpending]
        -- the look-up ends behind the horizon, and the next query is no earlier
        have hbeyond : ∀ {t'},
            ((ledger.finalityTime m t).await t (some next.millisUp) horizon).instant? = some t' →
            cutoff ≤ max next.millisUp t := fun ht' =>
          Nat.le_trans (hbehind _ ht') ((Reply.await_bounds ht').2.2 _ rfl)
        cases ha : (ledger.finalityTime m t).await t (some next.millisUp) horizon with
        | pending => exact ⟨rfl, Or.inl rfl⟩
        | died t' => exact ⟨rfl, Or.inr ⟨trivial, trivial⟩⟩
        | cutOff t' | answered t' result =>
          exact ⟨startedBefore_cons_congr rfl rfl rfl,
            Or.inr ⟨trivial, hbeyond (congrArg Awaited.instant? ha)⟩⟩
    · rw [pause_of_later hn hone, pause_of_later hn hone]
      exact ⟨rfl, Or.inl rfl⟩

variable (ledger m s gas attempt slot now) in
/-- **A round begins with the same query for both observers**, and goes on in the same way until the
horizon of the first. -/
theorem round_agrees (hle : cutoff ≤ horizon) :
    Agree cutoff (round ledger m s cutoff gas attempt slot now).calls
      (round ledger m s cutoff gas attempt slot now).sequel
      (round ledger m s horizon gas attempt slot now).calls
      (round ledger m s horizon gas attempt slot now).sequel := by
  rcases (ledger.check m gas attempt now).await_agrees now s.cutOff hle with
    hsame | ⟨hpending, hbehind⟩
  · cases ha : (ledger.check m gas attempt now).await now s.cutOff horizon with
    | pending | died t | cutOff t =>
      simp only [round, hsame, ha]
      exact ⟨rfl, Or.inl rfl⟩
    | answered t result =>
      rw [ha] at hsame
      rcases result with e | (_ | _)
      · simp only [round, hsame, ha]
        exact ⟨rfl, Or.inl rfl⟩
      · rw [round_of_negative hsame, round_of_negative ha]
        obtain ⟨hcalls, hsequel⟩ := pause_agrees ledger m s attempt slot hle t
        exact ⟨startedBefore_cons_congr rfl rfl hcalls, hsequel⟩
      · simp only [round, hsame, ha]
        exact ⟨rfl, Or.inl rfl⟩
  · -- the answer comes behind the horizon, and whatever follows it comes later still
    have hround : round ledger m s cutoff gas attempt slot now =
        ⟨[.unanswered (.check gas) now], [.pollAttempt], .last none⟩ := by
      simp only [round, hpending]
    rw [hround]
    cases ha : (ledger.check m gas attempt now).await now s.cutOff horizon with
    | pending | died t | cutOff t =>
      simp only [round, ha]
      exact ⟨rfl, Or.inr ⟨trivial, trivial⟩⟩
    | answered t result =>
      have ht : cutoff ≤ t := hbehind t (congrArg Awaited.instant? ha)
      rcases result with e | (_ | _)
      · simp only [round, ha]
        exact ⟨startedBefore_cons_congr rfl rfl rfl, Or.inr ⟨trivial, trivial⟩⟩
      · rw [round_of_negative ha]
        refine ⟨startedBefore_cons_congr rfl rfl ?_, Or.inr ⟨trivial, ?_⟩⟩
        · refine (startedBefore_of_le fun c hc => ?_).symm
          rw [start_of_pause hc]
          exact ht
        · have hpause := pause_sequel ledger m s horizon attempt slot t
          dsimp only
          cases hp : (pause ledger m s horizon attempt slot t).2 with
          | last ending => trivial
          | another slot' now' =>
            rw [hp] at hpause
            obtain ⟨-, rfl, -⟩ := hpause
            exact Nat.le_trans ht (Nat.le_max_right _ _)
      · simp only [round, ha]
        exact ⟨startedBefore_cons_congr rfl rfl rfl, Or.inr ⟨trivial, trivial⟩⟩

/-- Behind an instant nothing is started before it. -/
theorem startedBefore_rest_of_beyond {sequel : Sequel} (h : sequel.Beyond cutoff) :
    startedBefore cutoff (rest ledger m s horizon gas attempt sequel).calls = [] := by
  cases sequel with
  | last ending => rfl
  | another slot' now' =>
    exact startedBefore_of_le fun c hc =>
      Nat.le_trans h (starts_of_attempts ledger m s horizon gas (attempt + 1) slot' now' c hc).1

/-- **From whatever query on, both observers see the same calls started** up to the horizon of the
first. -/
theorem startedBefore_attempts (hle : cutoff ≤ horizon)
    (hs : slot.millisUp ≤ now) :
    startedBefore cutoff (attempts ledger m s cutoff gas attempt slot now).calls =
      startedBefore cutoff (attempts ledger m s horizon gas attempt slot now).calls := by
  induction slot using Schedule.slot_induction s cutoff generalizing attempt now with
  | step slot ih =>
    rcases Nat.lt_or_ge now cutoff with hnow | hlate
    · by_cases hi : s.interval ≠ .zero
      · have hnow' : now < horizon := Nat.lt_of_lt_of_le hnow hle
        have hslot : slot.millisUp < cutoff := Nat.lt_of_le_of_lt hs hnow
        have hslot' : slot.millisUp < horizon := Nat.lt_of_lt_of_le hslot hle
        rcases Nat.lt_or_ge attempt UInt32.size with ha | ha
        · rw [attempts_eq_before_rest hnow hslot hi ha, attempts_eq_before_rest hnow' hslot' hi ha]
          obtain ⟨hcalls, hsequel⟩ :=
            round_agrees ledger m s gas attempt slot now hle
          dsimp only [Round.before]
          rw [startedBefore_append, startedBefore_append, hcalls]
          congr 1
          rcases hsequel with hsame | ⟨hbeyond, hbeyond'⟩
          · rw [hsame]
            have hround := round_sequel ledger m s horizon gas attempt slot now
            cases hseq : (round ledger m s horizon gas attempt slot now).sequel with
            | last ending => rfl
            | another slot' now' =>
              rw [hseq] at hround
              obtain ⟨rfl, hreached, -⟩ := hround
              exact ih hslot hi hreached
          · rw [startedBefore_rest_of_beyond hbeyond, startedBefore_rest_of_beyond hbeyond']
        · rw [attempts_of_spent hnow hslot hi ha, attempts_of_spent hnow' hslot' hi ha]
      · rw [attempts_of_unseen fun h => hi h.2.2, attempts_of_unseen fun h => hi h.2.2]
    · -- all calls are made behind the horizon of the first observer
      have hbehind : ∀ horizon', startedBefore cutoff
          (attempts ledger m s horizon' gas attempt slot now).calls = [] := fun horizon' =>
        startedBefore_of_le fun c hc =>
          Nat.le_trans hlate (starts_of_attempts ledger m s horizon' gas attempt slot now c hc).1
      rw [hbehind cutoff, hbehind horizon]

/-- **A poll that is watched up to a horizon has started the same calls by then** as one that is
watched longer. -/
theorem startedBefore_observe (ledger : Ledger) (m : Message) (s : Schedule)
    (hle : cutoff ≤ horizon) :
    (observe ledger m s cutoff).startedBefore cutoff =
      (observe ledger m s horizon).startedBefore cutoff := by
  unfold PollTrace.startedBefore
  rcases Nat.eq_zero_or_pos cutoff with rfl | hpos
  · rw [startedBefore_of_le fun _ _ => Nat.zero_le _, startedBefore_of_le fun _ _ => Nat.zero_le _]
  have hhor : horizon ≠ 0 := by omega
  unfold observe
  rw [if_neg (Nat.ne_of_gt hpos), if_neg hhor]
  by_cases hi : s.interval = .zero
  · rw [if_pos hi, if_pos hi]
  by_cases hd : s.deadline = some .zero
  · rw [if_neg hi, if_pos hd, if_neg hi, if_pos hd]
  rw [if_neg hi, if_neg hd, if_neg hi, if_neg hd]
  rcases (ledger.estimate m 0).await_agrees 0 s.cutOff hle with hsame | ⟨hpending, hbehind⟩
  · rw [hsame]
    cases ha : (ledger.estimate m 0).await 0 s.cutOff horizon with
    | pending | died t | cutOff t => rfl
    | answered t result =>
      cases result with
      | error e => rfl
      | ok cost =>
        exact startedBefore_cons_congr rfl rfl (startedBefore_attempts hle (Nat.zero_le t))
  · rw [hpending]
    cases ha : (ledger.estimate m 0).await 0 s.cutOff horizon with
    | pending | died t | cutOff t => rfl
    | answered t result =>
      have ht : cutoff ≤ t := hbehind t (congrArg Awaited.instant? ha)
      cases result with
      | error e => exact startedBefore_cons_congr rfl rfl rfl
      | ok cost =>
        refine startedBefore_cons_congr rfl rfl ?_
        rw [startedBefore_of_le fun c hc =>
          Nat.le_trans ht (starts_of_attempts _ _ _ _ _ _ _ _ c hc).1]
        rfl

end Poll

end MessageRelay
