import MessageRelay.Proofs.Poll.Lookup

/-!
# What a poll can come to

Every result has a reason (`MessageRelay.Poll.ComesTo`). A poll fails with an error that the ledger
answered with, and with that very error; it refuses to start if there would be no time between two
queries, and it runs out of time when its deadline has passed. So what the schedule has no reason
for does not happen: if there is time between two queries, the poll does not refuse, and it runs out
of time only where there is a deadline, and not before that
(`MessageRelay.Poll.admits_of_observe`).

Both waits that are cut off are cut off at the deadline or behind it: the one for an answer
(`MessageRelay.Reply.cutOff_bound`), and the pause behind the last slot.
-/

namespace MessageRelay

/-- A wait is cut off at its cut-off or behind it, so there is one. -/
theorem Reply.cutOff_bound {α : Type} {reply : Reply α} {start t horizon : Nat} {cut : Option Nat}
    (h : reply.await start cut horizon = .cutOff t) : ∃ c, cut = some c ∧ c ≤ t := by
  cases cut with
  | some c => exact ⟨c, rfl, (instant_of_cutOff h).symm ▸ Nat.le_max_left c start⟩
  | none =>
    have hseen : reply.await start none horizon ≠ .pending := by
      rw [h]
      simp
    have houtcome : reply.outcome start none = .cutOff t := by
      rw [← await_eq_outcome_of_seen hseen, h]
    cases reply <;> cases houtcome

/-- Only a poll that refuses to start says that there would be no time between two queries. -/
theorem PollError.message_ne {e : PollError} (h : e ≠ .zeroInterval) :
    e.message ≠ PollError.zeroInterval.message := by
  -- the other two say "finality" first
  have hfront : ∀ {front back : String}, front.toList.head? = some 'f' →
      (front ++ back).toList.head? = some 'f' := by
    intro front back h
    rw [String.toList_append, List.head?_append, h, Option.some_or]
  have hhead : e.message.toList.head? = some 'f' := by
    cases e with
    | zeroInterval => exact absurd rfl h
    | estimate source => exact hfront (by decide)
    | query attempt source => exact hfront (hfront (hfront (by decide)))
  intro heq
  rw [heq] at hhead
  exact absurd hhead (by decide)

namespace Schedule

/-- A result that a poll on a schedule with time between its slots can come to. -/
def Admits (s : Schedule) : PollResult → Prop
  | .finalized _ => True
  | .timedOut _ elapsed => ∃ deadline, s.deadline = some deadline ∧ deadline ≤ .ofMillis elapsed
  | .failed e => e ≠ .zeroInterval

end Schedule

namespace Poll

/-- **The results that a poll can come to**, each one with its reason. -/
inductive ComesTo (ledger : Ledger) (m : Message) (s : Schedule) : PollResult → Prop where
  /-- The message is final. -/
  | finalized (f : FinalizedMessage) : ComesTo ledger m s (.finalized f)
  /-- The deadline has passed. -/
  | timedOut {attempts : UInt32} {elapsed : Nat} {deadline : Duration} :
      s.deadline = some deadline → deadline ≤ .ofMillis elapsed →
      ComesTo ledger m s (.timedOut attempts elapsed)
  /-- The ledger does not say what a query costs. -/
  | estimate {start t : Nat} {e : LedgerError} :
      (ledger.estimate m start).Arrives start t (.error e) →
      ComesTo ledger m s (.failed (.estimate e))
  /-- The ledger answers a query with an error. -/
  | query {gas : UInt64} {k start t : Nat} {e : LedgerError} :
      (ledger.check m gas k start).Arrives start t (.error e) →
      ComesTo ledger m s (.failed (.query (UInt32.ofNat k) e))
  /-- There is no time between two queries. -/
  | zeroInterval : s.interval = .zero → ComesTo ledger m s (.failed .zeroInterval)

variable {ledger : Ledger} {m : Message} {s : Schedule} {horizon : Nat} {gas : UInt64}
  {attempt : Nat} {slot : Duration} {now : Nat}

/-- If the poll has come to a result, there is a reason for it. -/
def EndsWell (ledger : Ledger) (m : Message) (s : Schedule) (ending : Option (Nat × PollEnding)) :
    Prop :=
  ∀ t r, ending = some (t, .result r) → ComesTo ledger m s r

theorem EndsWell.none : EndsWell ledger m s none :=
  fun _ _ h => nomatch h

theorem EndsWell.death (t : Nat) : EndsWell ledger m s (some (t, .death)) :=
  fun _ _ h => nomatch h

theorem EndsWell.of_result {t : Nat} {r : PollResult} (h : ComesTo ledger m s r) :
    EndsWell ledger m s (some (t, .result r)) := by
  rintro t' r' ⟨⟩
  exact h

/-- Running out of time takes until the timer of the deadline goes off. -/
theorem EndsWell.of_stop {t stop : Nat} {attempts : UInt32} (hd : s.cutOff = some stop)
    (hle : stop ≤ t) : EndsWell ledger m s (some (t, .result (.timedOut attempts t))) := by
  obtain ⟨deadline, hdeadline, rfl⟩ := Option.map_eq_some_iff.mp hd
  exact .of_result (.timedOut hdeadline (Duration.le_ofMillis_iff.mpr hle))

/-- A wait that is cut off is cut off by the deadline. -/
theorem EndsWell.of_cutOff {α : Type} {reply : Reply α} {start t : Nat} {attempts : UInt32}
    (h : reply.await start s.cutOff horizon = .cutOff t) :
    EndsWell ledger m s (some (t, .result (.timedOut attempts t))) := by
  obtain ⟨stop, hd, hle⟩ := Reply.cutOff_bound h
  exact .of_stop hd hle

/-- Behind the last slot time runs out at the deadline. -/
theorem pause_endsWell {t : Nat} {ending : Option (Nat × PollEnding)}
    (h : (pause ledger m s horizon attempt slot t).2 = .last ending) :
    EndsWell ledger m s ending := by
  cases hn : s.nextSlot? slot with
  | none =>
    cases hd : s.cutOff with
    | none =>
      rw [pause_of_no_deadline hn hd] at h
      cases h
      exact .none
    | some stop =>
      rw [pause_of_deadline hn hd] at h
      cases h
      split
      · exact .of_stop hd (Nat.le_max_left stop t)
      · exact .none
  | some next =>
    by_cases hone : attempt = 1
    · subst hone
      rw [pause_of_first hn] at h
      cases ha : (ledger.finalityTime m t).await t (some next.millisUp) horizon with
      | pending =>
        rw [ha] at h
        cases h
        exact .none
      | died t' =>
        rw [ha] at h
        cases h
        exact .death t'
      | cutOff t' | answered t' result =>
        rw [ha] at h
        cases h
    · rw [pause_of_later hn hone] at h
      cases h

theorem round_endsWell {ending : Option (Nat × PollEnding)}
    (h : (round ledger m s horizon gas attempt slot now).sequel = .last ending) :
    EndsWell ledger m s ending := by
  cases ha : (ledger.check m gas attempt now).await now s.cutOff horizon with
  | pending =>
    simp only [round, ha] at h
    cases h
    exact .none
  | died t =>
    simp only [round, ha] at h
    cases h
    exact .death t
  | cutOff t =>
    simp only [round, ha] at h
    cases h
    exact .of_cutOff ha
  | answered t result =>
    rcases result with e | (_ | _)
    · simp only [round, ha] at h
      cases h
      exact .of_result (.query (Reply.await_eq_answered_iff.mp ha).1)
    · rw [round_of_negative ha] at h
      exact pause_endsWell h
    · simp only [round, ha] at h
      cases h
      exact .of_result (.finalized _)

theorem attempts_endsWell :
    EndsWell ledger m s (attempts ledger m s horizon gas attempt slot now).ending := by
  refine attempts_induction (P := fun poll => EndsWell ledger m s poll.ending) .none .death ?_ ?_
  · intro attempt slot now ending hseq
    exact round_endsWell hseq
  · intro attempt slot now slot' now' rest _ hrest
    exact hrest

/-- **There is a reason for every result of a poll.** -/
theorem comesTo_of_observe {t : Nat} {r : PollResult}
    (h : (observe ledger m s horizon).ending = some (t, .result r)) : ComesTo ledger m s r := by
  have hwell : EndsWell ledger m s (observe ledger m s horizon).ending := by
    rw [observe]
    split
    · exact .none
    split
    next hi => exact .of_result (.zeroInterval hi)
    split
    next hd => exact .of_stop (Schedule.cutOff_of_deadline hd) (Nat.le_refl 0)
    cases ha : (ledger.estimate m 0).await 0 s.cutOff horizon with
    | pending => exact .none
    | died t => exact .death t
    | cutOff t => exact .of_cutOff ha
    | answered t result =>
      cases result with
      | error e => exact .of_result (.estimate (Reply.await_eq_answered_iff.mp ha).1)
      | ok cost => exact attempts_endsWell
  exact hwell t r h

/-- **What a poll can come to** if there is time between two queries: it does not refuse, and it
runs out of time only when there is a deadline, and not before that. -/
theorem admits_of_observe (hi : s.interval ≠ .zero) {t : Nat} {r : PollResult}
    (h : (observe ledger m s horizon).ending = some (t, .result r)) : s.Admits r := by
  cases comesTo_of_observe h with
  | finalized => trivial
  | timedOut hd hle => exact ⟨_, hd, hle⟩
  | estimate | query => exact PollError.noConfusion
  | zeroInterval hzero => exact absurd hzero hi

end Poll

end MessageRelay
