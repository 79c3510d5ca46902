import MessageRelay.Proofs.Relay

/-!
# Relays without the clock

Whether a submission is retried depends on its answer and on the number of retries left, and never
on the instant. So the clock shows in a relay only as the instants of its calls and of its end. Each
kind of thing that has instants has a form without them, in which they are all zero
(`MessageRelay.RelayTrace.untimed` and what it is made of). The main statement is
`MessageRelay.Relay.untimed_submit`: without the clock, a relay is determined by the answers to the
calls that it makes.
-/

namespace MessageRelay

section Forms

variable {α : Type}

/-- A reply without its delay. -/
def Reply.untimed : Reply α → Reply α
  | answer _ result => answer 0 result
  | silence => silence
  | death _ => death 0

/-- An attempt without its instants. -/
def Attempt.untimed (a : Attempt α) : Attempt α :=
  ⟨0, a.answer.map fun answer => (0, answer.2)⟩

/-- The end of attempts without its instant. -/
def AttemptsEnding.untimed : AttemptsEnding α → AttemptsEnding α
  | value _ a => value 0 a
  | failure _ e n => failure 0 e n
  | death _ => death 0
  | stuck => stuck

end Forms

/-- A call without its instants. -/
def LedgerCall.untimed (c : LedgerCall) : LedgerCall :=
  { c with start := 0, answer := c.answer.map fun answer => (0, answer.2) }

/-- The end of a relay without its instant. -/
def RelayEnding.untimed : RelayEnding → RelayEnding
  | result _ r => result 0 r
  | death _ => death 0
  | stuck => stuck

/-- A relay without its instants and without what was counted, which includes how long it took. -/
def RelayTrace.untimed (t : RelayTrace) : RelayTrace :=
  ⟨t.calls.map LedgerCall.untimed, [], t.ending.untimed⟩

/-! ### What a reply without its delay tells -/

section Replies

variable {α : Type} {r r' : Reply α}

theorem Reply.eq_silence_of_untimed (h : r.untimed = r'.untimed) (hr : r = .silence) :
    r' = .silence := by
  subst hr
  cases r' with
  | silence => rfl
  | answer | death => exact nomatch h

theorem Reply.exists_death_of_untimed {delay : Nat} (h : r.untimed = r'.untimed)
    (hr : r = .death delay) : ∃ delay', r' = .death delay' := by
  subst hr
  cases r' with
  | death delay' => exact ⟨delay', rfl⟩
  | answer | silence => exact nomatch h

theorem Reply.exists_answer_of_untimed {delay : Nat} {result : Except LedgerError α}
    (h : r.untimed = r'.untimed) (hr : r = .answer delay result) :
    ∃ delay', r' = .answer delay' result := by
  subst hr
  cases r' with
  | answer delay' result' =>
    obtain ⟨-, rfl⟩ := Reply.answer.inj h
    exact ⟨delay', rfl⟩
  | death | silence => exact nomatch h

end Replies

/-! ### Attempts -/

namespace RetryPolicy

/-- **Attempts depend on the answers only**: if every attempt that is made gets the answer of its
number, the attempts and their end are those that get these answers at other times. -/
theorem untimed_attemptsFrom {α : Type} (p : RetryPolicy)
    (operation : (number start : Nat) → Reply α) (answers : Nat → Reply α)
    (left number now now' : Nat)
    (h : ∀ i a, (p.attemptsFrom operation left number now).1[i]? = some a →
      (operation (number + i) a.start).untimed = (answers (number + i)).untimed) :
    (p.attemptsFrom operation left number now).1.map Attempt.untimed =
        (p.attemptsFrom (fun k _ => answers k) left number now').1.map Attempt.untimed ∧
      (p.attemptsFrom operation left number now).2.untimed =
        (p.attemptsFrom (fun k _ => answers k) left number now').2.untimed := by
  fun_induction attemptsFrom p operation left number now generalizing now' with
  | case1 left number now heq =>
    rw [attemptsFrom_of_silence (Reply.eq_silence_of_untimed (h 0 _ rfl) heq)]
    exact ⟨rfl, rfl⟩
  | case2 left number now delay heq =>
    obtain ⟨delay', hanswer⟩ := Reply.exists_death_of_untimed (h 0 _ rfl) heq
    rw [attemptsFrom_of_death hanswer]
    exact ⟨rfl, rfl⟩
  | case3 left number now delay a heq =>
    obtain ⟨delay', hanswer⟩ := Reply.exists_answer_of_untimed (h 0 _ rfl) heq
    rw [attemptsFrom_of_ok hanswer]
    exact ⟨rfl, rfl⟩
  | case4 number now delay e heq stop this hretry =>
    obtain ⟨delay', hanswer⟩ := Reply.exists_answer_of_untimed (h 0 _ rfl) heq
    rw [attemptsFrom_of_spent hanswer hretry]
    exact ⟨rfl, rfl⟩
  | case5 number now delay e heq stop this hretry left hnone =>
    obtain ⟨delay', hanswer⟩ := Reply.exists_answer_of_untimed (h 0 _ rfl) heq
    rw [attemptsFrom_of_no_backoff hanswer hretry hnone]
    exact ⟨rfl, rfl⟩
  | case6 number now delay e heq stop this hretry left wait hwait attempts ending hrest ih =>
    obtain ⟨delay', hanswer⟩ := Reply.exists_answer_of_untimed (h 0 _ rfl) heq
    rw [attemptsFrom_of_retry hanswer hretry hwait]
    have hlater : ∀ i a, attempts[i]? = some a →
        (operation (number + 1 + i) a.start).untimed = (answers (number + 1 + i)).untimed := by
      intro i a ha
      have := h (i + 1) a ha
      rwa [← Nat.add_assoc, Nat.add_right_comm] at this
    rw [hrest] at ih
    obtain ⟨hattempts, hending⟩ := ih (Clock.wake (now' + delay') wait.millisUp) hlater
    exact ⟨congrArg (this.untimed :: ·) hattempts, hending⟩
  | case7 left number now delay e heq stop this hretry =>
    obtain ⟨delay', hanswer⟩ := Reply.exists_answer_of_untimed (h 0 _ rfl) heq
    rw [attemptsFrom_of_permanent hanswer (Bool.eq_false_iff.mpr hretry)]
    exact ⟨rfl, rfl⟩

end RetryPolicy

/-! ### Relays -/

namespace Relay

theorem untimed_callOfAttempt (a : Attempt DestinationReceipt) :
    (callOfAttempt a).untimed = callOfAttempt a.untimed := by
  obtain ⟨start, _ | ⟨t, result⟩⟩ := a
  · rfl
  · cases result <;> rfl

theorem untimed_ofAttempts (ending : AttemptsEnding DestinationReceipt) :
    (RelayEnding.ofAttempts ending).untimed = .ofAttempts ending.untimed := by
  cases ending <;> rfl

/-- A relay without its instants is made of attempts without theirs. -/
theorem untimed_submit_eq (ledger : Ledger) (p : RetryPolicy) (m : Message) (start : Nat) :
    (submit ledger p m start).untimed =
      ⟨((p.attempts (ledger.submit m) start).1.map Attempt.untimed).map callOfAttempt, [],
        .ofAttempts (p.attempts (ledger.submit m) start).2.untimed⟩ := by
  rw [RelayTrace.untimed, calls_submit, ending_submit, untimed_ofAttempts, List.map_map,
    List.map_map]
  congr 1
  exact List.map_congr_left fun a _ => untimed_callOfAttempt a

/-- **Without the clock, a relay is determined by the answers to the calls that it makes.** -/
theorem untimed_submit {ledger ledger' : Ledger} {p : RetryPolicy} {m : Message} {start : Nat}
    (start' : Nat) {answers : Nat → Reply DestinationReceipt}
    (hcalls : ∀ k call, (submit ledger p m start).calls[k]? = some call →
      (ledger.submit m k call.start).untimed = (answers k).untimed)
    (hanswers : ledger'.submit m = fun k _ => answers k) :
    (submit ledger p m start).untimed = (submit ledger' p m start').untimed := by
  have hattempts : ∀ i a, (p.attempts (ledger.submit m) start).1[i]? = some a →
      (ledger.submit m (0 + i) a.start).untimed = (answers (0 + i)).untimed := by
    intro i a ha
    rw [Nat.zero_add, ← start_callOfAttempt]
    refine hcalls i (callOfAttempt a) ?_
    rw [calls_submit, List.getElem?_map, ha]
    rfl
  obtain ⟨hmap, hending⟩ :=
    p.untimed_attemptsFrom (ledger.submit m) answers p.maxRetries.toNat 0 start start' hattempts
  rw [untimed_submit_eq, untimed_submit_eq, hanswers]
  congr 1
  · exact congrArg _ hmap
  · exact congrArg _ hending

end Relay

end MessageRelay
