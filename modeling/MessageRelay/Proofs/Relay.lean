import MessageRelay.Relay

/-!
# The submissions of one relay

What an attempt is answered says whether there is another one, and there is an equation for each
kind of answer (`MessageRelay.RetryPolicy.attemptsFrom_of_retry` and its like).

What a relay does in time is said once, for attempts at any operation (`MessageRelay.InTurn`): there
is at least one attempt and at most one more than there are retries, the first is made when the
relay starts, and each later one only when the one before it has been answered. If the attempts come
to a result, all of them have been answered by then.

`MessageRelay.RetryPolicy.attemptsFrom_inTurn` proves it by induction along the retries. The rest of
the file carries it over to the calls of a relay, which are the attempts in another dress.
-/

namespace MessageRelay

/-! ### One attempt after the other -/

namespace RetryPolicy

variable {α : Type} {p : RetryPolicy} {operation : (number start : Nat) → Reply α}
  {left number now delay : Nat}

/-- An attempt that is never answered is the last one. -/
theorem attemptsFrom_of_silence (h : operation number now = .silence) :
    p.attemptsFrom operation left number now = ([⟨now, none⟩], .stuck) := by
  rw [attemptsFrom, h]

/-- So is one in which the caller dies. -/
theorem attemptsFrom_of_death (h : operation number now = .death delay) :
    p.attemptsFrom operation left number now = ([⟨now, none⟩], .death (now + delay)) := by
  rw [attemptsFrom, h]

/-- A value settles the matter. -/
theorem attemptsFrom_of_ok {a : α} (h : operation number now = .answer delay (.ok a)) :
    p.attemptsFrom operation left number now =
      ([⟨now, some (now + delay, .ok a)⟩], .value (now + delay) a) := by
  rw [attemptsFrom, h]

section Errors

variable {e : LedgerError}

/-- So does an error that no retry can clear. -/
theorem attemptsFrom_of_permanent (h : operation number now = .answer delay (.error e))
    (he : (ErrorClass.of e).isRetryable = false) :
    p.attemptsFrom operation left number now =
      ([⟨now, some (now + delay, .error e)⟩], .failure (now + delay) e (number + 1)) := by
  rw [attemptsFrom, h]
  dsimp only
  rw [if_neg (by rw [he]; exact Bool.false_ne_true)]

/-- And any error when no retry is left. -/
theorem attemptsFrom_of_spent (h : operation number now = .answer delay (.error e))
    (he : (ErrorClass.of e).isRetryable = true) :
    p.attemptsFrom operation 0 number now =
      ([⟨now, some (now + delay, .error e)⟩], .failure (now + delay) e (number + 1)) := by
  rw [attemptsFrom, h]
  dsimp only
  rw [if_pos he]

/-- The caller dies when there is no backoff. -/
theorem attemptsFrom_of_no_backoff (h : operation number now = .answer delay (.error e))
    (he : (ErrorClass.of e).isRetryable = true) (hnone : p.backoff? (UInt32.ofNat number) = none) :
    p.attemptsFrom operation (left + 1) number now =
      ([⟨now, some (now + delay, .error e)⟩], .death (now + delay)) := by
  rw [attemptsFrom, h]
  dsimp only
  rw [if_pos he, hnone]

/-- Otherwise the next attempt is made behind the backoff. -/
theorem attemptsFrom_of_retry {wait : Duration}
    (h : operation number now = .answer delay (.error e))
    (he : (ErrorClass.of e).isRetryable = true)
    (hwait : p.backoff? (UInt32.ofNat number) = some wait) :
    p.attemptsFrom operation (left + 1) number now =
      (⟨now, some (now + delay, .error e)⟩ ::
          (p.attemptsFrom operation left (number + 1)
            (Clock.wake (now + delay) wait.millisUp)).1,
        (p.attemptsFrom operation left (number + 1)
          (Clock.wake (now + delay) wait.millisUp)).2) := by
  rw [attemptsFrom, h]
  dsimp only
  rw [if_pos he, hwait]

end Errors

end RetryPolicy

/-! ### Attempts in time -/

section Attempts

variable {α : Type}

/-- An attempt has been answered by an instant. -/
def Attempt.AnsweredBy (a : Attempt α) (instant : Nat) : Prop :=
  ∃ t result, a.answer = some (t, result) ∧ t ≤ instant

theorem Attempt.AnsweredBy.mono {a : Attempt α} {t t' : Nat} (h : a.AnsweredBy t) (ht : t ≤ t') :
    a.AnsweredBy t' := by
  obtain ⟨s, result, hs, hle⟩ := h
  exact ⟨s, result, hs, Nat.le_trans hle ht⟩

/-- The instant at which attempts come to a result, be it a value or an error. -/
def AttemptsEnding.resultAt : AttemptsEnding α → Option Nat
  | value t _ => some t
  | failure t _ _ => some t
  | death _ => none
  | stuck => none

/-- **Attempts made in turn**, from an instant on and with so many retries left. -/
structure InTurn (left now : Nat) (attempts : List (Attempt α)) (ending : AttemptsEnding α) :
    Prop where
  /-- The first attempt is made at once, and the retries suffice for the others. -/
  first : ∃ a rest, attempts = a :: rest ∧ a.start = now ∧ rest.length ≤ left
  /-- No attempt is made before. -/
  notBefore : ∀ a ∈ attempts, now ≤ a.start
  /-- Every attempt is answered before a later one is made. -/
  inTurn : attempts.Pairwise fun a b => a.AnsweredBy b.start
  /-- When there is a result, every attempt has been answered. -/
  answered : ∀ t, ending.resultAt = some t → now ≤ t ∧ ∀ a ∈ attempts, a.AnsweredBy t
  /-- The caller does not die before. -/
  dies : ∀ t, ending = .death t → now ≤ t

/-- A single attempt is made in turn if it is answered when there is a result. -/
theorem InTurn.single {left now : Nat} {answer : Option (Nat × Except LedgerError α)}
    {ending : AttemptsEnding α}
    (h : ∀ t, ending.resultAt = some t → now ≤ t ∧ ∃ result, answer = some (t, result))
    (hdies : ∀ t, ending = .death t → now ≤ t) : InTurn left now [⟨now, answer⟩] ending where
  first := ⟨_, [], rfl, rfl, Nat.zero_le left⟩
  notBefore a ha := by
    obtain rfl := List.mem_singleton.mp ha
    exact Nat.le_refl now
  inTurn := List.pairwise_singleton _ _
  answered t ht := by
    obtain ⟨hle, result, rfl⟩ := h t ht
    refine ⟨hle, fun a ha => ?_⟩
    rw [List.mem_singleton.mp ha]
    exact ⟨t, result, rfl, Nat.le_refl t⟩
  dies := hdies

/-- An answered attempt may stand in front of attempts that are made later. -/
theorem InTurn.cons {left now stop next : Nat} {result : Except LedgerError α}
    {attempts : List (Attempt α)} {ending : AttemptsEnding α} (hstop : now ≤ stop)
    (hnext : stop ≤ next) (h : InTurn left next attempts ending) :
    InTurn (left + 1) now (⟨now, some (stop, result)⟩ :: attempts) ending where
  first := by
    obtain ⟨a, rest, rfl, -, hlen⟩ := h.first
    exact ⟨_, _, rfl, rfl, Nat.succ_le_succ hlen⟩
  notBefore a ha := by
    rcases List.mem_cons.mp ha with rfl | ha
    · exact Nat.le_refl now
    · exact Nat.le_trans (Nat.le_trans hstop hnext) (h.notBefore a ha)
  inTurn := by
    refine List.pairwise_cons.mpr ⟨fun b hb => ?_, h.inTurn⟩
    exact ⟨stop, result, rfl, Nat.le_trans hnext (h.notBefore b hb)⟩
  answered t ht := by
    obtain ⟨hle, hall⟩ := h.answered t ht
    refine ⟨Nat.le_trans (Nat.le_trans hstop hnext) hle, fun a ha => ?_⟩
    rcases List.mem_cons.mp ha with rfl | ha
    · exact ⟨stop, result, rfl, Nat.le_trans hnext hle⟩
    · exact hall a ha
  dies t ht := Nat.le_trans (Nat.le_trans hstop hnext) (h.dies t ht)

/-- A sleep does not end before it starts. -/
theorem Clock.le_wake (start time : Nat) : start ≤ Clock.wake start time := by
  rw [Clock.wake, Clock.after?]
  split
  · exact Nat.le_add_right start time
  · exact Nat.le_add_right start farFuture

namespace RetryPolicy

/-- **All attempts are made in turn.** -/
theorem attemptsFrom_inTurn (p : RetryPolicy) (operation : (number start : Nat) → Reply α)
    (left number now : Nat) :
    InTurn left now (p.attemptsFrom operation left number now).1
      (p.attemptsFrom operation left number now).2 := by
  -- along the retries: all cases but one end the attempts, and that one puts an attempt in front
  fun_induction attemptsFrom p operation left number now with
  | case1 => exact InTurn.single nofun nofun
  | case2 left number now delay =>
    refine InTurn.single nofun fun t ht => ?_
    obtain rfl : now + delay = t := AttemptsEnding.death.inj ht
    exact Nat.le_add_right now delay
  | case3 left number now delay a =>
    refine InTurn.single (fun t ht => ?_) nofun
    obtain rfl : now + delay = t := Option.some.inj ht
    exact ⟨Nat.le_add_right now delay, _, rfl⟩
  | case4 number now delay e _ stop | case7 left number now delay e _ stop =>
    refine InTurn.single (fun t ht => ?_) nofun
    obtain rfl : stop = t := Option.some.inj ht
    exact ⟨Nat.le_add_right now delay, _, rfl⟩
  | case5 number now delay e _ stop =>
    refine InTurn.single nofun fun t ht => ?_
    obtain rfl : stop = t := AttemptsEnding.death.inj ht
    exact Nat.le_add_right now delay
  | case6 number now delay e _ stop this _ left wait _ attempts ending heq ih =>
    rw [heq] at ih
    exact InTurn.cons (Nat.le_add_right now delay) (Clock.le_wake stop _) ih

/-- **Attempts do not die** if neither the operation dies nor a backoff is missing. -/
theorem attemptsFrom_ne_death (p : RetryPolicy) (operation : (number start : Nat) → Reply α)
    (hop : ∀ k start delay, operation k start ≠ .death delay) (left number now : Nat)
    (hback : ∀ k, number ≤ k → k < number + left → p.backoff? (UInt32.ofNat k) ≠ none) (t : Nat) :
    (p.attemptsFrom operation left number now).2 ≠ .death t := by
  -- only an operation that dies and a missing backoff lead to a death
  fun_induction attemptsFrom p operation left number now with
  | case1 | case3 | case4 | case7 => exact fun h => nomatch h
  | case2 left number now delay h => exact absurd h (hop number now delay)
  | case5 number now delay e _ stop this _ left hnone =>
    exact absurd hnone (hback number (Nat.le_refl number) (by omega))
  | case6 number now delay e _ stop this _ left wait _ attempts ending heq ih =>
    rw [heq] at ih
    exact ih fun k hk hlt => hback k (by omega) (by omega)

end RetryPolicy

end Attempts

/-! ### The calls of a relay -/

/-- A call has been answered by an instant. -/
def LedgerCall.AnsweredBy (c : LedgerCall) (instant : Nat) : Prop :=
  ∃ t answer, c.answer = some (t, answer) ∧ t ≤ instant

theorem LedgerCall.AnsweredBy.mono {c : LedgerCall} {t t' : Nat} (h : c.AnsweredBy t)
    (ht : t ≤ t') : c.AnsweredBy t' := by
  obtain ⟨s, answer, hs, hle⟩ := h
  exact ⟨s, answer, hs, Nat.le_trans hle ht⟩

/-- How a relay ends when its attempts do. -/
def RelayEnding.ofAttempts : AttemptsEnding DestinationReceipt → RelayEnding
  | .stuck => stuck
  | .death t => death t
  | .failure t e n => result t (.error (.submission n e))
  | .value t receipt =>
    result t (if receipt.status = successStatus then .ok receipt.transaction
              else .error (.reverted receipt.transaction receipt.status))

namespace Relay

theorem start_callOfAttempt (a : Attempt DestinationReceipt) :
    (callOfAttempt a).start = a.start := by
  rw [callOfAttempt]
  split <;> rfl

theorem kind_callOfAttempt (a : Attempt DestinationReceipt) : (callOfAttempt a).kind = .submit := by
  rw [callOfAttempt]
  split <;> rfl

theorem answeredBy_callOfAttempt {a : Attempt DestinationReceipt} {t : Nat} (h : a.AnsweredBy t) :
    (callOfAttempt a).AnsweredBy t := by
  obtain ⟨s, result, hs, hle⟩ := h
  rw [callOfAttempt, hs]
  exact ⟨s, _, rfl, hle⟩

variable (ledger : Ledger) (p : RetryPolicy) (m : Message) (start : Nat)

/-- The calls of a relay are its attempts. -/
theorem calls_submit :
    (submit ledger p m start).calls =
      (p.attempts (ledger.submit m) start).1.map callOfAttempt := by
  unfold submit
  split
  next attempts ending heq =>
    rw [heq]
    cases ending <;> rfl

/-- A relay ends as its attempts do. -/
theorem ending_submit :
    (submit ledger p m start).ending =
      .ofAttempts (p.attempts (ledger.submit m) start).2 := by
  unfold submit
  split
  next attempts ending heq =>
    rw [heq]
    cases ending <;> rfl

/-- A relay comes to a result when its attempts do. -/
theorem resultAt_of_submit {t : Nat} {result : Except RelayError Hash}
    (h : (submit ledger p m start).ending = .result t result) :
    (p.attempts (ledger.submit m) start).2.resultAt = some t := by
  rw [ending_submit] at h
  cases hend : (p.attempts (ledger.submit m) start).2 with
  | stuck | death =>
    rw [hend] at h
    exact nomatch h
  | value s receipt | failure s e n =>
    rw [hend, RelayEnding.ofAttempts, RelayEnding.result.injEq] at h
    exact congrArg some h.1

/-- A relay dies when its attempts do. -/
theorem death_of_submit {t : Nat} (h : (submit ledger p m start).ending = .death t) :
    (p.attempts (ledger.submit m) start).2 = .death t := by
  rw [ending_submit] at h
  cases hend : (p.attempts (ledger.submit m) start).2 with
  | stuck | value | failure =>
    rw [hend] at h
    exact nomatch h
  | death s =>
    rw [hend] at h
    rw [RelayEnding.death.inj h]

/-- A relay does not die before it starts. -/
theorem le_of_submit_death {t : Nat} (h : (submit ledger p m start).ending = .death t) :
    start ≤ t :=
  (p.attemptsFrom_inTurn (ledger.submit m) p.maxRetries.toNat 0 start).dies t
    (death_of_submit ledger p m start h)

/-- **A relay makes its first call at once**, and as many more as there are retries at most. -/
theorem submit_first :
    ∃ first rest, (submit ledger p m start).calls = first :: rest ∧ first.start = start ∧
      rest.length ≤ p.maxRetries.toNat := by
  obtain ⟨a, rest, h, hstart, hlen⟩ :=
    (p.attemptsFrom_inTurn (ledger.submit m) p.maxRetries.toNat 0 start).first
  refine ⟨callOfAttempt a, rest.map callOfAttempt, ?_, ?_, ?_⟩
  · rw [calls_submit, RetryPolicy.attempts, h, List.map_cons]
  · rw [start_callOfAttempt, hstart]
  · rw [List.length_map]
    exact hlen

/-- The calls of a relay are submissions, and none is made before the relay starts. -/
theorem submit_call {c : LedgerCall} (hc : c ∈ (submit ledger p m start).calls) :
    c.kind = .submit ∧ start ≤ c.start := by
  rw [calls_submit] at hc
  obtain ⟨a, ha, rfl⟩ := List.mem_map.mp hc
  rw [kind_callOfAttempt, start_callOfAttempt]
  exact ⟨rfl, (p.attemptsFrom_inTurn _ _ _ _).notBefore a ha⟩

/-- **The calls of a relay do not overlap.** -/
theorem submit_inTurn :
    (submit ledger p m start).calls.Pairwise fun a b => a.AnsweredBy b.start := by
  rw [calls_submit]
  refine List.pairwise_map.mpr
    ((p.attemptsFrom_inTurn (ledger.submit m) p.maxRetries.toNat 0 start).inTurn.imp fun h => ?_)
  rw [start_callOfAttempt]
  exact answeredBy_callOfAttempt h

/-- **All calls of a relay are answered** when it comes to a result. -/
theorem submit_answered {t : Nat} {result : Except RelayError Hash}
    (h : (submit ledger p m start).ending = .result t result) :
    start ≤ t ∧ ∀ c ∈ (submit ledger p m start).calls, c.AnsweredBy t := by
  obtain ⟨hle, hall⟩ :=
    (p.attemptsFrom_inTurn (ledger.submit m) p.maxRetries.toNat 0 start).answered t
      (resultAt_of_submit ledger p m start h)
  refine ⟨hle, fun c hc => ?_⟩
  rw [calls_submit] at hc
  obtain ⟨a, ha, rfl⟩ := List.mem_map.mp hc
  exact answeredBy_callOfAttempt (hall a ha)

/-- **A relay does not die** if neither a submission dies nor a backoff is missing. -/
theorem submit_ne_death (hsubmit : ∀ k start delay, ledger.submit m k start ≠ .death delay)
    (hback : ∀ k < p.maxRetries.toNat, p.backoff? (UInt32.ofNat k) ≠ none) (t : Nat) :
    (submit ledger p m start).ending ≠ .death t := by
  intro h
  refine p.attemptsFrom_ne_death (ledger.submit m) hsubmit p.maxRetries.toNat 0 start ?_ t
    (death_of_submit ledger p m start h)
  intro k _ hk
  exact hback k (by omega)

end Relay

end MessageRelay
