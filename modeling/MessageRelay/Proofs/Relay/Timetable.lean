import Mathlib.Order.Bounds.Defs
import MessageRelay.Proofs.Relay.Answers

/-!
# The timetable of a relay

When an attempt is made hangs on the attempt before it alone: it is made when that one has been
answered and the backoff has passed. So the replies of an operation fix an instant for every
attempt, whether it comes to it or not (`MessageRelay.RetryPolicy.startOf`), and the attempts that
are made are those of this timetable up to the first one behind which there is none
(`MessageRelay.RetryPolicy.exists_timetable`, by induction over the retries that are left).

For a relay, `MessageRelay.Relay.submit_exact` says which submission that is, and what the relay
comes to by it. A backoff is not waited for to the nanosecond: the clock counts whole milliseconds,
and a wait whose end is no instant takes thirty years (`MessageRelay.Clock.elapsed`,
`MessageRelay.RetryPolicy.wait_inexact`).
-/

namespace MessageRelay

/-- How much time passes in a wait that starts at an instant: as many whole milliseconds as it takes
for the wait to be over, or thirty years if its end cannot be represented. -/
def Clock.elapsed (start : Nat) (wait : Duration) : Nat :=
  if start + wait.millisUp < limit then wait.millisUp else farFuture

theorem Clock.wake_millisUp (start : Nat) (wait : Duration) :
    wake start wait.millisUp = start + elapsed start wait := by
  rw [wake, after?, elapsed]
  split
  next => rw [Option.getD_some]
  next => rw [Option.getD_none]

/-- A wait of whole milliseconds takes exactly as long as it is meant to if its end is an instant.
-/
theorem Clock.elapsed_ofMillis {start ms : Nat} (h : start + ms < limit) :
    elapsed start (.ofMillis ms) = ms := by
  rw [elapsed, Duration.millisUp_ofMillis, if_pos h]

/-- Every class may clear but one. -/
theorem ErrorClass.isRetryable_iff {c : ErrorClass} : c.isRetryable = true ↔ c ≠ .permanent := by
  cases c <;> simp [isRetryable]

/-! ### Attempts by the timetable -/

namespace RetryPolicy

section Attempts

variable {α : Type} (p : RetryPolicy) (operation : (number start : Nat) → Reply α)

/-- When the attempt behind the one that is made at `now` is made, if there is one. -/
def nextStart (number now : Nat) : Nat :=
  match operation number now, p.backoff? (UInt32.ofNat number) with
  | .answer delay _, some wait => now + delay + Clock.elapsed (now + delay) wait
  | _, _ => now

/-- **The timetable**: when the attempt with a given number is made, if it comes to it. -/
def startOf (start : Nat) : (number : Nat) → Nat
  | 0 => start
  | number + 1 => p.nextStart operation number (startOf start number)

variable {p operation} {left number now start : Nat}

theorem startOf_succ :
    p.startOf operation start (number + 1) =
      p.nextStart operation number (p.startOf operation start number) := rfl

theorem nextStart_of_error {delay : Nat} {result : Except LedgerError α} {wait : Duration}
    (hop : operation number now = .answer delay result)
    (hwait : p.backoff? (UInt32.ofNat number) = some wait) :
    p.nextStart operation number now = now + delay + Clock.elapsed (now + delay) wait := by
  rw [nextStart, hop, hwait]

/-- Behind an attempt that is to be made again come the others, from the next instant on. -/
theorem attemptsFrom_nextStart (h : p.GoesOn left number (attempt operation number now)) :
    p.attemptsFrom operation left number now =
      (attempt operation number now ::
          (p.attemptsFrom operation (left - 1) (number + 1) (p.nextStart operation number now)).1,
        (p.attemptsFrom operation (left - 1) (number + 1)
          (p.nextStart operation number now)).2) := by
  obtain ⟨delay, e, hop, he⟩ := h.exists_error
  obtain ⟨left, rfl⟩ := Nat.exists_eq_succ_of_ne_zero (Nat.ne_of_gt h.left)
  obtain ⟨wait, hwait⟩ := Option.ne_none_iff_exists'.mp h.backoff
  rw [attemptsFrom_of_retry hop he hwait, nextStart_of_error hop hwait, Clock.wake_millisUp,
    attempt, hop]
  rfl

variable (p operation left number start) in
/-- **All attempts are made by the timetable**: they are those up to the first one that is not to be
made again, and they end as that one does. -/
theorem exists_timetable : ∃ n ≤ left,
    (∀ i < n, p.GoesOn (left - i) (number + i)
      (attempt operation (number + i) (p.startOf operation start (number + i)))) ∧
    ¬ p.GoesOn (left - n) (number + n)
      (attempt operation (number + n) (p.startOf operation start (number + n))) ∧
    p.attemptsFrom operation left number (p.startOf operation start number) =
      ((List.range' number (n + 1)).map fun k =>
          attempt operation k (p.startOf operation start k),
        (p.attemptsFrom operation (left - n) (number + n)
          (p.startOf operation start (number + n))).2) := by
  revert number
  induction left with
  | zero =>
    intro number
    have hnot : ¬ p.GoesOn 0 number
        (attempt operation number (p.startOf operation start number)) :=
      fun h => Nat.lt_irrefl 0 h.left
    refine ⟨0, Nat.le_refl 0, fun i hi => absurd hi (Nat.not_lt_zero i), hnot, ?_⟩
    exact Prod.ext (attemptsFrom_of_not_goesOn hnot) rfl
  | succ left ih =>
    intro number
    by_cases hgoes : p.GoesOn (left + 1) number
        (attempt operation number (p.startOf operation start number))
    · obtain ⟨n, hn, hbefore, hlast, hattempts⟩ := ih (number + 1)
      have hindex : ∀ i, number + 1 + i = number + (i + 1) := fun i => by omega
      have hleft : ∀ i, left + 1 - (i + 1) = left - i := fun i => by omega
      simp only [hindex] at hbefore hlast hattempts
      refine ⟨n + 1, Nat.succ_le_succ hn, fun i hi => ?_, ?_, ?_⟩
      · cases i with
        | zero => exact hgoes
        | succ i =>
          rw [hleft]
          exact hbefore i (Nat.lt_of_succ_lt_succ hi)
      · rw [hleft]
        exact hlast
      · rw [attemptsFrom_nextStart hgoes, ← startOf_succ, Nat.add_sub_cancel, hattempts, hleft]
        rfl
    · refine ⟨0, Nat.zero_le _, fun i hi => absurd hi (Nat.not_lt_zero i), hgoes, ?_⟩
      exact Prod.ext (attemptsFrom_of_not_goesOn hgoes) rfl

end Attempts

/-- **A submission behind which there is none**: it is answered with a receipt or with an error that
no retry can clear, no retry is left, or it is never answered. Numbers are counted from zero on. -/
def IsLast (p : RetryPolicy) (number : Nat) : Reply DestinationReceipt → Prop
  | .answer _ (.ok _) => True
  | .answer _ (.error e) => ErrorClass.of e = .permanent ∨ number = p.maxRetries.toNat
  | .silence | .death _ => True

variable {p : RetryPolicy} {operation : (number start : Nat) → Reply DestinationReceipt}

/-- Where no backoff is missing, the last submission is the one that is not to be made again. -/
theorem goesOn_iff {number now : Nat} (hle : number ≤ p.maxRetries.toNat)
    (hback : ∀ k < p.maxRetries.toNat, p.backoff? (UInt32.ofNat k) ≠ none) :
    p.GoesOn (p.maxRetries.toNat - number) number (attempt operation number now) ↔
      ¬ p.IsLast number (operation number now) := by
  constructor
  · intro hgoes hlast
    obtain ⟨delay, e, hop, he⟩ := hgoes.exists_error
    have hleft := hgoes.left
    rw [hop] at hlast
    rcases hlast with hpermanent | hspent
    · exact ErrorClass.isRetryable_iff.mp he hpermanent
    · omega
  · intro hlast
    rw [attempt]
    cases hop : operation number now with
    | silence | death delay =>
      rw [hop] at hlast
      exact absurd trivial hlast
    | answer delay result =>
      rw [hop] at hlast
      cases result with
      | ok receipt => exact absurd trivial hlast
      | error e =>
        obtain ⟨hpermanent, hspent⟩ := not_or.mp hlast
        have hlt : number < p.maxRetries.toNat := Nat.lt_of_le_of_ne hle hspent
        exact ⟨Nat.sub_pos_of_lt hlt, hback number hlt, now + delay, e, rfl,
          ErrorClass.isRetryable_iff.mpr hpermanent⟩

end RetryPolicy

namespace Relay

open RetryPolicy

/-- The submission with a given number that is made at `now`, as a call. -/
def callAt (ledger : Ledger) (m : Message) (number now : Nat) : LedgerCall :=
  match ledger.submit m number now with
  | .answer delay result => .answered .submit now (now + delay) .receipt result
  | .silence | .death _ => .unanswered .submit now

theorem callOfAttempt_attempt (ledger : Ledger) (m : Message) (number now : Nat) :
    callOfAttempt (attempt (ledger.submit m) number now) = callAt ledger m number now := by
  rw [callAt, attempt]
  cases ledger.submit m number now <;> rfl

/-- What a relay comes to with its last submission, of a given number and made at `now`. -/
def endingAt (number now : Nat) : Reply DestinationReceipt → RelayEnding
  | .answer delay (.ok receipt) =>
    .result (now + delay) (if receipt.status = successStatus then .ok receipt.transaction
      else .error (.reverted receipt.transaction receipt.status))
  | .answer delay (.error e) => .result (now + delay) (.error (.submission (number + 1) e))
  | .silence => .stuck
  | .death delay => .death (now + delay)

/-- A relay ends with its last submission. -/
theorem ofAttempts_of_isLast {p : RetryPolicy} {operation : Nat → Nat → Reply DestinationReceipt}
    {number now : Nat} (hlast : p.IsLast number (operation number now)) :
    RelayEnding.ofAttempts
        (p.attemptsFrom operation (p.maxRetries.toNat - number) number now).2 =
      endingAt number now (operation number now) := by
  cases hop : operation number now with
  | silence => rw [attemptsFrom_of_silence hop]; rfl
  | death delay => rw [attemptsFrom_of_death hop]; rfl
  | answer delay result =>
    cases result with
    | ok receipt => rw [attemptsFrom_of_ok hop]; rfl
    | error e =>
      cases he : (ErrorClass.of e).isRetryable with
      | false => rw [attemptsFrom_of_permanent hop he]; rfl
      | true =>
        -- an error that may clear is the last one only if no retry is left
        rw [hop] at hlast
        obtain rfl : number = p.maxRetries.toNat :=
          hlast.resolve_left (ErrorClass.isRetryable_iff.mp he)
        rw [Nat.sub_self, attemptsFrom_of_spent hop he]
        rfl

/-- **What a relay does**, for every ledger and every policy whose retries can be counted and whose
backoffs exist. Its submissions are those of the timetable up to the first one behind which there is
none: the first that is answered with a receipt or with a permanent error, the last that the policy
allows, or one that is never answered. Between two of them the backoff passes on the clock, exactly
if it is a number of milliseconds and its end an instant, and nothing behind the last one. The relay
comes to what that one is answered: to the transaction of a receipt with the successful status, to
the transaction and the status of another receipt, or to the error along with the number of
submissions. -/
theorem submit_exact (ledger : Ledger) (p : RetryPolicy) (m : Message) (start : Nat)
    (hmax : p.maxRetries.toNat < UInt32.size - 1)
    (hback : ∀ k < p.maxRetries.toNat, p.backoff? (UInt32.ofNat k) ≠ none) :
    let startOf := p.startOf (ledger.submit m) start
    ∃ n, IsLeast {k | p.IsLast k (ledger.submit m k (startOf k))} n ∧
      n ≤ p.maxRetries.toNat ∧ n + 1 < UInt32.size ∧
      (submit ledger p m start).calls =
        (List.range (n + 1)).map (fun k => callAt ledger m k (startOf k)) ∧
      startOf 0 = start ∧
      (∀ k < n, ∃ delay e wait, ledger.submit m k (startOf k) = .answer delay (.error e) ∧
        p.backoff? (UInt32.ofNat k) = some wait ∧
        startOf (k + 1) = startOf k + delay + Clock.elapsed (startOf k + delay) wait ∧
        ∀ ms, wait = .ofMillis ms → startOf k + delay + ms < Clock.limit →
          startOf (k + 1) = startOf k + delay + ms) ∧
      (submit ledger p m start).ending =
        endingAt n (startOf n) (ledger.submit m n (startOf n)) := by
  intro startOf
  obtain ⟨n, hn, hbefore, hlast, hattempts⟩ :=
    p.exists_timetable (ledger.submit m) p.maxRetries.toNat 0 start
  simp only [Nat.zero_add] at hbefore hlast hattempts
  change p.attempts (ledger.submit m) start = _ at hattempts
  have hlast' : p.IsLast n (ledger.submit m n (startOf n)) :=
    Classical.byContradiction fun h => hlast ((goesOn_iff hn hback).mpr h)
  refine ⟨n, ⟨hlast', fun k hk => ?least⟩, hn, by omega, ?calls, rfl, fun k hk => ?waits, ?ending⟩
  case least =>
    refine Nat.le_of_not_lt fun hlt => ?_
    exact (goesOn_iff (Nat.le_trans (Nat.le_of_lt hlt) hn) hback).mp (hbefore k hlt) hk
  case calls =>
    rw [calls_submit, hattempts, List.map_map, List.range_eq_range']
    exact List.map_congr_left fun k _ => callOfAttempt_attempt ledger m k (startOf k)
  case waits =>
    have hgoes := hbefore k hk
    obtain ⟨delay, e, hop, -⟩ := hgoes.exists_error
    obtain ⟨wait, hwait⟩ := Option.ne_none_iff_exists'.mp hgoes.backoff
    have hnext : startOf (k + 1) = startOf k + delay + Clock.elapsed (startOf k + delay) wait :=
      nextStart_of_error hop hwait
    refine ⟨delay, e, wait, hop, hwait, hnext, ?_⟩
    rintro ms rfl hlt
    rw [hnext, Clock.elapsed_ofMillis hlt]
  case ending =>
    rw [ending_submit, hattempts]
    exact ofAttempts_of_isLast hlast'

/-- A ledger that accepts a message at the second attempt. -/
def acceptsSecond : Ledger where
  estimate _ _ := .silence
  check _ _ _ _ := .silence
  finalityTime _ _ := .silence
  submit _ k _ :=
    if k = 0 then .answer 5 (.error (.transport "connection reset"))
    else .answer 7 (.ok ⟨default, successStatus⟩)

/-- With the default policy a relay on that ledger makes two calls. The second one is made two
seconds behind the first answer, and its receipt is what the relay comes to. -/
theorem submit_exact_acceptsSecond :
    let p : RetryPolicy := {}
    (p.maxRetries.toNat < UInt32.size - 1 ∧
      ∀ k < p.maxRetries.toNat, p.backoff? (UInt32.ofNat k) ≠ none) ∧
    (submit acceptsSecond p default 0).calls =
      [callAt acceptsSecond default 0 0, callAt acceptsSecond default 1 2005] ∧
    (submit acceptsSecond p default 0).ending = .result 2012 (.ok default) := by
  intro p
  have hmax : p.maxRetries.toNat < UInt32.size - 1 := by decide
  have hback : ∀ k < p.maxRetries.toNat, p.backoff? (UInt32.ofNat k) ≠ none := by decide +kernel
  obtain ⟨n, ⟨hlast, hleast⟩, -, -, hcalls, -, -, hending⟩ :=
    submit_exact acceptsSecond p default 0 hmax hback
  have hsecond : p.startOf (acceptsSecond.submit default) 0 1 = 2005 := by decide +kernel
  -- the first answer is an error that may clear, the second one a receipt
  obtain rfl : n = 1 := by
    refine Nat.le_antisymm (hleast trivial) (Nat.pos_of_ne_zero ?_)
    rintro rfl
    rcases hlast with hclass | hspent
    · exact absurd hclass (by decide)
    · exact absurd hspent (by decide)
  refine ⟨⟨hmax, hback⟩, ?_, ?_⟩
  · rw [hcalls]
    simp only [List.range_succ, List.range_zero, List.nil_append, List.singleton_append,
      List.map_cons, List.map_nil, hsecond]
    rfl
  · rw [hending, hsecond]
    rfl

end Relay

/-! ### Waits that are not exact -/

namespace RetryPolicy

/-- Between two submissions passes exactly the backoff, whatever the ledger. -/
def WaitsExactly (p : RetryPolicy) : Prop :=
  ∀ (ledger : Ledger) (m : Message) (start k : Nat) (c d : LedgerCall) (t : Nat)
    (answer : CallAnswer) (wait : Duration),
    (Relay.submit ledger p m start).calls[k]? = some c →
    (Relay.submit ledger p m start).calls[k + 1]? = some d →
    c.answer = some (t, answer) → p.backoff? (UInt32.ofNat k) = some wait →
    Duration.ofMillis (d.start - t) = wait

/-- One retry, after a backoff of half a millisecond. -/
def halfMilli : RetryPolicy :=
  { maxRetries := 1, initialBackoff := ⟨500000⟩, multiplier := 1.0 }

/-- One retry, after a backoff of two to the power of 63 seconds. -/
def endless : RetryPolicy :=
  { maxRetries := 1, initialBackoff := Duration.ofSecs 0x8000000000000000,
    maxBackoff := Duration.ofSecs 0x8000000000000000, multiplier := 1.0 }

/-- A ledger that refuses every submission at once. -/
def refusing (e : LedgerError) : Ledger where
  estimate _ _ := .silence
  check _ _ _ _ := .silence
  finalityTime _ _ := .silence
  submit _ _ _ := .answer 0 (.error e)

/-- **A backoff is not always waited for exactly.** Half a millisecond takes a whole one, and a wait
whose end is no instant takes thirty years. -/
theorem wait_inexact :
    (halfMilli.maxRetries.toNat < UInt32.size - 1 ∧ halfMilli.backoff? 0 = some ⟨500000⟩ ∧
      ¬ halfMilli.WaitsExactly) ∧
    endless.maxRetries.toNat < UInt32.size - 1 ∧
      endless.backoff? 0 = some (Duration.ofSecs 0x8000000000000000) ∧ ¬ endless.WaitsExactly := by
  have hhalf : halfMilli.backoff? 0 = some ⟨500000⟩ := by decide +kernel
  have hendless : endless.backoff? 0 = some (Duration.ofSecs 0x8000000000000000) := by
    decide +kernel
  refine ⟨⟨by decide, hhalf, fun hexact => ?_⟩, by decide, hendless, fun hexact => ?_⟩
  · have hfirst : (Relay.submit (refusing (.transport "")) halfMilli default 0).calls[0]? =
        some ⟨.submit, 0, some (0, .failure (.transport ""))⟩ := by decide +kernel
    have hsecond : (Relay.submit (refusing (.transport "")) halfMilli default 0).calls[1]? =
        some ⟨.submit, 1, some (1, .failure (.transport ""))⟩ := by decide +kernel
    exact absurd (hexact _ _ _ 0 _ _ _ _ _ hfirst hsecond rfl hhalf) (by decide)
  · have hfirst : (Relay.submit (refusing (.transport "")) endless default 0).calls[0]? =
        some ⟨.submit, 0, some (0, .failure (.transport ""))⟩ := by decide +kernel
    have hsecond : (Relay.submit (refusing (.transport "")) endless default 0).calls[1]? =
        some ⟨.submit, 946080000000, some (946080000000, .failure (.transport ""))⟩ := by
      decide +kernel
    exact absurd (hexact _ _ _ 0 _ _ _ _ _ hfirst hsecond rfl hendless) (by decide)

end RetryPolicy

end MessageRelay
