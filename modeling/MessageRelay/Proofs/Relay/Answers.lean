import MessageRelay.Proofs.Relay

/-!
# What the submissions of a relay are answered

A relay goes on as long as its submissions are answered with errors, so an attempt behind which
there is another one has failed, and how the last attempt was answered is how the relay ends. It is
said once for attempts at any operation (`MessageRelay.Concludes`), and proved by induction along
the retries (`MessageRelay.RetryPolicy.attemptsFrom_concludes`).

When there is another attempt, and how each one is answered, is said one by one
(`MessageRelay.RetryPolicy.attempt_of_getElem?`).

For the calls of a relay it means that a receipt can only be the answer to the last one
(`MessageRelay.Relay.submit_concludes`). So the ledger cannot accept a message and the relay of that
message go on.
-/

namespace MessageRelay

/-! ### Attempts -/

section Attempts

variable {α : Type}

/-- An attempt has been answered with an error. -/
def Attempt.HasFailed (a : Attempt α) : Prop :=
  ∃ t e, a.answer = some (t, .error e)

/-- **Attempts and how they end**: all attempts but the last one have failed, and the end is what
the last one was answered. The number of attempts is told along with an error. -/
inductive Concludes (number : Nat) : List (Attempt α) → AttemptsEnding α → Prop where
  /-- A value is the answer to the last attempt. -/
  | value {front : List (Attempt α)} {start t : Nat} {a : α} : (∀ b ∈ front, b.HasFailed) →
      Concludes number (front ++ [⟨start, some (t, .ok a)⟩]) (.value t a)
  /-- An error is the answer to the last attempt. -/
  | failure {front : List (Attempt α)} {start t : Nat} {e : LedgerError} :
      (∀ b ∈ front, b.HasFailed) →
      Concludes number (front ++ [⟨start, some (t, .error e)⟩])
        (.failure t e (number + front.length + 1))
  /-- If the caller dies, the last attempt has no answer or has failed. -/
  | death {front : List (Attempt α)} {last : Attempt α} {t : Nat} : (∀ b ∈ front, b.HasFailed) →
      last.answer = none ∨ last.HasFailed → Concludes number (front ++ [last]) (.death t)
  /-- If the caller waits forever, the last attempt has no answer. -/
  | stuck {front : List (Attempt α)} {start : Nat} : (∀ b ∈ front, b.HasFailed) →
      Concludes number (front ++ [⟨start, none⟩]) .stuck

/-- A failed attempt may stand in front. -/
theorem Concludes.cons {number start t : Nat} {e : LedgerError} {attempts : List (Attempt α)}
    {ending : AttemptsEnding α} (h : Concludes (number + 1) attempts ending) :
    Concludes number (⟨start, some (t, .error e)⟩ :: attempts) ending := by
  have hcons : ∀ {front : List (Attempt α)}, (∀ b ∈ front, b.HasFailed) →
      ∀ b ∈ (⟨start, some (t, .error e)⟩ : Attempt α) :: front, b.HasFailed := by
    intro front hfront b hb
    rcases List.mem_cons.mp hb with rfl | hb
    · exact ⟨t, e, rfl⟩
    · exact hfront b hb
  cases h with
  | value hfront => exact .value (hcons hfront)
  | @failure front start' t' e' hfront =>
    have hmade : number + 1 + front.length + 1 =
        number + ((⟨start, some (t, .error e)⟩ : Attempt α) :: front).length + 1 := by
      rw [List.length_cons]
      omega
    rw [hmade]
    exact .failure (hcons hfront)
  | death hfront hlast => exact .death (hcons hfront) hlast
  | stuck hfront => exact .stuck (hcons hfront)

namespace RetryPolicy

/-- **The attempts go on only behind errors**, and they end as the last one was answered. -/
theorem attemptsFrom_concludes (p : RetryPolicy) (operation : (number start : Nat) → Reply α)
    (left number now : Nat) :
    Concludes number (p.attemptsFrom operation left number now).1
      (p.attemptsFrom operation left number now).2 := by
  have hnil : ∀ b ∈ ([] : List (Attempt α)), b.HasFailed := nofun
  -- along the retries: every case but one makes the last attempt
  fun_induction attemptsFrom p operation left number now with
  | case1 => exact .stuck hnil
  | case2 => exact .death hnil (Or.inl rfl)
  | case3 => exact .value hnil
  | case4 | case7 => exact .failure hnil
  | case5 => exact .death hnil (Or.inr ⟨_, _, rfl⟩)
  | case6 number now delay e _ stop this _ left wait _ attempts ending heq ih =>
    rw [heq] at ih
    exact ih.cons

end RetryPolicy

end Attempts

/-! ### Attempts, one by one -/

section Succession

variable {α : Type}

/-- The answer to a call made at `start`, if it comes. -/
def Reply.answerAt (reply : Reply α) (start : Nat) : Option (Nat × Except LedgerError α) :=
  match reply with
  | .answer delay result => some (start + delay, result)
  | .silence | .death _ => none

namespace RetryPolicy

variable (p : RetryPolicy) (operation : (number start : Nat) → Reply α) (left number now : Nat)

/-- The attempt with a given number that is made at `now`. -/
def attempt : Attempt α :=
  ⟨now, (operation number now).answerAt now⟩

variable {p operation left number now} {k : Nat} {a : Attempt α}

/-- An attempt is to be made again: it has failed with an error that may clear, a retry is left, and
there is a backoff. -/
structure GoesOn (p : RetryPolicy) (left number : Nat) (a : Attempt α) : Prop where
  left : 0 < left
  backoff : p.backoff? (UInt32.ofNat number) ≠ none
  failed : ∃ t e, a.answer = some (t, .error e) ∧ (ErrorClass.of e).isRetryable = true

theorem GoesOn.hasFailed (h : p.GoesOn left number a) : a.HasFailed := by
  obtain ⟨t, e, ha, -⟩ := h.failed
  exact ⟨t, e, ha⟩

theorem GoesOn.exists_error (h : p.GoesOn left number (attempt operation number now)) :
    ∃ delay e, operation number now = .answer delay (.error e) ∧
      (ErrorClass.of e).isRetryable = true := by
  obtain ⟨t, e, ha, he⟩ := h.failed
  rw [attempt] at ha
  cases hop : operation number now with
  | silence | death =>
    rw [hop] at ha
    cases ha
  | answer delay result =>
    rw [hop] at ha
    cases ha
    exact ⟨delay, e, rfl, he⟩

/-- An attempt that is not to be made again is the only one. -/
theorem attemptsFrom_of_not_goesOn
    (h : ¬ p.GoesOn left number (attempt operation number now)) :
    (p.attemptsFrom operation left number now).1 = [attempt operation number now] := by
  rw [attempt] at h ⊢
  cases hop : operation number now with
  | silence => rw [attemptsFrom_of_silence hop]; rfl
  | death delay => rw [attemptsFrom_of_death hop]; rfl
  | answer delay result =>
    cases result with
    | ok a => rw [attemptsFrom_of_ok hop]; rfl
    | error e =>
      cases he : (ErrorClass.of e).isRetryable with
      | false => rw [attemptsFrom_of_permanent hop he]; rfl
      | true =>
        cases left with
        | zero => rw [attemptsFrom_of_spent hop he]; rfl
        | succ left =>
          cases hwait : p.backoff? (UInt32.ofNat number) with
          | none => rw [attemptsFrom_of_no_backoff hop he hwait]; rfl
          | some wait =>
            rw [hop] at h
            exact absurd ⟨Nat.succ_pos left, by simp [hwait], _, e, rfl, he⟩ h

/-- Behind an attempt that is to be made again there are the others. -/
theorem attemptsFrom_of_goesOn (h : p.GoesOn left number (attempt operation number now)) :
    ∃ next, (p.attemptsFrom operation left number now).1 =
      attempt operation number now ::
        (p.attemptsFrom operation (left - 1) (number + 1) next).1 := by
  obtain ⟨delay, e, hop, he⟩ := h.exists_error
  obtain ⟨left, rfl⟩ := Nat.exists_eq_succ_of_ne_zero (Nat.ne_of_gt h.left)
  obtain ⟨wait, hwait⟩ := Option.ne_none_iff_exists'.mp h.backoff
  rw [attemptsFrom_of_retry hop he hwait, attempt, hop]
  exact ⟨_, rfl⟩

/-- **The attempts, one by one**: the `k`-th one is answered as the operation replies to it, and
there is another one behind it exactly if it is to be made again. -/
theorem attempt_of_getElem? (h : (p.attemptsFrom operation left number now).1[k]? = some a) :
    a = attempt operation (number + k) a.start ∧
      ((∃ b, (p.attemptsFrom operation left number now).1[k + 1]? = some b) ↔
        p.GoesOn (left - k) (number + k) a) := by
  induction k generalizing left number now with
  | zero =>
    by_cases hgoes : p.GoesOn left number (attempt operation number now)
    · obtain ⟨next, hmore⟩ := attemptsFrom_of_goesOn hgoes
      obtain ⟨b, rest, hb, -, -⟩ :=
        (p.attemptsFrom_inTurn operation (left - 1) (number + 1) next).first
      rw [hmore] at h ⊢
      obtain rfl := Option.some.inj h
      exact ⟨rfl, iff_of_true ⟨b, by rw [hb]; rfl⟩ hgoes⟩
    · rw [attemptsFrom_of_not_goesOn hgoes] at h ⊢
      obtain rfl := Option.some.inj h
      exact ⟨rfl, iff_of_false nofun hgoes⟩
  | succ k ih =>
    by_cases hgoes : p.GoesOn left number (attempt operation number now)
    · obtain ⟨next, hmore⟩ := attemptsFrom_of_goesOn hgoes
      rw [hmore] at h ⊢
      rw [Nat.add_comm k 1, ← Nat.sub_sub, ← Nat.add_assoc, Nat.add_comm 1 k]
      exact ih h
    · rw [attemptsFrom_of_not_goesOn hgoes] at h
      cases h

end RetryPolicy

end Succession

/-! ### Calls -/

namespace LedgerCall

/-- A call has been answered with an error. -/
def HasFailed (c : LedgerCall) : Prop :=
  ∃ t e, c.answer = some (t, .failure e)

/-- The transaction by which the ledger has accepted a submission: the one of a receipt with the
successful status. -/
def accepted? (c : LedgerCall) : Option Hash :=
  match c.answer with
  | some (_, .receipt r) => if r.status = successStatus then some r.transaction else none
  | _ => none

/-- **The ledger has accepted a submission** exactly when it answered with a receipt of the
successful status. -/
theorem accepted?_eq_some_iff {c : LedgerCall} {tx : Hash} :
    c.accepted? = some tx ↔
      ∃ t r, c.answer = some (t, .receipt r) ∧ r.status = successStatus ∧ r.transaction = tx := by
  obtain ⟨kind, start, answer⟩ := c
  rcases answer with _ | ⟨t, answer⟩
  · simp [accepted?]
  · cases answer with
    | receipt receipt =>
      constructor
      · intro h
        have hif : receipt.status = successStatus ∧ receipt.transaction = tx := by
          simpa [accepted?] using h
        exact ⟨t, receipt, rfl, hif⟩
      · rintro ⟨_, _, ⟨⟩, hstatus, rfl⟩
        simp [accepted?, hstatus]
    | cost | finality | time | failure => simp [accepted?]

/-- A call that has failed has not been accepted. -/
theorem HasFailed.accepted? {c : LedgerCall} (h : c.HasFailed) : c.accepted? = none := by
  obtain ⟨t, e, he⟩ := h
  simp [LedgerCall.accepted?, he]

/-- The ledger has answered a submission, but not accepted it: with an error, or with a receipt of
another status. -/
def IsRefused (c : LedgerCall) : Prop :=
  c.HasFailed ∨ ∃ t r, c.answer = some (t, .receipt r) ∧ r.status ≠ successStatus

theorem IsRefused.accepted? {c : LedgerCall} (h : c.IsRefused) : c.accepted? = none := by
  rcases h with h | ⟨t, r, hr, hstatus⟩
  · exact h.accepted?
  · simp [LedgerCall.accepted?, hr, hstatus]

end LedgerCall

namespace Relay

theorem hasFailed_callOfAttempt {a : Attempt DestinationReceipt} (h : a.HasFailed) :
    (callOfAttempt a).HasFailed := by
  obtain ⟨t, e, he⟩ := h
  rw [callOfAttempt, he]
  exact ⟨t, e, rfl⟩

/-- **How a relay ends when it comes to a result**: all its calls but the last one have failed, the
message counts as relayed if the ledger has accepted the last one, by the transaction of that
receipt, and as failed if the ledger has refused it. -/
theorem submit_concludes {ledger : Ledger} {p : RetryPolicy} {m : Message} {start t : Nat}
    {result : Except RelayError Hash}
    (h : (submit ledger p m start).ending = .result t result) :
    ∃ front last, (submit ledger p m start).calls = front ++ [last] ∧
      (∀ call ∈ front, call.HasFailed) ∧
      ((∃ tx, result = .ok tx ∧ last.accepted? = some tx) ∨
        ∃ e, result = .error e ∧ last.IsRefused) := by
  have hconcludes := p.attemptsFrom_concludes (ledger.submit m) p.maxRetries.toNat 0 start
  have hfailed : ∀ {front : List (Attempt DestinationReceipt)}, (∀ b ∈ front, b.HasFailed) →
      ∀ call ∈ front.map callOfAttempt, call.HasFailed := by
    intro front hfront call hcall
    obtain ⟨b, hb, rfl⟩ := List.mem_map.mp hcall
    exact hasFailed_callOfAttempt (hfront b hb)
  rw [calls_submit, RetryPolicy.attempts]
  rw [ending_submit, RetryPolicy.attempts] at h
  generalize p.attemptsFrom (ledger.submit m) p.maxRetries.toNat 0 start = made at *
  obtain ⟨attempts, ending⟩ := made
  dsimp only at *
  cases hconcludes with
  | @value front start' t' receipt hfront =>
    obtain ⟨rfl, rfl⟩ := RelayEnding.result.inj h
    refine ⟨front.map callOfAttempt, _, List.map_append, hfailed hfront, ?_⟩
    by_cases hstatus : receipt.status = successStatus
    · left
      refine ⟨receipt.transaction, if_pos hstatus, ?_⟩
      exact LedgerCall.accepted?_eq_some_iff.mpr ⟨_, receipt, rfl, hstatus, rfl⟩
    · right
      exact ⟨_, if_neg hstatus, Or.inr ⟨_, receipt, rfl, hstatus⟩⟩
  | @failure front start' t' e hfront =>
    obtain ⟨rfl, rfl⟩ := RelayEnding.result.inj h
    exact ⟨front.map callOfAttempt, _, List.map_append, hfailed hfront,
      Or.inr ⟨_, rfl, Or.inl ⟨_, e, rfl⟩⟩⟩
  | death | stuck => cases h

/-- No submission is answered before it is made. -/
theorem start_le_of_answeredBy {ledger : Ledger} {p : RetryPolicy} {m : Message} {start t : Nat}
    {c : LedgerCall} (hc : c ∈ (submit ledger p m start).calls) (h : c.AnsweredBy t) :
    c.start ≤ t := by
  rw [calls_submit] at hc
  obtain ⟨a, ha, rfl⟩ := List.mem_map.mp hc
  obtain ⟨k, hk⟩ := List.getElem?_of_mem ha
  rw [start_callOfAttempt]
  obtain ⟨t', answer, hanswer, hle⟩ := h
  rw [(RetryPolicy.attempt_of_getElem? hk).1, RetryPolicy.attempt] at hanswer
  cases hreply : ledger.submit m (0 + k) a.start with
  | silence | death =>
    rw [hreply] at hanswer
    cases hanswer
  | answer delay result =>
    rw [hreply] at hanswer
    obtain ⟨rfl, -⟩ := Prod.mk.inj (Option.some.inj hanswer)
    exact Nat.le_trans (Nat.le_add_right a.start delay) hle

end Relay

end MessageRelay
