import MessageRelay.Proofs.Relay.Timetable

/-!
# Which submissions are made again

A submission is made again if it has failed, the error is not permanent, a retry is left and there
is a backoff (`MessageRelay.Relay.submissions_retried`). So everything hangs on the class of an
error, and that is read off its text: `MessageRelay.ErrorClass.ofText_eq_iff` says which texts are
of which class, the words of the classes that count more having to be absent.

Of the five classes only one is told apart in the end. A conflict of nonces is retried as well, even
if the node says that it has the transaction already (`MessageRelay.Relay.conflict_retried`).
-/

namespace MessageRelay

namespace ErrorClass

/-! ### The class of a text -/

theorem occursIn_iff {needle hay : List Char} : occursIn needle hay = true ↔ needle <:+: hay := by
  induction hay with
  | nil => simp [occursIn]
  | cons c cs ih =>
    rw [occursIn, Bool.or_eq_true, ih, List.isPrefixOf_iff_prefix, List.infix_cons_iff]

/-- A word that marks the class occurs in the text, in upper or lower case. -/
def Mentions (c : ErrorClass) (text : String) : Prop :=
  ∃ word ∈ c.markers, word.toList <:+: Text.lowercaseChars text.toList

theorem isMarkedIn_iff {c : ErrorClass} {text : String} :
    c.isMarkedIn (Text.lowercaseChars text.toList) = true ↔ c.Mentions text := by
  simp only [isMarkedIn, List.any_eq_true, occursIn_iff, Mentions]

/-- The classes that count more than a given one. -/
def above (c : ErrorClass) : List ErrorClass :=
  ranking.takeWhile (· ≠ c)

/-- The first marked class of the ranking is the one that is marked and has no marked class above.
-/
theorem find?_ranking_eq_iff {mark : ErrorClass → Bool} {c : ErrorClass} :
    (ranking.find? mark).getD unknown = c ↔
      (c ≠ unknown → mark c = true) ∧ ∀ d ∈ c.above, ¬ mark d = true := by
  -- down the ranking, until a class is marked
  cases hpermanent : mark permanent with
  | true => cases c <;> simp [above, ranking, hpermanent]
  | false =>
    cases hunderpriced : mark underpriced with
    | true => cases c <;> simp [above, ranking, hpermanent, hunderpriced]
    | false =>
      cases hconflict : mark nonceConflict with
      | true => cases c <;> simp [above, ranking, hpermanent, hunderpriced, hconflict]
      | false =>
        cases htransient : mark transient <;> cases c <;>
          simp [above, ranking, hpermanent, hunderpriced, hconflict, htransient]

/-- **The class of a text**: one of its words occurs, and no word of a class that counts more. A
text without any of the words is of the class that is not known. -/
theorem ofText_eq_iff {c : ErrorClass} {text : String} :
    ofText text = c ↔ (c ≠ unknown → c.Mentions text) ∧ ∀ d ∈ c.above, ¬ d.Mentions text := by
  simp only [ofText, find?_ranking_eq_iff, isMarkedIn_iff]

/-- **A permanent error** is an error of the node that mentions a word of that class. -/
theorem of_eq_permanent_iff {e : LedgerError} :
    of e = permanent ↔ ∃ text, e = .rpc text ∧ permanent.Mentions text := by
  cases e with
  | rpc text => simp [of, ofText_eq_iff, above, ranking]
  | transport | invalidResponse | missingReceipt => simp [of]

/-- **A conflict of nonces** is an error of the node that mentions a word of that class, and no word
of the two that count more. -/
theorem of_eq_nonceConflict_iff {e : LedgerError} :
    of e = nonceConflict ↔ ∃ text, e = .rpc text ∧ nonceConflict.Mentions text ∧
      ¬ permanent.Mentions text ∧ ¬ underpriced.Mentions text := by
  cases e with
  | rpc text => simp [of, ofText_eq_iff, above, ranking]
  | transport | invalidResponse | missingReceipt => simp [of]

end ErrorClass

/-! ### Submissions -/

namespace Relay

variable {ledger : Ledger} {p : RetryPolicy} {m : Message} {start k : Nat}

theorem getElem?_calls_eq_some_iff {c : LedgerCall} :
    (submit ledger p m start).calls[k]? = some c ↔
      ∃ a, (p.attempts (ledger.submit m) start).1[k]? = some a ∧ callOfAttempt a = c := by
  rw [calls_submit, List.getElem?_map, Option.map_eq_some_iff]

/-- There is a submission for every attempt. -/
theorem exists_call_iff :
    (∃ d, (submit ledger p m start).calls[k]? = some d) ↔
      ∃ b, (p.attempts (ledger.submit m) start).1[k]? = some b := by
  constructor
  · rintro ⟨d, hd⟩
    obtain ⟨b, hb, -⟩ := getElem?_calls_eq_some_iff.mp hd
    exact ⟨b, hb⟩
  · rintro ⟨b, hb⟩
    exact ⟨callOfAttempt b, getElem?_calls_eq_some_iff.mpr ⟨b, hb, rfl⟩⟩

theorem answer_callOfAttempt_eq_failure_iff {a : Attempt DestinationReceipt} {t : Nat}
    {e : LedgerError} :
    (callOfAttempt a).answer = some (t, .failure e) ↔ a.answer = some (t, .error e) := by
  obtain ⟨now, answer⟩ := a
  rcases answer with _ | ⟨t', e' | receipt⟩
  · simp [callOfAttempt, LedgerCall.unanswered]
  · simp [callOfAttempt, LedgerCall.answered]
  · simp [callOfAttempt, LedgerCall.answered]

/-- **Which submissions are made again**, for every ledger and every policy: those that have failed
with an error that is not permanent, as long as a retry is left and there is a backoff. Which errors
are permanent and which are conflicts of nonces is read off the text, and what follows a conflict is
what follows any other error that is not permanent. -/
theorem submissions_retried (ledger : Ledger) (p : RetryPolicy) (m : Message) (start : Nat)
    {k : Nat} {c : LedgerCall} (hc : (submit ledger p m start).calls[k]? = some c) :
    ((∃ d, (submit ledger p m start).calls[k + 1]? = some d) ↔
      k < p.maxRetries.toNat ∧ p.backoff? (UInt32.ofNat k) ≠ none ∧
        ∃ t e, c.answer = some (t, .failure e) ∧ ErrorClass.of e ≠ .permanent) ∧
    ∀ t e, c.answer = some (t, .failure e) →
      (ErrorClass.of e = .permanent ↔
        ∃ text, e = .rpc text ∧ ErrorClass.permanent.Mentions text) ∧
      (ErrorClass.of e = .nonceConflict ↔
        ∃ text, e = .rpc text ∧ ErrorClass.nonceConflict.Mentions text ∧
          ¬ ErrorClass.permanent.Mentions text ∧ ¬ ErrorClass.underpriced.Mentions text) := by
  refine ⟨?_, fun t e _ =>
    ⟨ErrorClass.of_eq_permanent_iff, ErrorClass.of_eq_nonceConflict_iff⟩⟩
  obtain ⟨a, ha, rfl⟩ := getElem?_calls_eq_some_iff.mp hc
  have hagain := (RetryPolicy.attempt_of_getElem? ha).2
  rw [Nat.zero_add] at hagain
  rw [exists_call_iff, RetryPolicy.attempts, hagain]
  simp only [answer_callOfAttempt_eq_failure_iff, ← ErrorClass.isRetryable_iff]
  constructor
  · rintro ⟨hleft, hbackoff, hfailed⟩
    exact ⟨Nat.lt_of_sub_pos hleft, hbackoff, hfailed⟩
  · rintro ⟨hlt, hbackoff, hfailed⟩
    exact ⟨Nat.sub_pos_of_lt hlt, hbackoff, hfailed⟩

/-- That the node knows the transaction already is a conflict of nonces. -/
theorem of_alreadyKnown : ErrorClass.of (.rpc "already known") = .nonceConflict := by decide

/-- A submission that is answered so is made again. -/
theorem submissions_retried_alreadyKnown :
    let ledger := RetryPolicy.refusing (.rpc "already known")
    let first : LedgerCall := ⟨.submit, 0, some (0, .failure (.rpc "already known"))⟩
    (submit ledger { maxRetries := 1 } default 0).calls[0]? = some first ∧
      (∃ d, (submit ledger { maxRetries := 1 } default 0).calls[1]? = some d) ∧
      ErrorClass.nonceConflict.Mentions "already known" := by
  intro ledger first
  have hfirst : (submit ledger { maxRetries := 1 } default 0).calls[0]? = some first := by
    decide +kernel
  have hclears : ErrorClass.of (.rpc "already known") ≠ .permanent := by
    rw [of_alreadyKnown]
    decide
  obtain ⟨hagain, hclass⟩ := submissions_retried ledger { maxRetries := 1 } default 0 hfirst
  obtain ⟨-, hconflict⟩ := hclass 0 (.rpc "already known") rfl
  obtain ⟨text, heq, hmentions, -⟩ := hconflict.mp of_alreadyKnown
  obtain rfl := LedgerError.rpc.inj heq
  exact ⟨hfirst, hagain.mpr ⟨by decide, by decide +kernel, 0, _, rfl, hclears⟩, hmentions⟩

/-- **Not only errors of the three classes that may clear are retried**: a conflict of nonces is
retried as well. -/
theorem conflict_retried :
    ¬ ∀ (ledger : Ledger) (p : RetryPolicy) (m : Message) (start k : Nat) (c d : LedgerCall)
      (t : Nat) (e : LedgerError),
      (submit ledger p m start).calls[k]? = some c → c.answer = some (t, .failure e) →
      (submit ledger p m start).calls[k + 1]? = some d →
      ErrorClass.of e = .transient ∨ ErrorClass.of e = .underpriced ∨
        ErrorClass.of e = .unknown := by
  intro hclears
  have hfirst : (submit (RetryPolicy.refusing (.rpc "already known")) { maxRetries := 1 }
      default 0).calls[0]? = some ⟨.submit, 0, some (0, .failure (.rpc "already known"))⟩ := by
    decide +kernel
  have hsecond : (submit (RetryPolicy.refusing (.rpc "already known")) { maxRetries := 1 }
      default 0).calls[1]? =
        some ⟨.submit, 2000, some (2000, .failure (.rpc "already known"))⟩ := by
    decide +kernel
  have hclass := hclears _ _ _ 0 0 _ _ _ _ hfirst rfl hsecond
  rw [of_alreadyKnown] at hclass
  exact absurd hclass (by decide)

end Relay

end MessageRelay
