import MessageRelay.Proofs.Poll.Results
import MessageRelay.Proofs.Relay.Answers
import MessageRelay.Proofs.Run.Reports

/-!
# What the reasons in reports are made of

A report gives a reason if its message could not be polled or relayed. The reason is a text of the
program's own, or it is such a text in front of an error that the ledger answered with. The layers
in between are those of `MessageRelay.PollError.message`, `MessageRelay.RelayError.message` and
`MessageRelay.LedgerError.message`, and none of them makes anything up: every outcome of a run is
explained by the ledger's answers (`MessageRelay.Run.Finished.explained`).
-/

namespace MessageRelay

/-! ### Outcomes and the ledger's answers -/

/-- **What an outcome of a run is made of.** An error in its reason is one that the ledger has
answered with, to a call of the kind that the reason speaks of. -/
inductive Outcome.Explained (ledger : Ledger) : Outcome → Prop where
  /-- The message was relayed. -/
  | relayed (tx : Hash) : Explained ledger (.relayed tx)
  /-- Time ran out. -/
  | finalityTimeout : Explained ledger .finalityTimeout
  /-- The message was blocked by another one. -/
  | aborted (key : MessageKey) : Explained ledger (.aborted key)
  /-- The task that polled has died. -/
  | lost : Explained ledger (.pollFailed "poll task ended unexpectedly")
  /-- The poll refused to start. -/
  | refused : Explained ledger (.pollFailed PollError.zeroInterval.message)
  /-- The ledger answered with an error when asked what a query costs. -/
  | estimate {m : Message} {start t : Nat} {e : LedgerError} :
      (ledger.estimate m start).Arrives start t (.error e) →
      Explained ledger (.pollFailed (PollError.estimate e).message)
  /-- The ledger answered a query with an error. -/
  | query {m : Message} {gas : UInt64} {k start t : Nat} {e : LedgerError} :
      (ledger.check m gas k start).Arrives start t (.error e) →
      Explained ledger (.pollFailed (PollError.query (UInt32.ofNat k) e).message)
  /-- The transaction was mined without success. -/
  | reverted (tx : Hash) (status : UInt64) :
      Explained ledger (.relayFailed (RelayError.reverted tx status).message)
  /-- The ledger answered a submission with an error. -/
  | submission {m : Message} {k start t : Nat} {e : LedgerError} (attempts : Nat) :
      (ledger.submit m k start).Arrives start t (.error e) →
      Explained ledger (.relayFailed (RelayError.submission attempts e).message)

/-- The outcome of a message whose poll has come to an end is explained. -/
theorem Outcome.explained_of_comesTo {ledger : Ledger} {m : Message} {schedule : Schedule}
    {r : PollResult} (h : Poll.ComesTo ledger m schedule r) {outcome : Outcome}
    (hr : Polled.ofResult r = .failed outcome) : outcome.Explained ledger := by
  cases h with
  | finalized => cases hr
  | timedOut =>
    cases hr
    exact .finalityTimeout
  | estimate harrives =>
    cases hr
    exact .estimate harrives
  | query harrives =>
    cases hr
    exact .query harrives
  | zeroInterval =>
    cases hr
    exact .refused

/-- An attempt that was answered was answered as the ledger replies to it. -/
theorem RetryPolicy.arrives_of_attempt {α : Type} {p : RetryPolicy}
    {operation : (number start : Nat) → Reply α} {left number now : Nat} {a : Attempt α}
    (ha : a ∈ (p.attemptsFrom operation left number now).1) {t : Nat}
    {result : Except LedgerError α} (hanswer : a.answer = some (t, result)) :
    ∃ k, (operation k a.start).Arrives a.start t result := by
  obtain ⟨k, hk⟩ := List.getElem?_of_mem ha
  refine ⟨number + k, ?_⟩
  rw [(attempt_of_getElem? hk).1, attempt] at hanswer
  cases hreply : operation (number + k) a.start with
  | silence | death =>
    rw [hreply] at hanswer
    cases hanswer
  | answer delay result' =>
    rw [hreply] at hanswer
    cases hanswer
    exact ⟨delay, rfl, rfl⟩

/-- The outcome of a relay is explained. -/
theorem Outcome.explained_ofRelay {ledger : Ledger} {p : RetryPolicy} {m : Message}
    {start t : Nat} {result : Except RelayError Hash}
    (h : (Relay.submit ledger p m start).ending = .result t result) :
    (Outcome.ofRelay result).Explained ledger := by
  have hconcludes := p.attemptsFrom_concludes (ledger.submit m) p.maxRetries.toNat 0 start
  have harrives := @RetryPolicy.arrives_of_attempt _ p (ledger.submit m) p.maxRetries.toNat 0 start
  rw [Relay.ending_submit, RetryPolicy.attempts] at h
  generalize p.attemptsFrom (ledger.submit m) p.maxRetries.toNat 0 start = made at *
  obtain ⟨attempts, ending⟩ := made
  dsimp only at *
  cases hconcludes with
  | @value front start' t' receipt =>
    obtain ⟨rfl, rfl⟩ := RelayEnding.result.inj h
    split
    · exact .relayed _
    · exact .reverted _ _
  | @failure front start' t' e =>
    obtain ⟨rfl, rfl⟩ := RelayEnding.result.inj h
    obtain ⟨k, hk⟩ := harrives (List.mem_append_right front List.mem_cons_self) rfl
    exact .submission _ hk
  | death | stuck => cases h

namespace Run

variable {c : RunConfig} {ledger : Ledger} {batch : Batch} {handed : Handed} {s : State}
  {done : List Completion}

/-! ### Every message of a run -/

/-- What was handed over as failed is explained. -/
theorem HandedFrom.explained (hfrom : HandedFrom done handed)
    (harrivals : Arrivals c ledger batch done) {p instant : Nat} {outcome : Outcome}
    (hp : handed p = some (instant, .failed outcome)) : outcome.Explained ledger := by
  rcases hfrom p instant _ hp with hmem | ⟨hlost, -⟩
  · obtain ⟨m, horizon, r, -, hending, heq⟩ := harrivals.result _ hmem _ rfl
    exact Outcome.explained_of_comesTo (Poll.comesTo_of_observe hending) heq.symm
  · cases hlost
    exact .lost

/-- So is the outcome of every message that was settled by what was handed over for it. -/
theorem Series.explained {own : List Settlement} (hown : Series c ledger handed own)
    (harrivals : Arrivals c ledger batch done) (hfrom : HandedFrom done handed) :
    ∀ st ∈ own, st.outcome.Explained ledger := by
  intro st hst
  obtain ⟨p, hp⟩ := List.getElem?_of_mem hst
  obtain ⟨-, instant, polled, start, hh, -, -, hsettles⟩ := hown.get hp
  cases hsettles with
  | failed => exact hfrom.explained harrivals hh
  | relayed _ _ _ _ hending => exact Outcome.explained_ofRelay hending

/-- **Every outcome that a run reports is explained by the ledger's answers.** -/
theorem Finished.explained (h : Finished c ledger batch done s) (hhalted : s.halted = none) :
    ∀ r ∈ s.reports batch.keys, r.outcome.Explained ledger := by
  refine forall_outcome_of_map_eq (Outcome.Explained ledger)
    (map_outcome_reports (h.length_settled hhalted)) fun st hst => ?_
  obtain ⟨-, handed, hfrom, ⟨hown, -⟩ | ⟨-, before, failure, hown, -, -, hsettled⟩⟩ :=
    h.settled_cases hhalted
  · exact hown.explained h.arrivals hfrom st hst
  · rw [hsettled, List.append_cons] at hst
    rcases List.mem_append.mp hst with hst | hst
    · exact hown.explained h.arrivals hfrom st hst
    · -- a blocked message is settled as aborted
      obtain ⟨p, -, rfl⟩ := List.mem_map.mp hst
      exact .aborted _

end Run

end MessageRelay
