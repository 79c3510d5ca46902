import MessageRelay.Proofs.Run.Arrivals

/-!
# The reports of a run

A run reports every message, in batch order, with the outcome that settled it. The reports are read
off the list of what is settled (`MessageRelay.Run.map_outcome_reports`), and of that list one thing
has to be known, namely how it is made up when the run has come to its end
(`MessageRelay.Run.Finished.settled_cases`):

| policy | what is settled |
|---|---|
| no failure, or failures are skipped | all messages, each by what the gate was handed for it |
| the first failure aborts the run | those up to the failure likewise, the others as aborted by it |

The rest is a matter of what the gate can have been handed, which is a result that arrived or the
loss of a poll that died. In particular it is never an abortion, so an aborted message can only come
from behind a failure.
-/

namespace MessageRelay

/-- An outcome is the relay, one of the three failures, or the abortion by an earlier failure. -/
theorem Outcome.failure_cases {o : Outcome} (hrelayed : o.isRelayed = false)
    (hown : ∀ key, o ≠ .aborted key) :
    o = .finalityTimeout ∨ (∃ reason, o = .pollFailed reason) ∨
      ∃ reason, o = .relayFailed reason := by
  cases o with
  | relayed => exact nomatch hrelayed
  | finalityTimeout => exact Or.inl rfl
  | pollFailed reason => exact Or.inr (Or.inl ⟨reason, rfl⟩)
  | relayFailed reason => exact Or.inr (Or.inr ⟨reason, rfl⟩)
  | aborted key => exact absurd rfl (hown key)

namespace Run

/-! ### Reading reports off what is settled -/

section Reading

variable (s : State) (keys : List MessageKey)

/-- One report at a time. -/
theorem getElem?_reports (p : Nat) :
    (s.reports keys)[p]? = keys[p]?.map fun key =>
      ⟨key, (s.settled[p]?.map Settlement.outcome).getD
        (.pollFailed "message was never settled")⟩ := by
  rw [State.reports, List.getElem?_map, List.getElem?_zipIdx, Option.map_map]
  simp only [Nat.zero_add]
  rfl

/-- **There is one report for each message, under the message's key.** -/
theorem map_key_reports : (s.reports keys).map Report.key = keys := by
  refine List.ext_getElem? fun p => ?_
  rw [List.getElem?_map, getElem?_reports, Option.map_map]
  exact Option.map_id'

variable {s keys}

/-- **When every message is settled, the outcomes are those that were assigned.** -/
theorem map_outcome_reports (h : s.settled.length = keys.length) :
    (s.reports keys).map Report.outcome = s.settled.map Settlement.outcome := by
  refine List.ext_getElem? fun p => ?_
  rw [List.getElem?_map, getElem?_reports, List.getElem?_map, Option.map_map]
  rcases Nat.lt_or_ge p keys.length with hlt | hge
  · rw [List.getElem?_eq_getElem hlt, List.getElem?_eq_getElem (h ▸ hlt)]
    rfl
  · rw [List.getElem?_eq_none hge, List.getElem?_eq_none (h ▸ hge)]
    rfl

end Reading

/-! ### What is kept from take to take -/

section Growth

variable (c : RunConfig) (keys : List MessageKey) (relay : FinalizedMessage → Nat → RelayTrace)

theorem settled_offer (s : State) (position : Nat) (polled : Polled) :
    (s.offer position polled).settled = s.settled := by
  rw [State.offer]
  split
  · rfl
  · rfl

/-- Handing over the same for several messages takes no time, aborts, halts and settles nothing. -/
theorem foldl_offer_frame (missing : List Nat) (polled : Polled) (s : State) :
    (missing.foldl (fun s p => s.offer p polled) s).now = s.now ∧
      (missing.foldl (fun s p => s.offer p polled) s).aborted = s.aborted ∧
      (missing.foldl (fun s p => s.offer p polled) s).halted = s.halted ∧
      (missing.foldl (fun s p => s.offer p polled) s).settled = s.settled := by
  induction missing generalizing s with
  | nil => exact ⟨rfl, rfl, rfl, rfl⟩
  | cons p missing ih =>
    obtain ⟨hnow, haborted, hhalted⟩ := offer_frame s p polled
    obtain ⟨hnow', haborted', hhalted', hsettled'⟩ := ih (s.offer p polled)
    exact ⟨hnow'.trans hnow, haborted'.trans haborted, hhalted'.trans hhalted,
      hsettled'.trans (settled_offer s p polled)⟩

/-- **What the repair does**: nothing, or it hands over a loss for some messages and settles those
whose turn comes. -/
theorem repair_cases (s : State) :
    repair c keys relay s = s ∨ (s.halted = none ∧ s.aborted = false ∧ ∃ missing : List Nat,
      repair c keys relay s =
        (missing.foldl (fun s p => s.offer p lost) s).release c keys relay) := by
  rw [repair]
  split
  next => exact Or.inl rfl
  next hmissing =>
    rw [Bool.not_eq_true, Bool.or_eq_false_iff, Bool.or_eq_false_iff] at hmissing
    obtain ⟨⟨hhalted, haborted⟩, -⟩ := hmissing
    exact Or.inr ⟨Option.not_isSome_iff_eq_none.mp (Bool.eq_false_iff.mp hhalted), haborted, _, rfl⟩

/-- **What is kept from take to take**: taking a message keeps it, and it does not depend on the
clock, on the gate and on the polls that have ended, which is all that the driver's other moves
change. -/
structure Kept (P : State → Prop) : Prop where
  take : ∀ {s : State} (position : Nat) (polled : Polled), P s →
    P (s.take c keys relay position polled)
  frame : ∀ {s s' : State}, P s → s'.settled = s.settled → s'.events = s.events →
    s'.halted = s.halted → P s'

namespace Kept

variable {c keys relay} {P : State → Prop} {s : State}

theorem offer (h : Kept c keys relay P) (hs : P s) (position : Nat) (polled : Polled) :
    P (s.offer position polled) := by
  rw [State.offer]
  split
  · exact h.frame hs rfl rfl rfl
  · exact h.frame hs rfl rfl rfl

theorem release (h : Kept c keys relay P) (hs : P s) : P (s.release c keys relay) :=
  releaseUpTo_induction hs
    (fun hs _ _ => h.take _ _ (h.frame hs rfl rfl rfl)) s.gate.buffered

theorem step (h : Kept c keys relay P) (hs : P s) (d : Completion) :
    P (Run.step c keys relay s d) := by
  rcases step_cases s d with ⟨-, hstep⟩ | ⟨-, -, hstep⟩ | ⟨-, -, polled, -, hstep⟩
  · rw [hstep]
    exact hs
  · rw [hstep]
    exact h.frame hs rfl rfl rfl
  · rw [hstep]
    have hlearn : P { s with now := max s.now d.instant, latest := d.instant } :=
      h.frame hs rfl rfl rfl
    exact h.release (h.offer hlearn d.position polled)

theorem repair (h : Kept c keys relay P) (hs : P s) : P (Run.repair c keys relay s) := by
  rcases repair_cases c keys relay s with hrepair | ⟨-, -, missing, hrepair⟩
  · rw [hrepair]
    exact hs
  · rw [hrepair]
    exact h.release (List.foldlRecOn missing _ hs fun s hs p _ => h.offer hs p lost)

/-- **What is kept from take to take is kept to the end** from any time of the run on. -/
theorem finish (h : Kept c keys relay P) {earlier : List Completion}
    (hs : P (drive c keys relay earlier)) (later : List Completion) :
    P (Run.finish c keys relay (earlier ++ later)) := by
  have hdrive : P (drive c keys relay (earlier ++ later)) := by
    rw [drive, List.foldl_append]
    exact List.foldlRecOn later _ hs fun s hs d _ => h.step hs d
  rw [Run.finish]
  split
  · exact hdrive
  · exact h.repair hdrive

end Kept

/-! ### What is settled stays settled -/

theorem settled_prefix_settle (s : State) (position : Nat) (outcome : Outcome)
    (calls : List LedgerCall) : s.settled <+: (s.settle c keys position outcome calls).settled := by
  rw [State.settle]
  split
  · rw [State.abortBehind, List.append_assoc]
    exact List.prefix_append _ _
  · exact List.prefix_append _ _

/-- Taking a message adds to what is settled and takes nothing away. -/
theorem settled_prefix_take (s : State) (position : Nat) (polled : Polled) :
    s.settled <+: (s.take c keys relay position polled).settled := by
  cases polled with
  | failed outcome => exact settled_prefix_settle c keys s position outcome []
  | finalized m =>
    cases hend : (relay m s.now).ending with
    | result instant result =>
      simp only [State.take, hend]
      exact settled_prefix_settle c keys
        { s with now := instant, events := s.events ++ (relay m s.now).events } position _ _
    | death | stuck =>
      simp only [State.take, hend]
      exact List.prefix_rfl

/-- **What is settled at any time of a run is settled in the same way at its end.** -/
theorem settled_prefix_finish (earlier later : List Completion) :
    (drive c keys relay earlier).settled <+: (finish c keys relay (earlier ++ later)).settled := by
  have hkept : Kept c keys relay fun s => (drive c keys relay earlier).settled <+: s.settled :=
    { take := fun position polled hs =>
        hs.trans (settled_prefix_take c keys relay _ position polled)
      frame := fun hs hsettled _ _ => hsettled ▸ hs }
  exact hkept.finish List.prefix_rfl later

end Growth

variable {c : RunConfig} {ledger : Ledger} {batch : Batch} {handed : Handed} {s : State}
  {done : List Completion}

/-! ### What is settled in the end -/

/-- The messages up to a failure and those behind it make up the batch. -/
theorem map_position_blocked {before : List Settlement} {failure : Settlement}
    (hown : Series c ledger handed (before ++ [failure])) (hlt : before.length < batch.size) :
    (before ++ failure :: blocked batch failure).map Settlement.position =
      List.range batch.size := by
  have hposition : failure.position = before.length :=
    (hown.get (by rw [List.getElem?_concat_length])).1
  have hbehind : (blocked batch failure).map Settlement.position =
      List.range' (before.length + 1) (batch.size - (before.length + 1)) := by
    rw [blocked, List.map_map, hposition]
    exact List.map_id' _
  have hrange := @List.range'_append_1 0 (before.length + 1) (batch.size - (before.length + 1))
  rw [Nat.zero_add, Nat.add_sub_cancel' hlt] at hrange
  rw [List.append_cons, List.map_append, hown.map_position, hbehind, List.length_append,
    List.length_singleton, List.range_eq_range', List.range_eq_range', hrange]

/-- **How what is settled is made up** when a run has come to its end and no relay has halted it:
every message is settled by what the gate was handed for it, or those up to the first failure are
and the others are aborted by it. -/
theorem Finished.settled_cases (h : Finished c ledger batch done s) (hhalted : s.halted = none) :
    s.settled.map Settlement.position = List.range batch.size ∧
    ∃ handed, HandedFrom done handed ∧
      ((Series c ledger handed s.settled ∧
          (c.policy = .abortRemaining → ∀ st ∈ s.settled, st.outcome.isRelayed = true)) ∨
        (c.policy = .abortRemaining ∧ ∃ before failure,
          Series c ledger handed (before ++ [failure]) ∧
          (∀ st ∈ before, st.outcome.isRelayed = true) ∧ failure.outcome.isRelayed = false ∧
          s.settled = before ++ failure :: blocked batch failure)) := by
  obtain ⟨handed, hreach, hfrom, hall⟩ := h.exists_reaches
  rcases hreach.phase with hphase | hphase | hphase
  · have hlength := hall hhalted hphase.aborted
    refine ⟨?_, handed, hfrom, Or.inl ⟨hphase.series, hphase.relayed⟩⟩
    rw [hphase.series.map_position, hlength]
  · exact absurd hhalted hphase.halted_ne_none
  · obtain ⟨before, failure, hown, hbefore, hfailure, hsettled⟩ := hphase.settled
    have hlt := hphase.toSteady.length_le hown
    rw [List.length_append, List.length_singleton] at hlt
    refine ⟨?_, handed, hfrom, Or.inr ⟨hphase.policy, before, failure, hown, hbefore, hfailure,
      hsettled⟩⟩
    rw [hsettled]
    exact map_position_blocked hown hlt

/-- A run that no relay halts settles every message. -/
theorem Finished.length_settled (h : Finished c ledger batch done s) (hhalted : s.halted = none) :
    s.settled.length = batch.keys.length := by
  have hposition := congrArg List.length (h.settled_cases hhalted).1
  rw [List.length_map, List.length_range] at hposition
  rw [hposition, length_keys]

/-- A failure that was handed over is a poll that timed out or failed. -/
theorem HandedFrom.failed_cases (hfrom : HandedFrom done handed)
    (harrivals : Arrivals c ledger batch done) {p instant : Nat} {outcome : Outcome}
    (hp : handed p = some (instant, .failed outcome)) :
    outcome = .finalityTimeout ∨ ∃ reason, outcome = .pollFailed reason := by
  rcases hfrom p instant _ hp with hmem | ⟨hlost, -⟩
  · obtain ⟨m, horizon, r, -, -, heq⟩ := harrivals.result _ hmem _ rfl
    cases r with
    | finalized f => exact nomatch heq
    | timedOut => exact Or.inl (Polled.failed.inj heq)
    | failed e => exact Or.inr ⟨e.message, Polled.failed.inj heq⟩
  · exact Or.inr ⟨_, Polled.failed.inj hlost⟩

/-- **No poll comes to an abortion**: what settles a message that is not aborted is a relay or one
of the three failures. -/
theorem Series.outcome_ne_aborted {own : List Settlement} (hown : Series c ledger handed own)
    (harrivals : Arrivals c ledger batch done) (hfrom : HandedFrom done handed) :
    ∀ st ∈ own, ∀ key, st.outcome ≠ .aborted key := by
  intro st hst key
  obtain ⟨p, hp⟩ := List.getElem?_of_mem hst
  obtain ⟨-, instant, polled, start, hh, -, -, hsettles⟩ := hown.get hp
  cases hsettles with
  | relayed _ _ _ result =>
    cases result with
    | ok => exact nofun
    | error => exact nofun
  | failed _ outcome =>
    rcases hfrom.failed_cases harrivals hh with rfl | ⟨reason, rfl⟩
    · exact nofun
    · exact nofun

/-- A message without a result that is not aborted is settled as lost. -/
theorem Series.outcome_of_lost {own : List Settlement} (hown : Series c ledger handed own)
    (hfrom : HandedFrom done handed) {p : Nat} {st : Settlement} (hp : own[p]? = some st)
    (hlost : ∀ d ∈ done, d.position = p → d.polled = none) :
    st.outcome = .pollFailed "poll task ended unexpectedly" := by
  obtain ⟨-, instant, polled, start, hh, -, -, hsettles⟩ := hown.get hp
  rcases hfrom p instant polled hh with hmem | ⟨rfl, -⟩
  · exact nomatch hlost _ hmem rfl
  · cases hsettles
    rfl

/-- **What settles a message as a failed poll**: the error that its poll came to, or its loss. -/
theorem Series.pollFailed_cases {own : List Settlement} (hown : Series c ledger handed own)
    (harrivals : Arrivals c ledger batch done) (hfrom : HandedFrom done handed) {st : Settlement}
    (hst : st ∈ own) {reason : String} (hout : st.outcome = .pollFailed reason) :
    reason = "poll task ended unexpectedly" ∨ ∃ m horizon t e,
      (Poll.observe ledger m c.schedule horizon).ending = some (t, .result (.failed e)) ∧
        reason = e.message := by
  obtain ⟨p, hp⟩ := List.getElem?_of_mem hst
  obtain ⟨-, instant, polled, start, hh, -, -, hsettles⟩ := hown.get hp
  cases hsettles with
  | relayed _ _ _ result =>
    cases result with
    | ok tx => cases hout
    | error e => cases hout
  | failed _ outcome =>
    obtain rfl : outcome = .pollFailed reason := hout
    rcases hfrom p instant _ hh with hmem | ⟨hlost, -⟩
    · obtain ⟨m, horizon, result, -, hending, heq⟩ := harrivals.result _ hmem _ rfl
      cases result with
      | finalized f => cases heq
      | timedOut => cases heq
      | failed e =>
        cases heq
        exact Or.inr ⟨m, horizon, instant, e, hending, rfl⟩
    · cases hlost
      exact Or.inl rfl

/-! ### The reports -/

/-- A settled message is reported with its outcome. -/
theorem exists_report {keys : List MessageKey} {p : Nat} {st : Settlement}
    (hlength : s.settled.length = keys.length) (hp : s.settled[p]? = some st) :
    ∃ r, (s.reports keys)[p]? = some r ∧ r.outcome = st.outcome := by
  obtain ⟨hlt, -⟩ := List.getElem?_eq_some_iff.mp hp
  rw [hlength] at hlt
  refine ⟨⟨keys[p], st.outcome⟩, ?_, rfl⟩
  rw [getElem?_reports, List.getElem?_eq_getElem hlt, hp]
  rfl

/-- **Every message is reported once, in batch order, with an outcome that was assigned to it.** The
gate refuses nothing on the way, and a message whose poll has left no result is reported as lost or
as aborted. The only other thing that can happen to a run, if no submission dies and no backoff is
missing, is that a submission of one of its messages is never answered. -/
theorem every_message_reported (h : Finished c ledger batch done s)
    (hsubmit : ∀ m ∈ batch.messages, ∀ k start delay, ledger.submit m k start ≠ .death delay)
    (hback : ∀ k < c.retry.maxRetries.toNat, c.retry.backoff? (UInt32.ofNat k) ≠ none) :
    s.refused = [] ∧
      ((∃ m ∈ batch.messages, ∃ start, s.halted = some (Relay.submit ledger c.retry m start) ∧
          (Relay.submit ledger c.retry m start).ending = .stuck) ∨
        (s.halted = none ∧
          s.settled.map Settlement.position = List.range batch.size ∧
          (s.reports batch.keys).map Report.key = batch.keys ∧
          (s.reports batch.keys).map Report.outcome = s.settled.map Settlement.outcome ∧
          ∀ p < batch.size, (∀ d ∈ done, d.position = p → d.polled = none) →
            ∃ r, (s.reports batch.keys)[p]? = some r ∧
              (r.outcome = .pollFailed "poll task ended unexpectedly" ∨
                ∃ key, r.outcome = .aborted key))) := by
  obtain ⟨handed, hreach, hfrom, -⟩ := h.exists_reaches
  refine ⟨hreach.steady.accepted, ?_⟩
  cases hhalted : s.halted with
  | some relay =>
    left
    obtain ⟨instant, start, m, hh, -, -, hstopped, hresult⟩ := (hreach.halted_of hhalted).stopped
    rcases hfrom _ _ _ hh with hmem | ⟨hlost, -⟩
    · obtain ⟨hm, -⟩ := h.arrivals.finalized hmem
      have hm := List.mem_of_getElem? hm
      refine ⟨m.message, hm, start, hhalted.symm.trans hstopped, ?_⟩
      cases hend : (Relay.submit ledger c.retry m.message start).ending with
      | stuck => rfl
      | result t result => exact absurd hend (hresult t result)
      | death t => exact absurd hend (Relay.submit_ne_death ledger c.retry m.message start
          (hsubmit m.message hm) hback t)
    · exact nomatch hlost
  | none =>
    right
    have hlength := h.length_settled hhalted
    obtain ⟨hposition, handed, hfrom, hcases⟩ := h.settled_cases hhalted
    refine ⟨rfl, hposition, map_key_reports s batch.keys, map_outcome_reports hlength, ?_⟩
    intro p hp hlost
    obtain ⟨st, hst⟩ : ∃ st, s.settled[p]? = some st :=
      ⟨_, List.getElem?_eq_getElem (hlength ▸ length_keys batch ▸ hp)⟩
    obtain ⟨r, hr, hout⟩ := exists_report hlength hst
    refine ⟨r, hr, ?_⟩
    rw [hout]
    rcases hcases with ⟨hown, -⟩ | ⟨-, before, failure, hown, -, -, hsettled⟩
    · exact Or.inl (hown.outcome_of_lost hfrom hst hlost)
    · rw [hsettled, List.append_cons] at hst
      rcases Nat.lt_or_ge p (before ++ [failure]).length with hlt | hge
      · rw [List.getElem?_append_left hlt] at hst
        exact Or.inl (hown.outcome_of_lost hfrom hst hlost)
      · rw [List.getElem?_append_right hge] at hst
        obtain ⟨q, -, rfl⟩ := List.mem_map.mp (List.mem_of_getElem? hst)
        exact Or.inr ⟨_, rfl⟩

/-- The poll in the middle has died, and the message behind it is blocked. -/
theorem every_message_reported_three :
    let c : RunConfig := { retry := .disabled }
    let s := finish c Batch.three.keys (relayOn c (.prompt fun _ => successStatus)) threeArrivals
    (∀ d ∈ threeArrivals, d.position = 1 → d.polled = none) ∧ s.refused = [] ∧
      (s.reports Batch.three.keys).map Report.key = Batch.three.keys ∧
      (s.reports Batch.three.keys).map Report.outcome =
        [.relayed (Octets.replicate 32 1), .pollFailed "poll task ended unexpectedly",
          .aborted (Message.sample 2).key] := by
  intro c s
  have hhalted : s.halted = none := Option.isNone_iff_eq_none.mp outcomes_three.1
  obtain ⟨hrefused, ⟨m, -, start, hsome, -⟩ | ⟨-, -, hkeys, houtcomes, -⟩⟩ :=
    every_message_reported (finished_three .abortRemaining fun _ => successStatus)
      (fun m _ k start delay => nofun) (fun k hk => nomatch hk)
  · exact nomatch hhalted.symm.trans hsome
  · exact ⟨by decide, hrefused, hkeys, houtcomes.trans outcomes_three.2⟩

/-- What holds of all outcomes that were assigned holds of all that are reported. -/
theorem forall_outcome_of_map_eq {reports : List Report} {settled : List Settlement}
    (P : Outcome → Prop) (heq : reports.map Report.outcome = settled.map Settlement.outcome)
    (h : ∀ st ∈ settled, P st.outcome) : ∀ r ∈ reports, P r.outcome := by
  intro r hr
  have hmem : r.outcome ∈ reports.map Report.outcome := List.mem_map_of_mem hr
  rw [heq] at hmem
  obtain ⟨st, hst, hst'⟩ := List.mem_map.mp hmem
  rw [← hst']
  exact h st hst

/-- **A message is reported as a failed poll** with the error of its poll, or as lost. -/
theorem Finished.pollFailed_cases (h : Finished c ledger batch done s) (hhalted : s.halted = none)
    {r : Report} (hr : r ∈ s.reports batch.keys) {reason : String}
    (hout : r.outcome = .pollFailed reason) :
    reason = "poll task ended unexpectedly" ∨ ∃ m horizon t e,
      (Poll.observe ledger m c.schedule horizon).ending = some (t, .result (.failed e)) ∧
        reason = e.message := by
  obtain ⟨-, handed, hfrom, hcases⟩ := h.settled_cases hhalted
  have hsettled : ∀ st ∈ s.settled, st.outcome = .pollFailed reason →
      reason = "poll task ended unexpectedly" ∨ ∃ m horizon t e,
        (Poll.observe ledger m c.schedule horizon).ending = some (t, .result (.failed e)) ∧
          reason = e.message := by
    intro st hst hfailed
    rcases hcases with ⟨hown, -⟩ | ⟨-, before, failure, hown, -, -, heq⟩
    · exact hown.pollFailed_cases h.arrivals hfrom hst hfailed
    · rw [heq, List.append_cons] at hst
      rcases List.mem_append.mp hst with hst | hst
      · exact hown.pollFailed_cases h.arrivals hfrom hst hfailed
      · -- a blocked message is settled as aborted
        obtain ⟨p, -, rfl⟩ := List.mem_map.mp hst
        cases hfailed
  exact forall_outcome_of_map_eq (fun o => o = .pollFailed reason → _)
    (map_outcome_reports (h.length_settled hhalted)) hsettled r hr hout

/-- **The reports of an aborted run**: those of the messages in front of the failure, that of the
failure, and those of the messages that it blocks, which carry its key. -/
theorem reports_of_failure {before : List Settlement} {failure : Settlement}
    (hown : Series c ledger handed (before ++ [failure]))
    (hlength : s.settled.length = batch.keys.length)
    (hsettled : s.settled = before ++ failure :: blocked batch failure) :
    ∃ front r behind, s.reports batch.keys = front ++ r :: behind ∧
      front.map Report.outcome = before.map Settlement.outcome ∧ r.outcome = failure.outcome ∧
      ∀ b ∈ behind, b.outcome = .aborted r.key := by
  have hout := map_outcome_reports hlength
  rw [hsettled, List.map_append, List.map_cons] at hout
  obtain ⟨front, rest, hreports, hfront, hrest⟩ := List.map_eq_append_iff.mp hout
  obtain ⟨r, behind, rfl, hr, hbehind⟩ := List.map_eq_cons_iff.mp hrest
  -- the failure's report stands where the failure does, so it carries the failure's key
  have hfrontlength : front.length = before.length := by
    rw [← List.length_map Report.outcome, hfront, List.length_map]
  have hposition : failure.position = front.length := by
    rw [hfrontlength]
    exact (hown.get (by rw [List.getElem?_concat_length])).1
  have hkey : batch.keys[failure.position]? = some r.key := by
    rw [hposition, ← map_key_reports s batch.keys, List.getElem?_map, hreports,
      List.getElem?_append_right (Nat.le_refl _), Nat.sub_self]
    rfl
  refine ⟨front, r, behind, hreports, hfront, hr,
    forall_outcome_of_map_eq (fun o => o = .aborted r.key) hbehind fun st hst => ?_⟩
  obtain ⟨p, -, rfl⟩ := List.mem_map.mp hst
  rw [hkey]
  rfl

/-- The first failure stands behind the messages that were relayed. -/
theorem firstFailure_append {relayed rest : List Report}
    (h : ∀ r ∈ relayed, r.outcome.isRelayed = true) :
    Report.firstFailure (relayed ++ rest) = Report.firstFailure rest := by
  rw [Report.firstFailure, List.find?_append]
  have hnone : relayed.find? (fun r => !r.isRelayed) = none := by
    refine List.find?_eq_none.mpr fun r hr => ?_
    rw [Report.isRelayed, h r hr]
    exact Bool.false_ne_true
  rw [hnone, Option.none_or]
  rfl

/-- **The shape of the reports.** If failures abort the run, there are messages that were relayed
and behind them nothing, or one failure and behind it messages aborted by it. If failures are
skipped, no message is aborted. In either case what is settled at any time of the run is reported
so. -/
theorem reports_shape (h : Finished c ledger batch done s) (hhalted : s.halted = none) :
    (c.policy = .abortRemaining →
      ((∀ r ∈ s.reports batch.keys, r.isRelayed = true) ∧
        Report.firstFailure (s.reports batch.keys) = none) ∨
      ∃ relayed failure blocked, s.reports batch.keys = relayed ++ failure :: blocked ∧
        (∀ r ∈ relayed, r.isRelayed = true) ∧
        (failure.outcome = .finalityTimeout ∨ (∃ reason, failure.outcome = .pollFailed reason) ∨
          ∃ reason, failure.outcome = .relayFailed reason) ∧
        (∀ r ∈ blocked, r.outcome = .aborted failure.key) ∧
        Report.firstFailure (s.reports batch.keys) = some failure) ∧
    (c.policy = .skipAndContinue → ∀ r ∈ s.reports batch.keys, ∀ key, r.outcome ≠ .aborted key) ∧
    ∀ (earlier later : List Completion) (p : Nat) (st : Settlement), done = earlier ++ later →
      (drive c batch.keys (relayOn c ledger) earlier).settled[p]? = some st →
        ∃ r, (s.reports batch.keys)[p]? = some r ∧ r.outcome = st.outcome := by
  have hlength := h.length_settled hhalted
  have hout := map_outcome_reports hlength
  obtain ⟨-, handed, hfrom, hcases⟩ := h.settled_cases hhalted
  refine ⟨fun hpolicy => ?_, fun hpolicy => ?_, ?_⟩
  · rcases hcases with ⟨-, hrelayed⟩ | ⟨-, before, failure, hown, hbefore, hfailure, hsettled⟩
    · left
      have hreports : ∀ r ∈ s.reports batch.keys, r.outcome.isRelayed = true :=
        forall_outcome_of_map_eq (fun o => o.isRelayed = true) hout (hrelayed hpolicy)
      refine ⟨hreports, ?_⟩
      rw [← List.append_nil (s.reports batch.keys), firstFailure_append hreports]
      rfl
    · right
      obtain ⟨relayed, r, behind, hreports, hfront, hr, hbehind⟩ :=
        reports_of_failure hown hlength hsettled
      have hrelayed : ∀ r ∈ relayed, r.outcome.isRelayed = true :=
        forall_outcome_of_map_eq (fun o => o.isRelayed = true) hfront hbefore
      have hmem : failure ∈ before ++ [failure] :=
        List.mem_append_right before (List.mem_singleton_self failure)
      refine ⟨relayed, r, behind, hreports, hrelayed, ?_, hbehind, ?_⟩
      · rw [hr]
        exact Outcome.failure_cases hfailure
          (hown.outcome_ne_aborted h.arrivals hfrom failure hmem)
      · rw [hreports, firstFailure_append hrelayed]
        exact List.find?_cons_of_pos (by rw [Report.isRelayed, hr, hfailure]; rfl)
  · rcases hcases with ⟨hown, -⟩ | ⟨habort, -⟩
    · intro r hr key
      exact forall_outcome_of_map_eq (fun o => o ≠ .aborted key) hout
        (fun st hst => hown.outcome_ne_aborted h.arrivals hfrom st hst key) r hr
    · exact nomatch hpolicy.symm.trans habort
  · rintro earlier later p st rfl hst
    obtain ⟨more, hmore⟩ := settled_prefix_finish c batch.keys (relayOn c ledger) earlier later
    refine exists_report hlength ?_
    obtain ⟨hlt, -⟩ := List.getElem?_eq_some_iff.mp hst
    rw [h.state, ← hmore, List.getElem?_append_left hlt]
    exact hst

/-- Behind the first message the second one is lost, and it blocks the third one. -/
theorem reports_shape_three :
    let c : RunConfig := { retry := .disabled }
    let s := finish c Batch.three.keys (relayOn c (.prompt fun _ => successStatus)) threeArrivals
    s.halted = none ∧ ∃ relayed failure blocked,
      s.reports Batch.three.keys = relayed ++ failure :: blocked ∧
        (∀ r ∈ relayed, r.isRelayed = true) ∧ (∀ r ∈ blocked, r.outcome = .aborted failure.key) ∧
        Report.firstFailure (s.reports Batch.three.keys) = some failure := by
  intro c s
  have hfinished := finished_three .abortRemaining fun _ => successStatus
  have hhalted : s.halted = none := Option.isNone_iff_eq_none.mp outcomes_three.1
  obtain ⟨hshape, -⟩ := reports_shape hfinished hhalted
  rcases hshape rfl with ⟨hall, -⟩ |
    ⟨relayed, failure, blocked, hreports, hrelayed, -, hblocked, hfirst⟩
  · -- the second message was not relayed
    have hmem : .pollFailed "poll task ended unexpectedly" ∈
        (s.reports Batch.three.keys).map Report.outcome := by
      rw [map_outcome_reports (hfinished.length_settled hhalted), outcomes_three.2]
      decide
    obtain ⟨r, hr, hout⟩ := List.mem_map.mp hmem
    have hrelayed := hall r hr
    rw [Report.isRelayed, hout] at hrelayed
    exact nomatch hrelayed
  · exact ⟨hhalted, relayed, failure, blocked, hreports, hrelayed, hblocked, hfirst⟩

end Run

end MessageRelay
