import MessageRelay.Proofs.Relay.Answers
import MessageRelay.Proofs.Run.Reports
import MessageRelay.Proofs.Run.Submissions
import MessageRelay.Scripted.Destination

/-!
# Reports agree with the ledger

What a run reports of a message and what the destination ledger knows of it are two records of the
same thing: the one is the outcome, the other one the answers to the submissions. They agree if a
message is reported as relayed exactly when the ledger has accepted it. The whole point is
`MessageRelay.Run.Agrees`, which lists the five ways in which submissions and an outcome can belong
together:

| submissions | outcome |
|---|---|
| none | timed out, failed to be polled, or aborted |
| errors, and an accepted one behind them | relayed, by the transaction of that receipt |
| errors, and a refused one behind them | failed to be relayed |

Every message of a run is settled in one of them (`MessageRelay.Run.Finished.agrees`): a relay ends
as its last submission was answered, and the others are settled without a relay. A scripted ledger
keeps a list of the messages that it has accepted, and that list is read off the same submissions.
-/

namespace MessageRelay

namespace Run

/-! ### Submissions and outcomes -/

/-- **How the submissions of a message and its outcome belong together.** -/
inductive Agrees : List LedgerCall → Outcome → Prop where
  /-- A message is relayed by the last one of its submissions. -/
  | relayed {front : List LedgerCall} {last : LedgerCall} {tx : Hash} :
      (∀ call ∈ front, call.HasFailed) → last.accepted? = some tx →
      Agrees (front ++ [last]) (.relayed tx)
  /-- A message that was submitted fails with the last one of its submissions. -/
  | relayFailed {front : List LedgerCall} {last : LedgerCall} (reason : String) :
      (∀ call ∈ front, call.HasFailed) → last.IsRefused →
      Agrees (front ++ [last]) (.relayFailed reason)
  /-- A message that was not final in time is not submitted. -/
  | finalityTimeout : Agrees [] .finalityTimeout
  /-- Nor is one whose poll has failed. -/
  | pollFailed (reason : String) : Agrees [] (.pollFailed reason)
  /-- Nor is one that is aborted. -/
  | aborted (blockedBy : MessageKey) : Agrees [] (.aborted blockedBy)

namespace Agrees

variable {calls : List LedgerCall} {outcome : Outcome}

/-- **A message is relayed exactly when the ledger has accepted one of its submissions**, and by the
transaction of that receipt. -/
theorem eq_relayed_iff (h : Agrees calls outcome) {tx : Hash} :
    outcome = .relayed tx ↔ ∃ call ∈ calls, call.accepted? = some tx := by
  cases h with
  | @relayed front last tx' hfront hlast =>
    constructor
    · rintro ⟨⟩
      exact ⟨last, List.mem_append_right _ (List.mem_singleton_self last), hlast⟩
    · rintro ⟨call, hcall, haccepted⟩
      rcases List.mem_append.mp hcall with hcall | hcall
      · rw [(hfront call hcall).accepted?] at haccepted
        exact nomatch haccepted
      · obtain rfl := List.mem_singleton.mp hcall
        rw [Option.some.inj (hlast.symm.trans haccepted)]
  | @relayFailed front last reason hfront hlast =>
    refine iff_of_false nofun ?_
    rintro ⟨call, hcall, haccepted⟩
    have hnone : call.accepted? = none := by
      rcases List.mem_append.mp hcall with hcall | hcall
      · exact (hfront call hcall).accepted?
      · rw [List.mem_singleton.mp hcall]
        exact hlast.accepted?
    exact nomatch hnone.symm.trans haccepted
  | finalityTimeout | pollFailed | aborted => simp

/-- **An accepted submission is the last one**, and the only one that was accepted. -/
theorem accepted_last (h : Agrees calls outcome) {front back : List LedgerCall} {call : LedgerCall}
    (hcalls : calls = front ++ call :: back) (haccepted : call.accepted? ≠ none) :
    back = [] ∧ ∀ other ∈ front, other.accepted? = none := by
  -- all calls but the last one have failed
  have hsplit : ∀ {failed : List LedgerCall} {last : LedgerCall},
      (∀ call ∈ failed, call.HasFailed) → failed ++ [last] = front ++ call :: back →
      back = [] ∧ ∀ other ∈ front, other.accepted? = none := by
    intro failed last hfailed heq
    rcases List.eq_nil_or_concat back with rfl | ⟨back, other, rfl⟩
    · obtain ⟨rfl, -⟩ := List.append_inj' heq rfl
      exact ⟨rfl, fun other hother => (hfailed other hother).accepted?⟩
    · rw [List.concat_eq_append, ← List.cons_append, ← List.append_assoc] at heq
      obtain ⟨rfl, -⟩ := List.append_inj' heq rfl
      have hcall := hfailed call (List.mem_append_right _ List.mem_cons_self)
      exact absurd hcall.accepted? haccepted
  cases h with
  | relayed hfront => exact hsplit hfront hcalls
  | relayFailed reason hfront => exact hsplit hfront hcalls
  | finalityTimeout | pollFailed | aborted => simp at hcalls

/-- **A message fails to be relayed exactly when the ledger has refused the last one of its
submissions.** -/
theorem relayFailed_iff (h : Agrees calls outcome) :
    (∃ reason, outcome = .relayFailed reason) ↔
      ∃ last, calls.getLast? = some last ∧ last.IsRefused := by
  cases h with
  | @relayed front last tx hfront hlast =>
    refine iff_of_false nofun ?_
    rintro ⟨call, hcall, hrefused⟩
    obtain rfl : last = call := by simpa using hcall
    exact nomatch hrefused.accepted?.symm.trans hlast
  | @relayFailed front last reason hfront hlast =>
    exact iff_of_true ⟨reason, rfl⟩ ⟨last, by simp, hlast⟩
  | finalityTimeout | pollFailed | aborted => simp

/-- **A message that timed out, failed to be polled or was aborted has not been submitted.** -/
theorem eq_nil (h : Agrees calls outcome)
    (hout : outcome = .finalityTimeout ∨ (∃ reason, outcome = .pollFailed reason) ∨
      ∃ key, outcome = .aborted key) : calls = [] := by
  cases h with
  | relayed | relayFailed => simp at hout
  | finalityTimeout | pollFailed | aborted => rfl

end Agrees

/-! ### Every message of a run -/

variable {c : RunConfig} {ledger : Ledger} {batch : Batch} {handed : Handed} {s : State}
  {done : List Completion}

/-- A message that was settled by what was handed over for it agrees with the ledger. -/
theorem Settles.agrees {start : Nat} {polled : Polled} {st : Settlement}
    (h : Settles c ledger start polled st)
    (hfailed : ∀ outcome, polled = .failed outcome →
      outcome = .finalityTimeout ∨ ∃ reason, outcome = .pollFailed reason) :
    Agrees st.calls st.outcome := by
  cases h with
  | failed position outcome =>
    rcases hfailed outcome rfl with rfl | ⟨reason, rfl⟩
    · exact .finalityTimeout
    · exact .pollFailed reason
  | relayed position instant m result hending =>
    obtain ⟨front, last, hcalls, hfront, ⟨tx, rfl, hlast⟩ | ⟨e, rfl, hlast⟩⟩ :=
      Relay.submit_concludes hending
    · rw [relayOn, hcalls]
      exact .relayed hfront hlast
    · rw [relayOn, hcalls]
      exact .relayFailed e.message hfront hlast

/-- So do all messages of a series. -/
theorem Series.agrees {own : List Settlement} (hown : Series c ledger handed own)
    (harrivals : Arrivals c ledger batch done) (hfrom : HandedFrom done handed) :
    ∀ st ∈ own, Agrees st.calls st.outcome := by
  intro st hst
  obtain ⟨p, hp⟩ := List.getElem?_of_mem hst
  obtain ⟨-, instant, polled, start, hh, -, -, hsettles⟩ := hown.get hp
  refine hsettles.agrees fun outcome hfailed => ?_
  rw [hfailed] at hh
  exact hfrom.failed_cases harrivals hh

/-- **Every message of a run is settled in agreement with the ledger**, those that a failure blocks
among them. -/
theorem Finished.agrees (h : Finished c ledger batch done s) (hhalted : s.halted = none) :
    ∀ st ∈ s.settled, Agrees st.calls st.outcome := by
  obtain ⟨-, handed, hfrom, ⟨hown, -⟩ | ⟨-, before, failure, hown, -, -, hsettled⟩⟩ :=
    h.settled_cases hhalted
  · exact hown.agrees h.arrivals hfrom
  · intro st hst
    rw [hsettled, List.append_cons] at hst
    rcases List.mem_append.mp hst with hst | hst
    · exact hown.agrees h.arrivals hfrom st hst
    · obtain ⟨q, -, rfl⟩ := List.mem_map.mp hst
      exact .aborted _

/-! ### The submissions of one message -/

/-- **All submissions of a run for the message at a position**, in order. -/
def State.callsFor (s : State) (p : Nat) : List LedgerCall :=
  (s.blocks.filter fun b => b.1 == p).flatMap Prod.snd

/-- Messages that are settled in batch order are settled at their positions. -/
theorem position_of_getElem? {settled : List Settlement} {n p : Nat} {st : Settlement}
    (hposition : settled.map Settlement.position = List.range n) (hp : settled[p]? = some st) :
    st.position = p := by
  have hget : (settled.map Settlement.position)[p]? = some st.position := by
    rw [List.getElem?_map, hp, Option.map_some]
  rw [hposition] at hget
  obtain ⟨hlt, hget⟩ := List.getElem?_eq_some_iff.mp hget
  rw [← hget, List.getElem_range]

/-- Only one of them has a given position. -/
theorem filter_position {settled : List Settlement} {n p : Nat} {st : Settlement}
    (hposition : settled.map Settlement.position = List.range n) (hp : settled[p]? = some st) :
    settled.filter (fun st => st.position == p) = [st] := by
  have hst := position_of_getElem? hposition hp
  have hmem : st ∈ settled.filter (fun st => st.position == p) :=
    List.mem_filter.mpr ⟨List.mem_of_getElem? hp, beq_iff_eq.mpr hst⟩
  -- the position occurs once in the list of all positions
  have hrange : p ∈ List.range n := by
    rw [← hposition, ← hst]
    exact List.mem_map_of_mem (List.mem_of_getElem? hp)
  have honce : (settled.filter fun st => st.position == p).map Settlement.position = [p] := by
    have hcount : (List.range n).count p = 1 := List.count_eq_one_of_mem List.nodup_range hrange
    have hfilter := List.filter_map (f := Settlement.position) (p := (· == p)) (l := settled)
    rw [hposition, List.filter_beq, hcount] at hfilter
    exact hfilter.symm
  obtain ⟨only, honly, -⟩ := List.map_eq_singleton_iff.mp honce
  rw [honly] at hmem ⊢
  rw [List.mem_singleton.mp hmem]

/-- **The submissions for a message are those that settled it.** -/
theorem callsFor_eq {n p : Nat} {st : Settlement} (hhalted : s.halted = none)
    (hposition : s.settled.map Settlement.position = List.range n)
    (hp : s.settled[p]? = some st) : s.callsFor p = st.calls := by
  have hblocks : s.blocks.filter (fun b => b.1 == p) =
      blocksOf (s.settled.filter fun st => st.position == p) := by
    rw [State.blocks, hhalted, Option.map_none, Option.toList_none, List.append_nil, blocksOf,
      blocksOf, List.filter_map, List.filter_filter, List.filter_filter]
    congr 1
    refine List.filter_congr fun st _ => ?_
    exact Bool.and_comm _ _
  rw [State.callsFor, hblocks, flatMap_blocksOf, filter_position hposition hp,
    List.flatMap_singleton]

/-! ### The ledger's own list -/

/-- **All submissions of a run**, in order and under the keys of their messages. -/
def State.record (s : State) (batch : Batch) : List (MessageKey × LedgerCall) :=
  s.blocks.flatMap fun b => b.2.map fun call => (batch.keys[b.1]?.getD default, call)

/-- Of the submissions for a message, one is accepted if the message is relayed, and none else. -/
theorem Agrees.map_accepted {calls : List LedgerCall} {outcome : Outcome}
    (h : Agrees calls outcome) (key : MessageKey) :
    (calls.filter fun call => call.accepted?.isSome).map (fun _ => key) =
      if outcome.isRelayed then [key] else [] := by
  have hfailed : ∀ {front : List LedgerCall}, (∀ call ∈ front, call.HasFailed) →
      front.filter (fun call => call.accepted?.isSome) = [] := by
    intro front hfront
    refine List.filter_eq_nil_iff.mpr fun call hcall => ?_
    rw [(hfront call hcall).accepted?]
    simp
  cases h with
  | relayed hfront hlast => simp [hfailed hfront, hlast, Outcome.isRelayed]
  | relayFailed reason hfront hlast =>
    simp [hfailed hfront, hlast.accepted?, Outcome.isRelayed]
  | finalityTimeout | pollFailed | aborted => rfl

/-- The reports of messages that are settled in batch order, in terms of what settled them. -/
theorem reports_eq_map {keys : List MessageKey}
    (hposition : s.settled.map Settlement.position = List.range keys.length) :
    s.reports keys =
      s.settled.map fun st => ⟨keys[st.position]?.getD default, st.outcome⟩ := by
  have hlength : s.settled.length = keys.length := by
    simpa using congrArg List.length hposition
  refine List.ext_getElem? fun p => ?_
  rw [getElem?_reports, List.getElem?_map]
  rcases Nat.lt_or_ge p keys.length with hlt | hge
  · obtain ⟨st, hst⟩ : ∃ st, s.settled[p]? = some st :=
      ⟨_, List.getElem?_eq_getElem (hlength ▸ hlt)⟩
    have hp : st.position = p := position_of_getElem? hposition hst
    simp [hlt, hst, hp]
  · simp [hge, hlength]

/-- **The accepted submissions of a run belong to the messages that are reported as relayed**, one
to each of them and in the same order. -/
theorem Finished.accepted_record (h : Finished c ledger batch done s) (hhalted : s.halted = none) :
    ((s.record batch).filter fun e => e.2.accepted?.isSome).map Prod.fst =
      ((s.reports batch.keys).filter Report.isRelayed).map Report.key := by
  have hposition := (h.settled_cases hhalted).1
  rw [← length_keys] at hposition
  have hagrees := h.agrees hhalted
  rw [reports_eq_map hposition, State.record, State.blocks, hhalted, Option.map_none,
    Option.toList_none, List.append_nil]
  -- message by message
  revert hagrees
  generalize s.settled = settled
  intro hagrees
  induction settled with
  | nil => rfl
  | cons st settled ih =>
    have ih := ih fun st hst => hagrees st (List.mem_cons_of_mem _ hst)
    have hst := (hagrees st List.mem_cons_self).map_accepted
      (batch.keys[st.position]?.getD default)
    have hcalls : (blocksOf [st]).flatMap (fun b =>
        b.2.map fun call => (batch.keys[b.1]?.getD default, call)) =
        st.calls.map fun call => (batch.keys[st.position]?.getD default, call) := by
      by_cases hne : st.calls = []
      · simp [blocksOf, hne]
      · simp [blocksOf, hne]
    rw [← List.singleton_append, blocksOf_append, List.flatMap_append, List.filter_append,
      List.map_append, ih, hcalls, List.map_append, List.filter_append, List.map_append]
    congr 1
    rw [List.filter_map, List.map_map]
    refine Eq.trans hst ?_
    by_cases hrelayed : st.outcome.isRelayed = true
    · simp [Report.isRelayed, hrelayed]
    · simp [Report.isRelayed, hrelayed]

end Run

/-! ### What a script remembers -/

namespace Scripted.Destination

variable (script : Destination)

/-- What a script has been asked after some calls, each one under the key of its message. -/
def rememberAll (past : Past) (history : List (MessageKey × LedgerCall)) : Past :=
  history.foldl (fun past e => script.remember past e.1 e.2) past

/-- A script adds a key to the list of delivered messages when it accepts a submission. -/
theorem relayed_remember (past : Past) (key : MessageKey) (c : LedgerCall) :
    (script.remember past key c).relayed =
      past.relayed ++ if c.kind = .submit ∧ c.accepted?.isSome = true then [key] else [] := by
  obtain ⟨kind, start, answer⟩ := c
  cases kind with
  | estimate => simp [remember]
  | check gas => cases answer <;> simp [remember]
  | finalityTime => cases h : (script.part key (·.finalityTimeError)).isSome <;> simp [remember, h]
  | submit =>
    rcases answer with _ | ⟨t, answer⟩
    · simp [remember, LedgerCall.accepted?]
    · cases answer with
      | receipt r =>
        by_cases hstatus : r.status = successStatus <;>
          simp [remember, LedgerCall.accepted?, hstatus]
      | cost | finality | time | failure => simp [remember, LedgerCall.accepted?]

/-- **The list of delivered messages grows by those of the accepted submissions**, in order. -/
theorem relayed_rememberAll (past : Past) (history : List (MessageKey × LedgerCall)) :
    (script.rememberAll past history).relayed =
      past.relayed ++ (((history.filter fun e => e.2.kind == .submit).filter
        fun e => e.2.accepted?.isSome).map Prod.fst) := by
  induction history generalizing past with
  | nil => simp [rememberAll]
  | cons e history ih =>
    have hcons : script.rememberAll past (e :: history) =
        script.rememberAll (script.remember past e.1 e.2) history := rfl
    rw [hcons, ih, relayed_remember, List.append_assoc]
    congr 1
    by_cases hsubmit : e.2.kind = .submit
    · by_cases haccepted : e.2.accepted?.isSome = true <;> simp [hsubmit, haccepted]
    · simp [hsubmit]

end Scripted.Destination

namespace Run

variable {c : RunConfig} {ledger : Ledger} {batch : Batch} {s : State} {done : List Completion}

/-! ### The agreement -/

/-- **Reports agree with the ledger.** A message is reported as relayed by a transaction exactly
when the ledger answered one of its submissions with a successful receipt of that transaction; such
an answer is the last one that the message gets, and the only one of its kind. It is reported as
failed to be relayed exactly when the last answer is an error or a receipt of another status. A
message that timed out, failed to be polled or was aborted has not been submitted. If the ledger is
a script, its list of delivered messages grows by the keys of the messages that are reported as
relayed, in batch order, and no key occurs twice among them. -/
theorem reports_agree (h : Finished c ledger batch done s) (hhalted : s.halted = none) :
    (∀ p m, batch.messages[p]? = some m →
      ∃ r, (s.reports batch.keys)[p]? = some r ∧ r.key = m.key ∧
        (∀ tx, r.outcome = .relayed tx ↔ ∃ call ∈ s.callsFor p, ∃ t receipt,
          call.answer = some (t, .receipt receipt) ∧ receipt.status = successStatus ∧
            receipt.transaction = tx) ∧
        (∀ front call back, s.callsFor p = front ++ call :: back → call.accepted? ≠ none →
          back = [] ∧ ∀ other ∈ front, other.accepted? = none) ∧
        ((∃ reason, r.outcome = .relayFailed reason) ↔
          ∃ last, (s.callsFor p).getLast? = some last ∧ last.IsRefused) ∧
        (r.outcome = .finalityTimeout ∨ (∃ reason, r.outcome = .pollFailed reason) ∨
          (∃ key, r.outcome = .aborted key) → s.callsFor p = [])) ∧
    (∀ (script : Scripted.Destination) (past : Scripted.Past)
      (history : List (MessageKey × LedgerCall)), ledger = script.ledger past →
      history.filter (fun e => e.2.kind == .submit) = s.record batch →
      (script.rememberAll past history).relayed = past.relayed ++
        ((s.reports batch.keys).filter Report.isRelayed).map Report.key) ∧
    (((s.reports batch.keys).filter Report.isRelayed).map Report.key).Nodup := by
  have hlength := h.length_settled hhalted
  have hposition := (h.settled_cases hhalted).1
  refine ⟨fun p m hm => ?_, fun script past history _ hhistory => ?_, ?_⟩
  · have hkey : batch.keys[p]? = some m.key := by
      rw [Batch.keys, List.getElem?_map, hm, Option.map_some]
    obtain ⟨hlt, -⟩ := List.getElem?_eq_some_iff.mp hkey
    obtain ⟨st, hst⟩ : ∃ st, s.settled[p]? = some st :=
      ⟨_, List.getElem?_eq_getElem (hlength ▸ hlt)⟩
    have hagrees := h.agrees hhalted st (List.mem_of_getElem? hst)
    rw [callsFor_eq hhalted hposition hst]
    refine ⟨⟨m.key, st.outcome⟩, ?_, rfl, fun tx => ?_,
      fun front call back => hagrees.accepted_last, hagrees.relayFailed_iff, hagrees.eq_nil⟩
    · rw [getElem?_reports, hkey, hst]
      rfl
    · rw [hagrees.eq_relayed_iff]
      simp only [LedgerCall.accepted?_eq_some_iff]
  · rw [script.relayed_rememberAll, hhistory, h.accepted_record hhalted]
  · have hnodup := batch.nodup_keys
    change batch.keys.Nodup at hnodup
    rw [← map_key_reports s batch.keys] at hnodup
    exact hnodup.sublist (List.filter_sublist.map Report.key)

/-- A script under which the third message is reverted. -/
def revertsThird : Scripted.Destination :=
  { keys := [((Message.sample 3).key, { relayStatus := some 0 })] }

/-- The script calls every message final at once. -/
theorem finalAtOnce_revertsThird (m : Message) : (revertsThird.ledger {}).FinalAtOnce m := by
  refine ⟨100000, ?_, ?_⟩
  · by_cases hm : (Message.sample 3).key = m.key <;>
      simp [Scripted.Destination.ledger, Scripted.Destination.sleep, Clock.wake, Clock.after?,
        Clock.limit, Scripted.Destination.estimateAnswer, Scripted.Destination.part, revertsThird,
        hm]
  · by_cases hm : (Message.sample 3).key = m.key <;>
      simp [Scripted.Destination.ledger, Scripted.Destination.sleep, Clock.wake, Clock.after?,
        Clock.limit, Scripted.Destination.checkDelay, Scripted.Destination.checkAnswer,
        Scripted.Destination.part, revertsThird, hm]

/-- The first message is delivered, the second one is not submitted since its poll has died, and the
third one is reverted. -/
theorem reports_agree_three :
    let c : RunConfig := { policy := .skipAndContinue, retry := .disabled }
    let ledger := revertsThird.ledger {}
    let s := finish c Batch.three.keys (relayOn c ledger) threeArrivals
    s.halted = none ∧ s.callsFor 1 = [] ∧
      (∃ last, (s.callsFor 2).getLast? = some last ∧ last.IsRefused) ∧
      (revertsThird.rememberAll {} (s.record Batch.three)).relayed = [(Message.sample 1).key] := by
  intro c ledger s
  have hfinished : Finished c ledger Batch.three threeArrivals s :=
    ⟨arrivals_three_of_final finalAtOnce_revertsThird (by decide) (by decide), Or.inr (by decide),
      rfl⟩
  have hhalted : s.halted = none := Option.isNone_iff_eq_none.mp (by decide)
  obtain ⟨hmessages, hrelayed, -⟩ := reports_agree hfinished hhalted
  obtain ⟨second, hsecond, -, -, -, -, hnone⟩ := hmessages 1 (.sample 2) rfl
  obtain ⟨third, hthird, -, -, -, hfailed, -⟩ := hmessages 2 (.sample 3) rfl
  refine ⟨hhalted, hnone (Or.inr (Or.inl ⟨"poll task ended unexpectedly", ?_⟩)), hfailed.mp ?_, ?_⟩
  · have hlost : (s.reports Batch.three.keys)[1]?.map Report.outcome =
        some (.pollFailed "poll task ended unexpectedly") := by decide
    rw [hsecond] at hlost
    exact Option.some.inj hlost
  · have hstate : (s.reports Batch.three.keys)[2]?.map (fun r => r.outcome.state) =
        some .relayFailed := by decide
    rw [hthird] at hstate
    have hstate : third.outcome.state = .relayFailed := Option.some.inj hstate
    cases hout : third.outcome with
    | relayFailed reason => exact ⟨reason, rfl⟩
    | relayed | finalityTimeout | pollFailed | aborted =>
      rw [hout] at hstate
      exact nomatch hstate
  · rw [hrelayed revertsThird {} (s.record Batch.three) rfl (by decide)]
    decide

end Run

end MessageRelay
