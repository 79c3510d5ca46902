import Mathlib.Data.List.Forall2
import MessageRelay.Proofs.Calls
import MessageRelay.Proofs.Relay.Broadcasts
import MessageRelay.Proofs.Run.Agreement

/-!
# Messages that were delivered

A run reports a message as relayed, and what that says about the destination node is found at the
other end of a chain: the report is the outcome that settled the message, the outcome is the receipt
that answered the last submission, the receipt comes of a look-up, and the look-up stands behind a
broadcast that the node has accepted. `MessageRelay.DestinationClient.Delivered` is the far end of
it, a transaction that carries the message and that the node has reported as mined with success.

The chain is followed once, for a single relay (`MessageRelay.DestinationClient.exists_delivered`).
A series of messages that were all relayed is delivered along the series, so one delivery is
answered before the next one is made (`MessageRelay.Run.Series.exists_deliveries`), and a run whose
reports are all relayed is such a series (`MessageRelay.Run.Finished.exists_deliveries`).
-/

namespace MessageRelay

namespace DestinationClient

open Rpc

/-! ### One delivery -/

/-- A submission with the transaction that it sends. -/
structure Delivery where
  /-- How many submissions of the message were made before. -/
  number : Nat
  /-- When it was made. -/
  start : Nat
  /-- When it was answered. -/
  stop : Nat
  /-- What it sends. -/
  transaction : Transaction

variable (c : DestinationClient) (provider : DestinationProvider)

/-- **A message was delivered**: the transaction calls the messenger with the message, and the node
has reported it as mined with success. -/
structure Delivered (m : Message) (d : Delivery) : Prop where
  /-- The relayer calls the messenger with it. -/
  sends : c.Delivers m d.transaction
  /-- The call carries the message. -/
  carries : ContractCall.relayMessage.decode? d.transaction.input = some (.ofMessage m)
  /-- It was mined with success. -/
  mined : ∃ r, (c.send provider m d.number d.start).Mined d.transaction r ∧ r.succeeded = true
  /-- With that receipt the submission was answered. -/
  answered : ∃ receipt, ((c.ledger provider).submit m d.number d.start).answerAt d.start =
    some (d.stop, .ok receipt)

/-- The transactions that are sent in the submissions of a message, in order. -/
def sentBy (m : Message) (calls : List LedgerCall) : List Transaction :=
  calls.zipIdx.flatMap fun (call, k) => (c.send provider m k call.start).broadcasts

/-- The transactions that are sent to settle a message of a batch. -/
def sentFor (batch : Batch) (st : Settlement) : List Transaction :=
  match batch.messages[st.position]? with
  | none => []
  | some m => c.sentBy provider m st.calls

variable {c provider} {m : Message}

/-- **A receipt answers a submission** only if the node has reported a delivery as mined, and it has
the status that was reported. -/
theorem exists_mined_of_answer (hlawful : provider.Lawful) {k start stop : Nat}
    {receipt : DestinationReceipt}
    (h : ((c.ledger provider).submit m k start).answerAt start = some (stop, .ok receipt)) :
    ∃ tx r, c.Delivers m tx ∧ (c.send provider m k start).Mined tx r ∧
      receipt.status = r.status := by
  obtain ⟨time, r, houtcome, -, rfl⟩ := answered_submission_iff.mp h
  obtain ⟨tx, hmet, hmined⟩ := (lawful_send hlawful k start).exists_mined houtcome
  exact ⟨tx, r, hmet, hmined, rfl⟩

/-- A submission that was answered with a receipt was an attempt that the node answered so. -/
theorem answerAt_of_call {p : RetryPolicy} {start k stop : Nat} {call : LedgerCall}
    {receipt : DestinationReceipt}
    (hcall : (Relay.submit (c.ledger provider) p m start).calls[k]? = some call)
    (hanswer : call.answer = some (stop, .receipt receipt)) :
    ((c.ledger provider).submit m k call.start).answerAt call.start = some (stop, .ok receipt) := by
  rw [Relay.calls_submit, List.getElem?_map] at hcall
  obtain ⟨a, ha, rfl⟩ := Option.map_eq_some_iff.mp hcall
  have hattempt := congrArg Attempt.answer (RetryPolicy.attempt_of_getElem? ha).1
  rw [Nat.zero_add] at hattempt
  rw [Relay.start_callOfAttempt]
  refine hattempt.symm.trans ?_
  -- the call shows the answer of the attempt
  cases hanswered : a.answer with
  | none => simp [Relay.callOfAttempt, hanswered, LedgerCall.unanswered] at hanswer
  | some answer =>
    obtain ⟨t, result⟩ := answer
    cases result with
    | error e => simp [Relay.callOfAttempt, hanswered, LedgerCall.answered] at hanswer
    | ok receipt' =>
      simp only [Relay.callOfAttempt, hanswered, LedgerCall.answered, Option.some.injEq,
        Prod.mk.injEq, CallAnswer.receipt.injEq] at hanswer
      rw [hanswer.1, hanswer.2]

/-- **A relay that succeeds has delivered its message** by one of its submissions, between its start
and its end. -/
theorem exists_delivered (hlawful : provider.Lawful) {p : RetryPolicy} {start stop : Nat}
    {hash : Hash} (hm : m.payload.length < Octets.count 32)
    (h : (Relay.submit (c.ledger provider) p m start).ending = .result stop (.ok hash)) :
    ∃ d, c.Delivered provider m d ∧ start ≤ d.start ∧ d.stop ≤ stop ∧
      d.transaction ∈ c.sentBy provider m (Relay.submit (c.ledger provider) p m start).calls := by
  obtain ⟨front, last, hcalls, -, ⟨_, -, haccepted⟩ | ⟨e, herror, -⟩⟩ := Relay.submit_concludes h
  · obtain ⟨t, receipt, hanswer, hstatus, -⟩ := LedgerCall.accepted?_eq_some_iff.mp haccepted
    have hlast : (Relay.submit (c.ledger provider) p m start).calls[front.length]? = some last := by
      rw [hcalls, List.getElem?_concat_length]
    have hmem := List.mem_of_getElem? hlast
    have hanswered := answerAt_of_call hlast hanswer
    obtain ⟨tx, r, hdelivers, hmined, hread⟩ := exists_mined_of_answer hlawful hanswered
    have hsucceeded : r.succeeded = true :=
      TransactionReceipt.status_eq_success_iff.mp (hread.symm.trans hstatus)
    refine ⟨⟨front.length, last.start, t, tx⟩,
      ⟨hdelivers, ?carries, ⟨r, hmined, hsucceeded⟩, receipt, hanswered⟩,
      (Relay.submit_call _ p m start hmem).2, ?stop, ?sent⟩
    case carries =>
      rw [hdelivers.2.2]
      exact ContractCall.relayMessage.decode?_calldata hm
    case stop =>
      obtain ⟨_, _, hanswer', hle⟩ := (Relay.submit_answered _ p m start h).2 last hmem
      obtain ⟨rfl, -⟩ := Prod.mk.inj (Option.some.inj (hanswer.symm.trans hanswer'))
      exact hle
    case sent =>
      exact List.mem_flatMap.mpr ⟨(last, front.length), List.mem_zipIdx_iff_getElem?.mpr hlast,
        hmined.mem_broadcasts⟩
  · exact nomatch herror

end DestinationClient

/-! ### The deliveries of a run -/

namespace Run

open DestinationClient

variable {c : RunConfig} {client : DestinationClient} {provider : DestinationProvider}
  {batch : Batch} {handed : Handed} {s : State} {done : List Completion}

/-- A message that was settled as relayed was delivered meanwhile. -/
theorem Settles.exists_delivered {start p instant : Nat} {polled : Polled} {st : Settlement}
    (h : Settles c (client.ledger provider) start polled st) (hposition : st.position = p)
    (hhanded : handed p = some (instant, polled))
    (harrivals : Arrivals c (client.ledger provider) batch done) (hfrom : HandedFrom done handed)
    (hrelayed : st.outcome.isRelayed = true)
    (hlawful : provider.Lawful)
    (hpayload : ∀ m ∈ batch.messages, m.payload.length < Octets.count 32) :
    ∃ m d, batch.messages[p]? = some m ∧ client.Delivered provider m d ∧ start ≤ d.start ∧
      d.stop ≤ st.instant ∧ d.transaction ∈ client.sentFor provider batch st := by
  cases h with
  | failed _ outcome =>
    rcases hfrom.failed_cases harrivals hhanded with rfl | ⟨reason, rfl⟩
    · exact nomatch hrelayed
    · exact nomatch hrelayed
  | relayed position stop f result hending =>
    obtain rfl : position = p := hposition
    rcases hfrom position instant _ hhanded with harrived | ⟨hlost, -⟩
    · obtain ⟨hm, -⟩ := harrivals.finalized harrived
      cases result with
      | error e => exact nomatch hrelayed
      | ok hash =>
        obtain ⟨d, hdelivered, hstart, hstop, hsent⟩ :=
          DestinationClient.exists_delivered hlawful (hpayload _ (List.mem_of_getElem? hm)) hending
        refine ⟨f.message, d, hm, hdelivered, hstart, hstop, ?_⟩
        rw [sentFor, hm]
        exact hsent
    · exact nomatch hlost

/-- **A series of messages that were all relayed was delivered**, each message by a delivery of its
own, and each delivery was answered before the next one was made. -/
theorem Series.exists_deliveries {own : List Settlement}
    (hown : Series c (client.ledger provider) handed own)
    (harrivals : Arrivals c (client.ledger provider) batch done) (hfrom : HandedFrom done handed)
    (hrelayed : ∀ st ∈ own, st.outcome.isRelayed = true)
    (hlawful : provider.Lawful)
    (hpayload : ∀ m ∈ batch.messages, m.payload.length < Octets.count 32) :
    ∃ ds, List.Forall₂ (client.Delivered provider) (batch.messages.take own.length) ds ∧
      ds.Pairwise (fun a b => a.stop ≤ b.start) ∧
      (ds.map Delivery.transaction).Sublist (own.flatMap (client.sentFor provider batch)) ∧
      ∀ d ∈ ds, ∃ st ∈ own, d.stop ≤ st.instant := by
  induction hown with
  | nil => exact ⟨[], by simp⟩
  | @snoc own st instant start polled _ hposition hhanded _ hearlier hst ih =>
    obtain ⟨ds, hmessages, hinturn, hsent, hended⟩ :=
      ih fun st hst => hrelayed st (List.mem_append_left _ hst)
    obtain ⟨m, d, hm, hdelivered, hstart, hstop, hmem⟩ :=
      hst.exists_delivered hposition hhanded harrivals hfrom
        (hrelayed st (List.mem_append_right own (List.mem_singleton_self st))) hlawful hpayload
    refine ⟨ds ++ [d], ?messages, ?inturn, ?sent, ?ended⟩
    case messages =>
      rw [List.length_append, List.length_singleton, List.take_add_one, hm]
      exact List.rel_append hmessages (.cons hdelivered .nil)
    case inturn =>
      -- what was delivered before was answered when its message was settled
      refine List.pairwise_append.mpr ⟨hinturn, List.pairwise_singleton _ d, fun a ha b hb => ?_⟩
      obtain ⟨earlier, hmem, hle⟩ := hended a ha
      rw [List.mem_singleton.mp hb]
      exact Nat.le_trans hle (Nat.le_trans (hearlier earlier hmem) hstart)
    case sent =>
      rw [List.map_append, List.flatMap_append, List.flatMap_singleton]
      exact hsent.append (List.singleton_sublist.mpr hmem)
    case ended =>
      intro b hb
      rcases List.mem_append.mp hb with hb | hb
      · obtain ⟨earlier, hmem, hle⟩ := hended b hb
        exact ⟨earlier, List.mem_append_left _ hmem, hle⟩
      · rw [List.mem_singleton.mp hb]
        exact ⟨st, List.mem_append_right own (List.mem_singleton_self st), hstop⟩

/-- **A run whose messages are all reported as relayed has delivered them**, one after the other and
in batch order. -/
theorem Finished.exists_deliveries (h : Finished c (client.ledger provider) batch done s)
    (hhalted : s.halted = none) (hrelayed : ∀ r ∈ s.reports batch.keys, r.isRelayed = true)
    (hlawful : provider.Lawful)
    (hpayload : ∀ m ∈ batch.messages, m.payload.length < Octets.count 32) :
    ∃ ds, List.Forall₂ (client.Delivered provider) batch.messages ds ∧
      ds.Pairwise (fun a b => a.stop ≤ b.start) ∧
      (ds.map Delivery.transaction).Sublist
        (s.settled.flatMap (client.sentFor provider batch)) := by
  have hlength := h.length_settled hhalted
  have hsettled : ∀ st ∈ s.settled, st.outcome.isRelayed = true := by
    intro st hst
    have hmem := List.mem_map_of_mem (f := Settlement.outcome) hst
    rw [← map_outcome_reports hlength] at hmem
    obtain ⟨r, hr, hout⟩ := List.mem_map.mp hmem
    rw [← hout]
    exact hrelayed r hr
  obtain ⟨-, handed, hfrom, ⟨hown, -⟩ | ⟨-, before, failure, -, -, hfailure, hall⟩⟩ :=
    h.settled_cases hhalted
  · obtain ⟨ds, hmessages, hinturn, hsent, -⟩ :=
      hown.exists_deliveries h.arrivals hfrom hsettled hlawful hpayload
    rw [hlength, length_keys, Batch.size, List.take_length] at hmessages
    exact ⟨ds, hmessages, hinturn, hsent⟩
  · -- no message has failed
    have hmem : failure ∈ s.settled := by
      rw [hall]
      exact List.mem_append_right before List.mem_cons_self
    exact nomatch hfailure.symm.trans (hsettled failure hmem)

end Run

end MessageRelay
