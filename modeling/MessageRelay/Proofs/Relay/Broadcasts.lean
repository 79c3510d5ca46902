import MessageRelay.Client
import MessageRelay.Proofs.Provider
import MessageRelay.Proofs.Relay.Answers

/-!
# The transactions that a relay broadcasts

A relay over a client of the destination sends the delivery of its message once for each of its
submissions (`MessageRelay.DestinationClient.sendings`). Within one of them at most one transaction
is broadcast, so what matters is which of them are followed by another one: those that have failed.
Behind a broadcast that the node has accepted, only waiting for the receipt can fail, but that is a
transport error like those before the broadcast, and it is retried like them.

So a message is delivered at most once as long as waiting does not fail
(`MessageRelay.DestinationClient.ne_broadcast_of_accepts`). After it fails, the message is submitted
again (`MessageRelay.DestinationClient.exists_next_sending_iff`), although the node has accepted it
(`MessageRelay.DestinationClient.accepted_again`).
-/

namespace MessageRelay

open Rpc

namespace DestinationClient

variable (c : DestinationClient) (provider : DestinationProvider) (p : RetryPolicy) (m : Message)
  (start : Nat)

/-! ### One submission -/

/-- A transaction delivers a message: the relayer calls the messenger with it. -/
def Delivers (tx : Transaction) : Prop :=
  tx.sender = c.relayer ∧ tx.recipient = some c.messenger ∧
    tx.input = ContractCall.relayMessage.calldata m

variable {c provider m}

/-- Only deliveries are broadcast in a submission. -/
theorem lawful_send (hlawful : provider.Lawful) (k start : Nat) :
    (c.send provider m k start).Lawful c.relayer (c.delivery m) :=
  hlawful c.relayer (c.delivery m) k start

/-- **A submission fails** exactly if sending the delivery comes to that error. -/
theorem failed_submission_iff {k start : Nat} {e : LedgerError} :
    (∃ t, ((c.ledger provider).submit m k start).answerAt start = some (t, .error e)) ↔
      ∃ time, (c.send provider m k start).outcome ContractError.ledgerError =
        .after time (.error e) := by
  simp only [ledger]
  rcases (c.send provider m k start).outcome ContractError.ledgerError with ⟨_, _ | _⟩ | _ <;>
    simp [Answer.map, Answer.reply, Reply.answerAt, Except.map]

/-- A submission comes to the receipt that sending the delivery comes to. -/
theorem answered_submission_iff {k start t : Nat} {receipt : DestinationReceipt} :
    ((c.ledger provider).submit m k start).answerAt start = some (t, .ok receipt) ↔
      ∃ time r, (c.send provider m k start).outcome ContractError.ledgerError =
        .after time (.ok r) ∧ t = start + time ∧ receipt = r.onDestination := by
  simp only [ledger]
  rcases (c.send provider m k start).outcome ContractError.ledgerError with ⟨_, _ | _⟩ | _ <;>
    simp [Answer.map, Answer.reply, Reply.answerAt, Except.map, eq_comm, and_assoc]

/-! ### All submissions of a relay -/

variable (c provider m)

/-- What comes of sending the delivery in the submissions of a relay, one after the other. -/
def sendings : List (Sending ContractError) :=
  (Relay.submit (c.ledger provider) p m start).calls.zipIdx.map fun (call, k) =>
    c.send provider m k call.start

/-- All that passes between provider and node about the message in a relay. -/
def said : List Exchange :=
  (c.sendings provider p m start).flatMap Sending.said

variable {c provider p m start} {k : Nat} {s : Sending ContractError} {tx : Transaction}
  {hash : Hash}

/-- The `k`-th submission is the `k`-th attempt. -/
theorem getElem?_sendings :
    (c.sendings provider p m start)[k]? = some s ↔
      ∃ a, (p.attempts ((c.ledger provider).submit m) start).1[k]? = some a ∧
        c.send provider m k a.start = s := by
  simp only [sendings, Relay.calls_submit, List.getElem?_map, List.getElem?_zipIdx, Nat.zero_add,
    Option.map_map, Option.map_eq_some_iff, Function.comp_def, Relay.start_callOfAttempt]

/-- Each submission of a relay is lawful, and its attempt has failed if it has. -/
theorem exists_attempt_of_sending (hlawful : provider.Lawful)
    (h : (c.sendings provider p m start)[k]? = some s) :
    s.Lawful c.relayer (c.delivery m) ∧
      ∃ a, (p.attempts ((c.ledger provider).submit m) start).1[k]? = some a ∧
        ∀ e, (∃ t, a.answer = some (t, .error e)) ↔
          ∃ time, s.outcome ContractError.ledgerError = .after time (.error e) := by
  obtain ⟨a, ha, rfl⟩ := getElem?_sendings.mp h
  refine ⟨lawful_send hlawful k a.start, a, ha, fun e => ?_⟩
  rw [← failed_submission_iff, (RetryPolicy.attempt_of_getElem? ha).1, Nat.zero_add]
  rfl

theorem lawful_of_mem_sendings (hlawful : provider.Lawful)
    (h : s ∈ c.sendings provider p m start) : s.Lawful c.relayer (c.delivery m) := by
  obtain ⟨k, hk⟩ := List.getElem?_of_mem h
  exact (exists_attempt_of_sending hlawful hk).1

/-- **A submission of which the wait has failed is made again** as long as a retry is left and there
is a backoff. -/
theorem exists_next_sending_iff (hlawful : provider.Lawful)
    (hk : (c.sendings provider p m start)[k]? = some s) (hwait : s.WaitFails) :
    (∃ next, (c.sendings provider p m start)[k + 1]? = some next) ↔
      k < p.maxRetries.toNat ∧ p.backoff? (UInt32.ofNat k) ≠ none := by
  obtain ⟨-, a, ha, hfailed⟩ := exists_attempt_of_sending hlawful hk
  obtain ⟨time, text, herror⟩ := Sending.outcome_of_waitFails hwait
  obtain ⟨t, hanswer⟩ := (hfailed (.transport text)).mpr ⟨time, herror⟩
  have hnext := (RetryPolicy.attempt_of_getElem? ha).2
  rw [Nat.zero_add] at hnext
  constructor
  · rintro ⟨next, hnext'⟩
    obtain ⟨b, hb, -⟩ := getElem?_sendings.mp hnext'
    have hgoes := hnext.mp ⟨b, hb⟩
    exact ⟨Nat.lt_of_sub_pos hgoes.left, hgoes.backoff⟩
  · rintro ⟨hleft, hback⟩
    obtain ⟨b, hb⟩ := hnext.mpr ⟨Nat.sub_pos_of_lt hleft, hback, t, _, hanswer, rfl⟩
    exact ⟨_, getElem?_sendings.mpr ⟨b, hb, rfl⟩⟩

/-- **A submission that was accepted is followed by another one** only if its wait has failed. -/
theorem waitFails_of_next (hlawful : provider.Lawful)
    (hk : (c.sendings provider p m start)[k]? = some s) (haccepts : s.Accepts tx hash)
    (hnext : ∃ next, (c.sendings provider p m start)[k + 1]? = some next) : s.WaitFails := by
  obtain ⟨hs, a, ha, hfailed⟩ := exists_attempt_of_sending hlawful hk
  obtain ⟨next, hnext⟩ := hnext
  obtain ⟨b, hb, -⟩ := getElem?_sendings.mp hnext
  obtain ⟨t, e, he⟩ := ((RetryPolicy.attempt_of_getElem? ha).2.mp ⟨b, hb⟩).hasFailed
  obtain ⟨time, herror⟩ := (hfailed e).mp ⟨t, he⟩
  exact (hs.failed_iff_of_accepts haccepts).mp ⟨time, e, herror⟩

/-- A place in what is said lies in one of the submissions. -/
theorem exists_of_flatMap_eq {α β : Type} {f : α → List β} {l : List α} {before after : List β}
    {x : β} (h : l.flatMap f = before ++ x :: after) :
    ∃ front a back u v, l = front ++ a :: back ∧ f a = u ++ x :: v ∧
      after = v ++ back.flatMap f := by
  induction l generalizing before with
  | nil => simp at h
  | cons a l ih =>
    rw [List.flatMap_cons] at h
    rcases List.append_eq_append_iff.mp h with ⟨u, rfl, hl⟩ | ⟨v, hv, hx⟩
    · obtain ⟨front, b, back, u', v, rfl, hb, hafter⟩ := ih hl
      exact ⟨a :: front, b, back, u', v, rfl, hb, hafter⟩
    · cases v with
      | nil =>
        have hl : l.flatMap f = [] ++ x :: after := hx.symm
        obtain ⟨front, b, back, u', v, rfl, hb, hafter⟩ := ih hl
        exact ⟨a :: front, b, back, u', v, rfl, hb, hafter⟩
      | cons y v =>
        obtain ⟨rfl, rfl⟩ := List.cons.inj hx
        exact ⟨[], a, l, before, v, rfl, hv, rfl⟩

/-- **Behind a delivery that was accepted** nothing is broadcast unless waiting has failed. -/
theorem ne_broadcast_of_accepts (hlawful : provider.Lawful) {before after : List Exchange}
    (hsplit : c.said provider p m start = before ++ .broadcast tx (some hash) :: after)
    (hkept : ∀ s ∈ c.sendings provider p m start, s.Accepts tx hash → ¬ s.WaitFails)
    (tx' : Transaction) (answer : Option Hash) : Exchange.broadcast tx' answer ∉ after := by
  obtain ⟨front, s, back, u, v, hsendings, hs, rfl⟩ := exists_of_flatMap_eq hsplit
  have hk : (c.sendings provider p m start)[front.length]? = some s := by simp [hsendings]
  have haccepts : s.Accepts tx hash := by
    rw [Sending.Accepts, hs]
    exact List.mem_append_right _ List.mem_cons_self
  have hlawful' := (exists_attempt_of_sending hlawful hk).1
  cases back with
  | nil =>
    rw [List.flatMap_nil, List.append_nil]
    exact hlawful'.ne_broadcast_of_split hs tx' answer
  | cons next back =>
    -- another submission follows, so this one has failed, and only the wait can have
    have hnext : (c.sendings provider p m start)[front.length + 1]? = some next := by
      simp [hsendings]
    have hfailed := waitFails_of_next hlawful hk haccepts ⟨next, hnext⟩
    exact absurd hfailed (hkept s (List.mem_of_getElem? hk) haccepts)

/-- **What a relay broadcasts.** For every provider on which one can rely, every policy, and every
message: the relay broadcasts nothing but deliveries of that message. Once the node has accepted
one, that is, answered it with a hash, no other one is broadcast unless waiting for its receipt
comes to an error. But if it does, for whatever reason, the message is submitted again, exactly as
long as a retry is left and there is a backoff. And it does if the node answers the question for the
receipt with an error. -/
theorem relay_broadcasts (c : DestinationClient) (provider : DestinationProvider)
    (hlawful : provider.Lawful) (p : RetryPolicy) (m : Message) (start : Nat) :
    (∀ tx answer, .broadcast tx answer ∈ c.said provider p m start → c.Delivers m tx) ∧
    (∀ before tx hash after,
      c.said provider p m start = before ++ .broadcast tx (some hash) :: after →
      (∀ s ∈ c.sendings provider p m start, s.Accepts tx hash → ¬ s.WaitFails) →
      ∀ tx' answer, .broadcast tx' answer ∉ after) ∧
    (∀ k s, (c.sendings provider p m start)[k]? = some s →
      ∀ tx hash, s.Accepts tx hash →
        s.broadcasts = [tx] ∧
        ((∃ next, (c.sendings provider p m start)[k + 1]? = some next) ↔
          s.WaitFails ∧ k < p.maxRetries.toNat ∧ p.backoff? (UInt32.ofNat k) ≠ none)) ∧
    ∀ s ∈ c.sendings provider p m start, ∀ delay pending hash report,
      s.pending? = some (delay, pending) →
      .query hash (.failed report) ∈ pending.receipt.exchanges → s.WaitFails := by
  refine ⟨?deliveries, ?once, ?again, ?reported⟩
  case deliveries =>
    intro tx answer hx
    obtain ⟨s, hs, hx⟩ := List.mem_flatMap.mp hx
    exact (lawful_of_mem_sendings hlawful hs).signed tx answer hx
  case once =>
    intro before tx hash after hsplit hkept tx' answer
    exact ne_broadcast_of_accepts hlawful hsplit hkept tx' answer
  case again =>
    intro k s hk tx hash haccepts
    have honce := (exists_attempt_of_sending hlawful hk).1.once
    have hmem : tx ∈ s.broadcasts := List.mem_filterMap.mpr ⟨_, haccepts, rfl⟩
    refine ⟨?_, fun hnext => ?_, fun ⟨hwait, hleft⟩ => ?_⟩
    · obtain ⟨other, hother⟩ :=
        List.length_eq_one_iff.mp (Nat.le_antisymm honce (List.length_pos_of_mem hmem))
      rw [hother, List.mem_singleton] at hmem
      rw [hother, hmem]
    · have hwait := waitFails_of_next hlawful hk haccepts hnext
      exact ⟨hwait, (exists_next_sending_iff hlawful hk hwait).mp hnext⟩
    · exact (exists_next_sending_iff hlawful hk hwait).mpr hleft
  case reported =>
    intro s hs delay pending hash report hpending hreport
    exact (lawful_of_mem_sendings hlawful hs).waitFails_of_report hpending hreport

/-! ### A node that forgets -/

/-- What a forgetful node answers to the question for a receipt. -/
def forgetfulReport : ErrorReport :=
  ⟨-32000, "not available", none⟩

/-- A pending transaction of which the node will not know anything. -/
def forgottenPending : Pending where
  hash := Octets.replicate 32 1
  receipt :=
    { exchanges := [.query (Octets.replicate 32 1) (.failed forgetfulReport)]
      answer := .after 0 (.error forgetfulReport.text) }

/-- What comes of sending a transaction to a forgetful node. It accepts every transaction, with one
hash for all. -/
def forgetfulSending (signer : Address) (request : TransactionRequest) : Sending ContractError :=
  .accepting forgottenPending signer request

/-- A provider whose node accepts every transaction and answers every question for a receipt with an
error. -/
def forgetfulProvider : DestinationProvider :=
  { DestinationProvider.unreachable with
    send := fun signer request _ _ => forgetfulSending signer request }

/-- It can be relied on. -/
theorem lawful_forgetfulProvider : forgetfulProvider.Lawful := by
  intro signer request k start
  refine Sending.lawful_accepting (fun tx answer hmem => ?_) (fun time r hanswer => ?_)
    fun hash report _ => ⟨0, _, rfl⟩
  · cases List.mem_singleton.mp hmem
  · cases hanswer

/-- A client whose key is the number one. -/
def ofKeyOne : DestinationClient where
  url := default
  messageBus := default
  messenger := default
  key := ⟨1, by decide, by decide +kernel⟩
  gasLimit := 21000
  maxFeePerGas := 1

/-- Under the default policy a message is sent three times to such a node. -/
theorem sendings_forgetful :
    ofKeyOne.sendings forgetfulProvider {} default 0 =
      List.replicate 3 (forgetfulSending ofKeyOne.relayer (ofKeyOne.delivery default)) := by
  refine List.eq_replicate_iff.mpr ⟨by decide +kernel, fun s hs => ?_⟩
  obtain ⟨k, hk⟩ := List.getElem?_of_mem hs
  obtain ⟨a, -, rfl⟩ := getElem?_sendings.mp hk
  rfl

/-- The node accepts the delivery each time, and each time waiting for the receipt fails. -/
theorem relay_broadcasts_forgetful :
    forgetfulProvider.Lawful ∧
      (ofKeyOne.sendings forgetfulProvider {} default 0).length = 3 ∧
      ∀ s ∈ ofKeyOne.sendings forgetfulProvider {} default 0,
        s.WaitFails ∧ ∃ tx, s.broadcasts = [tx] ∧ ofKeyOne.Delivers default tx := by
  obtain ⟨hdeliveries, -, -, hfailed⟩ :=
    relay_broadcasts ofKeyOne forgetfulProvider lawful_forgetfulProvider {} default 0
  refine ⟨lawful_forgetfulProvider, by rw [sendings_forgetful, List.length_replicate],
    fun s hs => ?_⟩
  have hsaid : ∀ x ∈ s.said, x ∈ ofKeyOne.said forgetfulProvider {} default 0 :=
    fun x hx => List.mem_flatMap.mpr ⟨s, hs, hx⟩
  have hwait := hfailed s hs
  rw [sendings_forgetful, List.mem_replicate] at hs
  obtain ⟨-, rfl⟩ := hs
  exact ⟨hwait 0 forgottenPending _ _ rfl (List.mem_singleton_self _), _, rfl,
    hdeliveries _ _ (hsaid _ List.mem_cons_self)⟩

/-- **A message can be accepted several times**, so it does not hold of every node that nothing is
broadcast behind a delivery that was accepted: the forgetful node is asked to pass on another one.
-/
theorem accepted_again :
    ¬ ∀ (c : DestinationClient) (provider : DestinationProvider), provider.Lawful →
      ∀ (p : RetryPolicy) (m : Message) (start : Nat) (before : List Exchange) (tx : Transaction)
        (hash : Hash) (after : List Exchange),
      c.said provider p m start = before ++ .broadcast tx (some hash) :: after →
      ∀ tx' answer, Exchange.broadcast tx' answer ∉ after := by
  intro hclaim
  have hsaid : ofKeyOne.said forgetfulProvider {} default 0 =
      (List.replicate 3 (forgetfulSending ofKeyOne.relayer (ofKeyOne.delivery default))).flatMap
        Sending.said := by
    rw [said, sendings_forgetful]
  refine hclaim ofKeyOne forgetfulProvider lawful_forgetfulProvider {} default 0 [] _ _ _ hsaid
    _ _ (List.mem_cons_of_mem _ List.mem_cons_self)

end DestinationClient

end MessageRelay
