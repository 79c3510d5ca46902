import MessageRelay.Provider

/-!
# Sending a transaction

What is known of a transaction that is sent through a provider on which one can rely
(`MessageRelay.Rpc.Sending.Lawful`). It is broadcast once at most. If the node has accepted it, then
sending comes to an error exactly if waiting for the receipt does, and that error is one of the
transport, whatever the reason (`MessageRelay.Rpc.Sending.outcome_of_waitFails`). And if it comes to
a receipt, the node has reported the transaction as mined
(`MessageRelay.Rpc.Sending.Lawful.exists_mined`).
-/

namespace MessageRelay

namespace Rpc

/-! ### Answers -/

namespace Answer

variable {α β : Type} {answer : Answer α} {time : Nat}

theorem map_eq_after_iff {f : α → β} {b : β} :
    answer.map f = .after time b ↔ ∃ a, answer = .after time a ∧ f a = b := by
  cases answer <;> simp [map, and_assoc]

theorem later_eq_after_iff {wait : Nat} {a : α} :
    answer.later wait = .after time a ↔ ∃ delay, answer = .after delay a ∧ time = wait + delay := by
  cases answer with
  | never => simp [later]
  | after delay value =>
    simp only [later, after.injEq]
    constructor
    · rintro ⟨rfl, rfl⟩
      exact ⟨delay, ⟨rfl, rfl⟩, rfl⟩
    · rintro ⟨_, ⟨rfl, rfl⟩, rfl⟩
      exact ⟨rfl, rfl⟩

/-- What is answered at once is what becomes of the call. -/
theorem reply_eq_answer_iff {answer : Answer (Except LedgerError α)}
    {result : Except LedgerError α} :
    answer.reply = .answer time result ↔ answer = .after time result := by
  cases answer <;> simp [reply]

end Answer

namespace Sending

variable {ε : Type} {s : Sending ε} {signer : Address} {request : TransactionRequest}
  {ledgerError : ε → LedgerError} {tx : Transaction} {hash : Hash} {delay time : Nat}
  {pending : Pending}

/-! ### What has happened -/

/-- The node has accepted a transaction: it has answered the broadcast with a hash. -/
def Accepts (s : Sending ε) (tx : Transaction) (hash : Hash) : Prop :=
  .broadcast tx (some hash) ∈ s.said

/-- Waiting for the receipt has failed. -/
def WaitFails (s : Sending ε) : Prop :=
  ∃ delay pending time text, s.pending? = some (delay, pending) ∧
    pending.receipt.answer = .after time (.error text)

/-- **A node has reported a transaction as mined**: it accepted the transaction, and behind that it
answered the question for the receipt of this hash with the receipt. -/
def Mined (s : Sending ε) (tx : Transaction) (r : TransactionReceipt) : Prop :=
  ∃ delay pending, s.pending? = some (delay, pending) ∧
    .broadcast tx (some pending.hash) ∈ s.exchanges ∧
    .query pending.hash (.found r) ∈ pending.receipt.exchanges

theorem pending?_eq_some_iff :
    s.pending? = some (delay, pending) ↔ s.answer = .after delay (.ok pending) := by
  unfold pending?
  rcases s.answer with ⟨_, _ | _⟩ | _ <;> simp

theorem mem_said_of_mem_exchanges {x : Exchange} (h : x ∈ s.exchanges) : x ∈ s.said :=
  List.mem_append_left _ h

/-- A transaction that was mined is among those that were broadcast. -/
theorem Mined.mem_broadcasts {r : TransactionReceipt} (h : s.Mined tx r) : tx ∈ s.broadcasts := by
  obtain ⟨_, pending, -, haccepted, -⟩ := h
  exact List.mem_filterMap.mpr ⟨_, mem_said_of_mem_exchanges haccepted, rfl⟩

/-! ### What comes of it -/

/-- What comes of a pending transaction is what comes of waiting for its receipt. -/
theorem outcome_of_pending? (h : s.pending? = some (delay, pending)) :
    s.outcome ledgerError =
      (pending.receipt.answer.map (Except.mapError LedgerError.transport)).later delay := by
  rw [pending?_eq_some_iff] at h
  rw [outcome, h]

/-- **If waiting fails, so does the whole**, and with an error of the transport. -/
theorem outcome_of_waitFails (h : s.WaitFails) :
    ∃ time text, s.outcome ledgerError = .after time (.error (.transport text)) := by
  obtain ⟨delay, pending, time, text, hpending, hfailed⟩ := h
  refine ⟨delay + time, text, ?_⟩
  rw [outcome_of_pending? hpending, hfailed]
  rfl

/-- A pending transaction fails only if waiting does. -/
theorem waitFails_of_outcome (hpending : s.pending? = some (delay, pending)) {e : LedgerError}
    (h : s.outcome ledgerError = .after time (.error e)) : s.WaitFails := by
  rw [outcome_of_pending? hpending, Answer.later_eq_after_iff] at h
  obtain ⟨wait, h, -⟩ := h
  obtain ⟨result, hanswer, hresult⟩ := Answer.map_eq_after_iff.mp h
  cases result with
  | ok r => cases hresult
  | error text => exact ⟨delay, pending, wait, text, hpending, hanswer⟩

/-- A receipt is that of a pending transaction. -/
theorem exists_pending_of_outcome {r : TransactionReceipt}
    (h : s.outcome ledgerError = .after time (.ok r)) :
    ∃ delay pending wait, s.pending? = some (delay, pending) ∧
      pending.receipt.answer = .after wait (.ok r) := by
  cases hpending : s.pending? with
  | some found =>
    obtain ⟨delay, pending⟩ := found
    rw [outcome_of_pending? hpending, Answer.later_eq_after_iff] at h
    obtain ⟨wait, h, -⟩ := h
    obtain ⟨result, hanswer, hresult⟩ := Answer.map_eq_after_iff.mp h
    cases result with
    | error text => cases hresult
    | ok r' =>
      obtain rfl := Except.ok.inj hresult
      exact ⟨delay, pending, wait, rfl, hanswer⟩
  | none =>
    unfold outcome at h
    unfold pending? at hpending
    rcases hanswer : s.answer with ⟨_, _ | _⟩ | _ <;> simp [hanswer] at h hpending

/-! ### What can be relied on -/

namespace Lawful

variable (h : s.Lawful signer request)
include h

/-- Behind a broadcast there is no other one. -/
theorem ne_broadcast_of_split {front back : List Exchange} {answer : Option Hash}
    (hsplit : s.said = front ++ .broadcast tx answer :: back) (tx' : Transaction)
    (answer' : Option Hash) : Exchange.broadcast tx' answer' ∉ back := by
  intro hmem
  -- all broadcasts of a submission are counted, those behind the pending transaction included
  have honce := h.once
  have hother : tx' ∈ back.filterMap Exchange.broadcast? :=
    List.mem_filterMap.mpr ⟨_, hmem, rfl⟩
  have hpos := List.length_pos_of_mem hother
  have hsplit : s.broadcasts =
      front.filterMap Exchange.broadcast? ++ tx :: back.filterMap Exchange.broadcast? := by
    rw [broadcasts, hsplit, List.filterMap_append]
    rfl
  rw [hsplit, List.length_append, List.length_cons] at honce
  omega

/-- **What was accepted fails only in waiting**, so it fails exactly if waiting does. -/
theorem failed_iff_of_accepts (haccepts : s.Accepts tx hash) :
    (∃ time e, s.outcome ledgerError = .after time (.error e)) ↔ s.WaitFails := by
  obtain ⟨delay, pending, hpending, -⟩ := h.accepted tx hash haccepts
  constructor
  · rintro ⟨time, e, he⟩
    exact waitFails_of_outcome hpending he
  · intro hwait
    obtain ⟨time, text, htext⟩ :
        ∃ time text, s.outcome ledgerError = .after time (.error (.transport text)) :=
      outcome_of_waitFails hwait
    exact ⟨time, _, htext⟩

/-- Waiting fails if the node answers the question for the receipt with an error. -/
theorem waitFails_of_report {report : ErrorReport} (hpending : s.pending? = some (delay, pending))
    (hreport : .query hash (.failed report) ∈ pending.receipt.exchanges) : s.WaitFails := by
  obtain ⟨time, text, htext⟩ := h.failed delay pending hash report hpending hreport
  exact ⟨delay, pending, time, text, hpending, htext⟩

/-- **Behind a receipt there is a transaction that was mined**: the one that was asked for. -/
theorem exists_mined {r : TransactionReceipt}
    (hr : s.outcome ledgerError = .after time (.ok r)) :
    ∃ tx, request.IsMetBy signer tx ∧ s.Mined tx r := by
  obtain ⟨delay, pending, wait, hpending, hanswer⟩ := exists_pending_of_outcome hr
  obtain ⟨tx, haccepted⟩ := h.pending delay pending hpending
  have hquery := h.reported delay pending wait r hpending hanswer
  exact ⟨tx, h.signed tx _ (mem_said_of_mem_exchanges haccepted),
    delay, pending, hpending, haccepted, hquery⟩

end Lawful

/-! ### Sending what the node accepts -/

/-- What comes of sending a transaction that the node accepts at once. -/
def accepting (pending : Pending) (signer : Address) (request : TransactionRequest) :
    Sending ε where
  exchanges := [.broadcast ⟨signer, request.recipient, request.input⟩ (some pending.hash)]
  answer := .after 0 (.ok pending)

/-- **It is lawful if waiting for the receipt is**: nothing is broadcast meanwhile, a receipt is one
that the node has reported, and an error of the node is not passed over. -/
theorem lawful_accepting
    (hquiet : ∀ tx answer, .broadcast tx answer ∉ pending.receipt.exchanges)
    (hreported : ∀ time r, pending.receipt.answer = .after time (.ok r) →
      .query pending.hash (.found r) ∈ pending.receipt.exchanges)
    (hfailed : ∀ hash report, .query hash (.failed report) ∈ pending.receipt.exchanges →
      ∃ time text, pending.receipt.answer = .after time (.error text)) :
    (accepting pending signer request : Sending ε).Lawful signer request := by
  have hpending : ∀ {delay pending'},
      (accepting pending signer request : Sending ε).pending? = some (delay, pending') →
      pending' = pending := by
    intro delay pending' h
    exact (Prod.mk.inj (Option.some.inj h)).2.symm
  have hbroadcast : ∀ {tx hash},
      .broadcast tx hash ∈ (accepting pending signer request : Sending ε).said →
      tx = ⟨signer, request.recipient, request.input⟩ ∧ hash = some pending.hash := by
    intro tx hash hmem
    rcases List.mem_cons.mp hmem with heq | hmem
    · exact Exchange.broadcast.inj heq
    · exact absurd hmem (hquiet tx hash)
  constructor
  case signed =>
    intro tx hash hmem
    obtain ⟨rfl, -⟩ := hbroadcast hmem
    exact ⟨rfl, rfl, rfl⟩
  case once =>
    have hnone : pending.receipt.exchanges.filterMap Exchange.broadcast? = [] := by
      refine List.filterMap_eq_nil_iff.mpr fun x hx => ?_
      cases x with
      | broadcast tx answer => exact absurd hx (hquiet tx answer)
      | query hash reply => rfl
    change (_ :: pending.receipt.exchanges.filterMap Exchange.broadcast?).length ≤ 1
    rw [hnone]
    exact Nat.le_refl 1
  case accepted =>
    intro tx hash hmem
    exact ⟨0, pending, rfl, (Option.some.inj (hbroadcast hmem).2).symm⟩
  case pending =>
    intro delay pending' h
    rw [hpending h]
    exact ⟨_, List.mem_singleton_self _⟩
  case reported =>
    intro delay pending' time r h hanswer
    rw [hpending h] at hanswer ⊢
    exact hreported time r hanswer
  case failed =>
    intro delay pending' hash report h hmem
    rw [hpending h] at hmem ⊢
    exact hfailed hash report hmem

end Sending

end Rpc

end MessageRelay
