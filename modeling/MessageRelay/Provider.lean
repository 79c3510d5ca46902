import MessageRelay.Receipt
import MessageRelay.Rpc
import MessageRelay.Transaction

/-!
# Providers

What is behind a client is not part of this library: a provider that talks to a node. It is given by
what it makes of each thing that it is asked (`MessageRelay.SourceProvider`,
`MessageRelay.DestinationProvider`), as the table of its answers.

A transaction is sent in two steps. The first one is over when the node has answered the broadcast,
and comes to a pending transaction (`MessageRelay.Rpc.Pending`); the second one waits for its
receipt. In both steps the provider asks the node, and what it asks about the transaction is part of
the account (`MessageRelay.Rpc.Traffic`). What is relied on there is written down in
`MessageRelay.Rpc.Sending.Lawful`.
-/

namespace MessageRelay

namespace Rpc

/-! ### Sending a transaction -/

/-- What a node answers to the question for a receipt. -/
inductive ReceiptReply where
  /-- The receipt. -/
  | found (receipt : TransactionReceipt)
  /-- That there is none yet. -/
  | missing
  /-- An error. -/
  | failed (report : ErrorReport)
  /-- Nothing that reaches the provider. -/
  | lost

/-- What passes between a provider and a node about a transaction. -/
inductive Exchange where
  /-- The node is asked to pass on a signed transaction. It accepts it if it answers with a hash. -/
  | broadcast (transaction : Transaction) (hash : Option Hash)
  /-- The node is asked for the receipt of a transaction. -/
  | query (hash : Hash) (reply : ReceiptReply)

/-- The transaction that the node is asked to pass on. -/
def Exchange.broadcast? : Exchange → Option Transaction
  | broadcast tx _ => some tx
  | query _ _ => none

/-- What passes while the provider does something, in order, and what comes of it. -/
structure Traffic (α : Type) where
  exchanges : List Exchange
  answer : Answer α

/-- A transaction that a node has accepted. -/
structure Pending where
  /-- The hash that the node has answered with. -/
  hash : Hash
  /-- What comes of waiting for its receipt. An error is known by its words. -/
  receipt : Traffic (Except String TransactionReceipt)

/-- What comes of sending a transaction. -/
abbrev Sending (ε : Type) := Traffic (Except ε Pending)

namespace Sending

variable {ε : Type} (s : Sending ε)

/-- The pending transaction that it comes to, and after which time. -/
def pending? : Option (Nat × Pending) :=
  match s.answer with
  | .after delay (.ok pending) => some (delay, pending)
  | .after _ (.error _) | .never => none

/-- All that passes between provider and node, until there is a receipt. -/
def said : List Exchange :=
  s.exchanges ++ (s.pending?.map fun (_, pending) => pending.receipt.exchanges).getD []

/-- The transactions that the node is asked to pass on. -/
def broadcasts : List Transaction :=
  s.said.filterMap Exchange.broadcast?

/-- The receipt that it comes to. When there is none for a transaction that was accepted, this
counts as a failure of the transport, whatever the reason. -/
def outcome (ledgerError : ε → LedgerError) : Answer (Except LedgerError TransactionReceipt) :=
  match s.answer with
  | .after delay (.ok pending) =>
    (pending.receipt.answer.map (Except.mapError LedgerError.transport)).later delay
  | .after delay (.error e) => .after delay (.error (ledgerError e))
  | .never => .never

/-- **What is relied on when a transaction is sent.** -/
structure Lawful (signer : Address) (request : TransactionRequest) : Prop where
  /-- Only the transaction that was asked for is passed on, signed by the account. -/
  signed : ∀ tx hash, .broadcast tx hash ∈ s.said → request.IsMetBy signer tx
  /-- It is passed on once at most. -/
  once : s.broadcasts.length ≤ 1
  /-- Sending waits for the node's answer: if that is a hash, then this is the hash of the pending
  transaction. -/
  accepted : ∀ tx hash, .broadcast tx (some hash) ∈ s.said →
    ∃ delay pending, s.pending? = some (delay, pending) ∧ pending.hash = hash
  /-- There is no pending transaction that the node has not accepted. -/
  pending : ∀ delay pending, s.pending? = some (delay, pending) →
    ∃ tx, .broadcast tx (some pending.hash) ∈ s.exchanges
  /-- A receipt is one that the node has reported for this hash. -/
  reported : ∀ delay pending time r, s.pending? = some (delay, pending) →
    pending.receipt.answer = .after time (.ok r) →
    .query pending.hash (.found r) ∈ pending.receipt.exchanges
  /-- Waiting for the receipt fails if the node answers with an error. -/
  failed : ∀ delay pending hash report, s.pending? = some (delay, pending) →
    .query hash (.failed report) ∈ pending.receipt.exchanges →
    ∃ time text, pending.receipt.answer = .after time (.error text)

end Sending

/-! ### Calling a contract -/

/-- A call of a contract. -/
structure Call where
  /-- Who calls, if that is laid down. -/
  sender : Option Address := none
  /-- Whom it calls. -/
  contract : Address
  /-- What it calls it with. -/
  input : Bytes
  /-- How much gas it may use, if that is laid down. -/
  gas : Option UInt64 := none
  /-- The most that is paid per unit of gas, if that is laid down. -/
  maxFee : Option Nat := none
deriving DecidableEq, Inhabited

/-! ### Posting a document -/

/-- What comes back over the web. -/
inductive Reply where
  /-- Nothing: the node was not reached, or the connection broke. -/
  | unreached (text : String)
  /-- A status and a text. -/
  | response (status : Nat) (body : String)
deriving DecidableEq, Inhabited

end Rpc

open Rpc

/-! ### The providers -/

/-- The provider of a source client. -/
structure SourceProvider where
  /-- A transaction is sent that an account signs. -/
  send : (signer : Address) → TransactionRequest → Sending TransportError
  /-- A receipt is looked up, as the `k`-th one of a row from zero on. -/
  receipt : (k : Nat) → Hash → Answer (Except TransportError (Option TransactionReceipt))

/-- The provider of a destination client. Its answers may depend on the instant at which it is
asked, and on how often it was asked the same thing before. -/
structure DestinationProvider where
  /-- What a call costs. -/
  estimate : Call → (start : Nat) → Answer (Except ContractError UInt64)
  /-- The truth value that a contract answers to a call. -/
  truth : Call → (k start : Nat) → Answer (Except ContractError Bool)
  /-- The number of 256 bits that a contract answers to a call. -/
  number : Call → (start : Nat) → Answer (Except ContractError Nat)
  /-- A transaction is sent that an account signs. -/
  send : (signer : Address) → TransactionRequest → (k start : Nat) → Sending ContractError
  /-- What the node replies to the question for the configuration of its network. -/
  network : Answer Rpc.Reply

/-- What is relied on behind a source client. -/
def SourceProvider.Lawful (p : SourceProvider) : Prop :=
  ∀ signer request, (p.send signer request).Lawful signer request

/-- What is relied on behind a destination client. -/
def DestinationProvider.Lawful (p : DestinationProvider) : Prop :=
  ∀ signer request k start, (p.send signer request k start).Lawful signer request

/-! ### No connection -/

/-- What a provider says when it cannot reach its node. -/
def Rpc.TransportError.noConnection : TransportError :=
  .unreached "connection failed"

/-- A source provider whose node is never reached. -/
def SourceProvider.unreachable : SourceProvider where
  send _ _ := ⟨[], .after 0 (.error .noConnection)⟩
  receipt _ _ := .after 0 (.error .noConnection)

/-- A destination provider whose node is never reached. -/
def DestinationProvider.unreachable : DestinationProvider where
  estimate _ _ := .after 0 (.error (.transport .noConnection))
  truth _ _ _ := .after 0 (.error (.transport .noConnection))
  number _ _ := .after 0 (.error (.transport .noConnection))
  send _ _ _ _ := ⟨[], .after 0 (.error (.transport .noConnection))⟩
  network := .after 0 (.unreached "connection failed")

end MessageRelay
