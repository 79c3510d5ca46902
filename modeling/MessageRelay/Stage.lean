import MessageRelay.LedgerCall
import MessageRelay.Message
import MessageRelay.Metrics
import MessageRelay.Transaction

/-!
# Stages

The program goes through stages, each of which comes to a value that the next one works with, or to
an error behind which there is no next one (`MessageRelay.Stage`). What a stage does on its way is
written down: which transactions it submits to the source ledger and which receipts it looks up
there, what it asks the destination, and what it counts (`MessageRelay.Deed`). It stands in the log
however the stage ends.

A stage may also never end. So its log is read up to a horizon, an instant on the clock that starts
together with a run.
-/

namespace MessageRelay

/-- Something that is seen from outside. -/
inductive Deed where
  /-- The destination node is asked for the configuration of its network. -/
  | askedNetwork
  /-- The source ledger is asked for a receipt. -/
  | lookedUp (transaction : Hash)
  /-- A transaction is submitted to the source ledger. -/
  | submitted (request : TransactionRequest)
  /-- The destination ledger is called about a message. -/
  | called (message : Message) (call : LedgerCall)
  /-- Something is counted. -/
  | counted (event : Metrics.Event)

namespace Deed

/-- The transaction that is submitted to the source ledger. -/
def submitted? : Deed → Option TransactionRequest
  | submitted request => some request
  | askedNetwork | lookedUp _ | called _ _ | counted _ => none

/-- The call to the destination ledger, and the message that it is about. -/
def called? : Deed → Option (Message × LedgerCall)
  | called m call => some (m, call)
  | askedNetwork | lookedUp _ | submitted _ | counted _ => none

/-- What is counted. -/
def counted? : Deed → Option Metrics.Event
  | counted event => some event
  | askedNetwork | lookedUp _ | submitted _ | called _ _ => none

/-- Whether the destination node is asked for the configuration of its network. -/
def isAskedNetwork : Deed → Bool
  | askedNetwork => true
  | lookedUp _ | submitted _ | called _ _ | counted _ => false

end Deed

/-- How a stage ends. -/
inductive Ending (ε α : Type) where
  /-- With a value. -/
  | value (value : α)
  /-- With an error. -/
  | error (error : ε)
  /-- The program dies. -/
  | death
  /-- Never: something is waited for that does not come. -/
  | never
deriving DecidableEq

/-- A stage of the program. -/
structure Stage (ε α : Type) where
  /-- What it does up to a horizon, in order. -/
  log : (horizon : Nat) → List Deed
  /-- How it ends. -/
  ending : Ending ε α

namespace Stage

variable {ε ε' α β : Type}

/-- A stage that does nothing. -/
def idle (ending : Ending ε α) : Stage ε α :=
  ⟨fun _ => [], ending⟩

/-- A stage and the one that works with its value, if it comes to one. -/
def bind (x : Stage ε α) (f : α → Stage ε β) : Stage ε β :=
  match x.ending with
  | .value a => ⟨fun horizon => x.log horizon ++ (f a).log horizon, (f a).ending⟩
  | .error e => ⟨x.log, .error e⟩
  | .death => ⟨x.log, .death⟩
  | .never => ⟨x.log, .never⟩

instance : Monad (Stage ε) where
  pure a := idle (.value a)
  bind := bind

/-- A stage that fails. -/
def fail (e : ε) : Stage ε α :=
  idle (.error e)

/-- What was computed, as a stage. -/
def ofExcept : Except ε α → Stage ε α
  | .ok a => pure a
  | .error e => fail e

/-- A stage with its error told in another way. -/
def mapError (f : ε → ε') (x : Stage ε α) : Stage ε' α where
  log := x.log
  ending :=
    match x.ending with
    | .value a => .value a
    | .error e => .error (f e)
    | .death => .death
    | .never => .never

/-- Does something that is replied to. -/
def perform (deed : Deed) (reply : Reply α) : Stage LedgerError α where
  log _ := [deed]
  ending :=
    match reply with
    | .answer _ (.ok a) => .value a
    | .answer _ (.error e) => .error e
    | .silence => .never
    | .death _ => .death

/-! ### What is seen -/

section

variable (x : Stage ε α) (horizon : Nat)

/-- The transactions that are submitted to the source ledger. -/
def submissions : List TransactionRequest :=
  (x.log horizon).filterMap Deed.submitted?

/-- The calls to the destination ledger, with the messages that they are about. -/
def calls : List (Message × LedgerCall) :=
  (x.log horizon).filterMap Deed.called?

/-- What is counted. -/
def events : List Metrics.Event :=
  (x.log horizon).filterMap Deed.counted?

end

end Stage

end MessageRelay
