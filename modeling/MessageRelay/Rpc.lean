import MessageRelay.Json.Writer
import MessageRelay.Ledger

/-!
# What comes of asking a node

A client reaches its node through a provider, which writes down what is asked, sends it, and reads
what is answered. What the provider makes of that comes after some time, or never
(`MessageRelay.Rpc.Answer`). An error is of one of a few kinds (`MessageRelay.Rpc.TransportError`,
and `MessageRelay.Rpc.ContractError` where a contract is called), and each of them becomes an error
of the ledger's client.
-/

namespace MessageRelay

namespace Rpc

/-! ### Answers -/

/-- When something comes. -/
inductive Answer (α : Type) where
  /-- After some time. -/
  | after (delay : Nat) (value : α)
  /-- Never. -/
  | never
deriving Inhabited

namespace Answer

variable {α β : Type}

/-- The same answer, read in some way. -/
def map (f : α → β) : Answer α → Answer β
  | after delay value => after delay (f value)
  | never => never

/-- An answer to something that is asked after some time. -/
def later (time : Nat) : Answer α → Answer α
  | after delay value => after (time + delay) value
  | never => never

/-- What becomes of a call that has this answer. -/
def reply : Answer (Except LedgerError α) → Reply α
  | after delay result => .answer delay result
  | never => .silence

end Answer

/-! ### Errors -/

/-- The error that a node reports. -/
structure ErrorReport where
  code : Int
  message : String
  data : Option Json

/-- The report in words. -/
def ErrorReport.text (e : ErrorReport) : String :=
  "error code " ++ toString e.code ++ ": " ++ e.message
    ++ e.data.elim "" fun data => ", data: " ++ data.write

/-- Why a request has no result. Except for the node's own report, the provider has words for it. -/
inductive TransportError where
  /-- The node reports an error. -/
  | reported (report : ErrorReport)
  /-- The node was not reached, or the connection broke. -/
  | unreached (text : String)
  /-- The answer is null where something has to be. -/
  | empty (text : String)
  /-- The answer makes no sense. -/
  | unreadable (text : String)
  /-- The request cannot be written down. -/
  | unwritable (text : String)
  /-- The provider does not do such a thing. -/
  | unsupported (text : String)

/-- The error as one of the ledger's client. -/
def TransportError.ledgerError : TransportError → LedgerError
  | reported report => .rpc report.text
  | unreached text => .transport text
  | empty text | unreadable text | unwritable text => .invalidResponse text
  | unsupported text => .rpc text

/-- Why a contract was not called. -/
inductive ContractError where
  /-- The request has no result. -/
  | transport (error : TransportError)
  /-- Anything else, such as a result of another type. -/
  | other (text : String)

/-- The error as one of the ledger's client. -/
def ContractError.ledgerError : ContractError → LedgerError
  | transport error => error.ledgerError
  | other text => .invalidResponse text

end Rpc

end MessageRelay
