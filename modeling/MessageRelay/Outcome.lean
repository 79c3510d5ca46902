import MessageRelay.Receipt

/-!
# Outcomes, reports and states

Every message of a run ends with one outcome (`MessageRelay.Outcome`), and a report
(`MessageRelay.Report`) ties the outcome to the message's key. A state
(`MessageRelay.MessageState`) is a station on a message's way through a run; the states that an
outcome leads to are terminal (`MessageRelay.Outcome.terminal_state`).
-/

namespace MessageRelay

/-! ### Outcomes -/

/-- How a message of a run ended. -/
inductive Outcome where
  /-- Relayed by the transaction with this hash. -/
  | relayed (transaction : Hash)
  /-- Finality was not observed before the deadline. -/
  | finalityTimeout
  /-- The finality query itself failed. -/
  | pollFailed (reason : String)
  /-- The relay transaction failed or did not report success. -/
  | relayFailed (reason : String)
  /-- Never submitted, because an earlier message failed. -/
  | aborted (blockedBy : MessageKey)
deriving DecidableEq, Inhabited

namespace Outcome

/-- Whether the message reached the destination. -/
def isRelayed : Outcome → Bool
  | relayed _ => true
  | _ => false

/-- The short name of the kind of outcome, as used in metrics and in interchange. -/
def label : Outcome → String
  | relayed _ => "relayed"
  | finalityTimeout => "finality_timeout"
  | pollFailed _ => "poll_failed"
  | relayFailed _ => "relay_failed"
  | aborted _ => "aborted"

/-- The outcome in words. -/
def text : Outcome → String
  | relayed tx => "relayed in " ++ tx.toHex
  | finalityTimeout => "finality timeout"
  | pollFailed reason => "poll failed: " ++ reason
  | relayFailed reason => "relay failed: " ++ reason
  | aborted blockedBy => "aborted, blocked by " ++ blockedBy.text

end Outcome

/-! ### Reports -/

/-- The outcome of one message, under the message's key. -/
structure Report where
  /-- Which message. -/
  key : MessageKey
  /-- How it ended. -/
  outcome : Outcome
deriving DecidableEq, Inhabited

namespace Report

/-- The report as one line of text: key, tab, outcome in words. -/
def line (r : Report) : String :=
  r.key.text ++ "\t" ++ r.outcome.text

/-- Whether the message reached the destination. -/
def isRelayed (r : Report) : Bool :=
  r.outcome.isRelayed

/-- Whether every message reached the destination. -/
def allRelayed (reports : List Report) : Bool :=
  reports.all isRelayed

/-- How many messages reached the destination. -/
def relayedCount (reports : List Report) : Nat :=
  reports.countP isRelayed

/-- The first message that did not reach the destination. -/
def firstFailure (reports : List Report) : Option Report :=
  reports.find? fun r => !r.isRelayed

end Report

/-! ### States -/

/-- A station on a message's way through a run. -/
inductive MessageState where
  | extracted
  | polling
  | finalized
  | relaying
  | relayed
  | extractionFailed
  | finalityTimedOut
  | pollFailed
  | relayFailed
  | aborted
deriving DecidableEq, Inhabited

namespace MessageState

/-- The state's name in logs. -/
def label : MessageState → String
  | extracted => "extracted"
  | polling => "polling"
  | finalized => "finalized"
  | relaying => "relaying"
  | relayed => "relayed"
  | extractionFailed => "extraction_failed"
  | finalityTimedOut => "finality_timed_out"
  | pollFailed => "poll_failed"
  | relayFailed => "relay_failed"
  | aborted => "aborted"

/-- Whether a message in this state has nothing left to wait for. -/
def isTerminal : MessageState → Bool
  | extracted | polling | finalized | relaying => false
  | _ => true

end MessageState

/-- The state in which an outcome leaves its message. -/
def Outcome.state : Outcome → MessageState
  | .relayed _ => .relayed
  | .finalityTimeout => .finalityTimedOut
  | .pollFailed _ => .pollFailed
  | .relayFailed _ => .relayFailed
  | .aborted _ => .aborted

theorem Outcome.terminal_state (o : Outcome) : o.state.isTerminal = true := by
  cases o <;> rfl

end MessageRelay
