import MessageRelay.Duration
import MessageRelay.Receipt

/-!
# Ledgers

The destination ledger is asked four things about a message: what a finality check costs, whether
the message is final, when it becomes final, and to deliver it. Each call is answered some time
after it was made, or never.

A ledger (`MessageRelay.Ledger`) is the table of its replies: what is replied to the `k`-th call of
a kind about a message, made at a given instant. A ledger that remembers earlier calls is no
exception, because in one run each such call is made at most once: the replies that it gives in that
run are such a table.

What happens happens at whole milliseconds of the clock. What is planned is planned more exactly,
for a duration behind the start. The clock counts up to an end (`MessageRelay.Clock.limit`); an
instant beyond it cannot be represented, and a sleep that would end there ends after thirty years
instead.
-/

namespace MessageRelay

/-! ### Errors -/

/-- Why a ledger's client has no answer. -/
inductive LedgerError where
  /-- The node could not be reached. -/
  | transport (text : String)
  /-- The node answered with an error. -/
  | rpc (text : String)
  /-- The node's answer makes no sense. -/
  | invalidResponse (text : String)
  /-- The node has no receipt for the transaction. -/
  | missingReceipt (transaction : Hash)
deriving DecidableEq, Inhabited

/-- The error in words. -/
def LedgerError.message : LedgerError → String
  | transport text => "transport error: " ++ text
  | rpc text => "rpc error: " ++ text
  | invalidResponse text => "invalid response: " ++ text
  | missingReceipt tx => "no receipt for transaction " ++ tx.toHex

/-! ### The clock -/

namespace Clock

/-- The first instant that cannot be represented: two to the power of 63 seconds. -/
def limit : Nat := 0x8000000000000000 * 1000

/-- A duration behind the start as an instant, unless it cannot be represented. -/
def instant? (d : Duration) : Option Duration :=
  if d < Duration.ofMillis limit then some d else none

/-- How long a sleep lasts whose end cannot be represented: thirty years. -/
def farFuture : Nat := 86400 * 365 * 30 * 1000

/-- An instant some time after another one, unless it cannot be represented. -/
def after? (start : Nat) (time : Nat) : Option Nat :=
  if start + time < limit then some (start + time) else none

/-- When a sleep ends that starts at an instant. -/
def wake (start : Nat) (time : Nat) : Nat :=
  (after? start time).getD (start + farFuture)

end Clock

/-! ### Replies -/

/-- What becomes of a call. -/
inductive Reply (α : Type) where
  /-- It is answered after some time. -/
  | answer (delay : Nat) (result : Except LedgerError α)
  /-- It is never answered. -/
  | silence
  /-- After some time the task that made it dies. -/
  | death (delay : Nat)

/-- The replies of a destination ledger. -/
structure Ledger where
  /-- The cost of a finality check for a message, asked at an instant. -/
  estimate : Message → (start : Nat) → Reply UInt64
  /-- Whether a message is final, asked with a gas limit for the `k`-th time, from one on, at an
  instant. -/
  check : Message → (gas : UInt64) → (k : Nat) → (start : Nat) → Reply Bool
  /-- When a message becomes final, asked at an instant. The time is a number of 256 bits. -/
  finalityTime : Message → (start : Nat) → Reply (Option Nat)
  /-- What comes of delivering a message for the `k`-th time, from zero on, at an instant. -/
  submit : Message → (k : Nat) → (start : Nat) → Reply DestinationReceipt

end MessageRelay
