import MessageRelay.Message

/-!
# Receipts

What a ledger reports about a transaction that has been mined: on the source ledger its status and
its logs (`MessageRelay.SourceReceipt`), on the destination ledger its identifier and its status
(`MessageRelay.DestinationReceipt`). Only the status one means success. Both are parts of what a
node reports (`MessageRelay.TransactionReceipt`).
-/

namespace MessageRelay

/-- The status of a transaction that did what it was sent for. -/
def successStatus : UInt64 := 1

/-- A log entry of a receipt. -/
structure Log where
  /-- The contract that emitted the entry. -/
  address : Address
  /-- The indexed words; the first one is the digest of the event's signature. -/
  topics : List Hash
  /-- The encoded values that are not indexed. -/
  data : Bytes
  /-- The entry's place within its block, when the node reports it. -/
  index : Option UInt64
deriving DecidableEq, Inhabited

/-- The parts of a source receipt that extraction reads. -/
structure SourceReceipt where
  /-- The hash of the transaction. -/
  transaction : Hash
  /-- One for success. -/
  status : UInt64
  /-- The log entries, in order. -/
  logs : List Log
deriving DecidableEq, Inhabited

namespace SourceReceipt

/-- Whether the transaction did what it was sent for. -/
def succeeded (r : SourceReceipt) : Bool :=
  r.status == successStatus

end SourceReceipt

/-- The receipt of a relay transaction on the destination ledger. -/
structure DestinationReceipt where
  /-- The hash of the transaction. -/
  transaction : Hash
  /-- One for success. -/
  status : UInt64
deriving DecidableEq, Inhabited

/-! ### Receipts from nodes -/

/-- A receipt as a node reports it. -/
structure TransactionReceipt where
  /-- The hash of the transaction. -/
  transaction : Hash
  /-- Whether the transaction did what it was sent for. -/
  succeeded : Bool
  /-- The log entries, in order. -/
  logs : List Log
deriving DecidableEq, Inhabited

namespace TransactionReceipt

/-- The status as a number. -/
def status (r : TransactionReceipt) : UInt64 :=
  if r.succeeded then successStatus else 0

theorem status_eq_success_iff {r : TransactionReceipt} :
    r.status = successStatus ↔ r.succeeded = true := by
  cases h : r.succeeded <;> simp [status, successStatus, h]

/-- What extraction reads of it. -/
def onSource (r : TransactionReceipt) : SourceReceipt :=
  ⟨r.transaction, r.status, r.logs⟩

/-- What matters of it if it is that of a relay. -/
def onDestination (r : TransactionReceipt) : DestinationReceipt :=
  ⟨r.transaction, r.status⟩

end TransactionReceipt

end MessageRelay
