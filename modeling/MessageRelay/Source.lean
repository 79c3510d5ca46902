import MessageRelay.Receipt
import MessageRelay.Stage

/-!
# The source ledger

The source ledger mines transactions and reports their receipts. A client of it
(`MessageRelay.SourceLedger`) submits a transaction and waits for its receipt, or looks up the
receipt of a transaction that was mined before.
-/

namespace MessageRelay

/-- A client of the source ledger, as the table of its replies. -/
structure SourceLedger where
  /-- What comes of submitting a transaction. -/
  submit : TransactionRequest → Reply SourceReceipt
  /-- The receipt of a transaction, if the ledger has one. The first number is that of the look-up
  in a row of look-ups, from zero on. -/
  receipt : Nat → Hash → Reply (Option SourceReceipt)

namespace SourceLedger

variable (source : SourceLedger)

/-- The receipts of transactions, in order, when so many look-ups have been made before. A
transaction without a receipt is an error. -/
def fetchFrom (number : Nat) : List Hash → Stage LedgerError (List SourceReceipt)
  | [] => pure []
  | tx :: txs => do
    match ← Stage.perform (.lookedUp tx) (source.receipt number tx) with
    | none => Stage.fail (.missingReceipt tx)
    | some r =>
      let rs ← fetchFrom (number + 1) txs
      pure (r :: rs)

/-- The receipts of transactions, in order. A transaction without a receipt is an error. -/
def fetchReceipts (txs : List Hash) : Stage LedgerError (List SourceReceipt) :=
  source.fetchFrom 0 txs

end SourceLedger

end MessageRelay
