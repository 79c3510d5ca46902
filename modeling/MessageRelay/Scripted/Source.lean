import MessageRelay.Source
import MessageRelay.Scripted.Sample

/-!
# A scripted source ledger

A source ledger with canned receipts and one canned answer to every submission.
-/

namespace MessageRelay

namespace Scripted

/-- A script for a source ledger. -/
structure Source where
  /-- The receipts to be looked up. Of two receipts of one transaction the later one counts. -/
  receipts : List SourceReceipt := []
  /-- What every submission is answered. -/
  onSubmit : Option (Except LedgerError SourceReceipt) := none
deriving Inhabited

/-- The script's replies. -/
def Source.ledger (s : Source) : SourceLedger where
  submit _ := .answer 0 (s.onSubmit.getD (.error (.rpc "no submit result scripted")))
  receipt _ tx := .answer 0 (.ok (s.receipts.reverse.find? (·.transaction == tx)))

end Scripted

end MessageRelay
