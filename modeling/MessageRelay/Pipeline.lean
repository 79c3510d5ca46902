import MessageRelay.Run
import MessageRelay.Source

/-!
# From source transactions to reports

The way of a relay from end to end: the receipts of source transactions give a batch and the batch
is run (`MessageRelay.Pipeline.runReceipts`), or a transaction is submitted first and its receipt
taken (`MessageRelay.Pipeline.runTriggered`). Nothing is asked of the destination ledger unless the
whole batch was extracted.

Both are stages, so whatever is done stands in their logs. A run that returns has done what its
trace says. Of one that does not, the log says what is seen up to the horizon
(`MessageRelay.Run.stage`).
-/

namespace MessageRelay

/-! ### A run as a stage -/

namespace Run

variable (c : RunConfig) (ledger : Ledger) (batch : Batch)

/-- The driver's state as it is seen up to a horizon. -/
def stateAt (horizon : Nat) : State :=
  let seen := polls c ledger batch horizon
  let s := drive c batch.keys (relayOn c ledger) (completions seen)
  if seen.all (·.ending.isSome) then repair c batch.keys (relayOn c ledger) s else s

/-- The calls of some polls and of the relays behind them, with the messages that they are about.
Messages are relayed in batch order, and a relay that came to no result is the last one. -/
def callsOf (polls : List PollTrace) (s : State) : List (Message × LedgerCall) :=
  let relays := s.settled.map (·.calls) ++ (s.halted.map (·.calls)).toList
  (batch.messages.zip (polls.map (·.calls)) ++ batch.messages.zip relays).flatMap
    fun (m, calls) => calls.map (m, ·)

/-- What is done in a run before the outcomes are counted, by its polls and the driver's state. -/
def deedsOf (polls : List PollTrace) (s : State) : List Deed :=
  let events := Metrics.Event.extracted batch.size :: polls.flatMap (·.events) ++ s.events
  events.map .counted ++ (callsOf batch polls s).map fun (m, call) => .called m call

/-- All that is done in a run. The outcomes are counted when the run returns. -/
def Trace.deeds (t : Trace) : List Deed :=
  deedsOf t.batch t.polls t.state ++
    if t.state.halted.isSome then [] else t.reports.map fun r => .counted (.outcome r.outcome)

/-- A run as a stage. It comes to a value if it returns, and it dies with its driver. -/
def stage {ε : Type} : Stage ε Trace where
  log horizon :=
    match trace c ledger batch with
    | some t => t.deeds
    | none => deedsOf batch (watch c ledger batch horizon) (stateAt c ledger batch horizon)
  ending :=
    match trace c ledger batch with
    | some t => if t.state.halted.isSome then .death else .value t
    | none => .never

end Run

/-! ### The pipeline -/

/-- Why there was no run. -/
inductive PipelineError where
  /-- The source transaction could not be submitted. -/
  | source (error : LedgerError)
  /-- Its receipts do not give a batch. -/
  | extraction (error : ExtractionError)
deriving DecidableEq

/-- The cause in words. -/
def PipelineError.message : PipelineError → String
  | source error => "source transaction failed: " ++ error.message
  | extraction error => error.message

/-- What a relay needs to know beside its ledgers. -/
structure Pipeline where
  /-- How the run goes about its work. -/
  config : RunConfig := {}
  /-- Which log entries are messages. -/
  extractor : Extractor := {}
deriving Inhabited

namespace Pipeline

variable (p : Pipeline) (destination : Ledger)

/-- Relays the messages that receipts publish. -/
def runReceipts (receipts : List SourceReceipt) : Stage ExtractionError Run.Trace := do
  let batch ← Stage.ofExcept (Batch.ofReceipts p.extractor receipts)
  Run.stage p.config destination batch

/-- Submits a transaction to the source ledger and relays what it published. -/
def runTriggered (source : SourceLedger) (request : TransactionRequest) :
    Stage PipelineError Run.Trace := do
  let submission := Stage.perform (.submitted request) (source.submit request)
  let receipt ← submission.mapError .source
  (p.runReceipts destination [receipt]).mapError .extraction

end Pipeline

end MessageRelay
