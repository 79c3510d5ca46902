import MessageRelay.Client
import MessageRelay.CommandLine
import MessageRelay.Config.Reading
import MessageRelay.Interchange
import MessageRelay.NetworkConfig
import MessageRelay.Pipeline

/-!
# The program

What the program does from its arguments to its exit (`MessageRelay.Program.run`). It reads the
arguments and the configuration, finds the message bus, makes the clients
(`MessageRelay.Program.setup`), fetches the receipts of the given transactions or triggers one,
relays what they publish (`MessageRelay.Program.relay`), and prints a line for each message or the
reports as JSON, and behind them the metrics if they are asked for.

The exit status is zero exactly if every message was relayed. It is two if the arguments make no
sense and one for every other failure.
-/

namespace MessageRelay

namespace Program

/-- What the program works with that is not its own. -/
structure Surroundings where
  /-- What is behind the web address of the source node. -/
  source : SourceProvider
  /-- What is behind that of the destination node. -/
  destination : DestinationProvider
  /-- What the codec says of data that it cannot read. -/
  explain : Bytes → String := fun _ => ""

/-- Surroundings in which no node is ever reached. -/
def Surroundings.unreachable : Surroundings where
  source := .unreachable
  destination := .unreachable

/-! ### Failures -/

/-- Why nothing was relayed. -/
inductive Failure where
  /-- The arguments ask for nothing. -/
  | refusal (cause : CommandLine.Refusal)
  /-- There is no configuration. -/
  | config (cause : ConfigError)
  /-- The message bus is not configured and was not found. -/
  | discovery (cause : LedgerError)
  /-- There is no client. -/
  | client (cause : ClientError)
  /-- There is no key for the triggering transaction. -/
  | noSourceKey
  /-- The receipts were not to be had. -/
  | receipts (cause : LedgerError)
  /-- The triggering transaction failed. -/
  | trigger (cause : LedgerError)
  /-- The receipts do not make a batch. -/
  | extraction (cause : ExtractionError)
deriving DecidableEq

namespace Failure

/-- What the failure of a triggered relay is for the program. -/
def ofPipeline : PipelineError → Failure
  | .source cause => trigger cause
  | .extraction cause => extraction cause

/-- The failure in words. -/
def message : Failure → String
  | refusal _ => "invalid arguments, try --help"
  | config cause => cause.message
  | discovery cause =>
    "MESSAGE_BUS_ADDRESS is not set and net_config discovery failed: " ++ cause.message
  | client cause => cause.message
  | noSourceKey => "SOURCE_PRIVATE_KEY is required to send a trigger transaction"
  | receipts cause => "Failed to fetch source receipts: " ++ cause.message
  | trigger cause => (PipelineError.source cause).message
  | extraction cause => (PipelineError.extraction cause).message

/-- The exit status of a failure. -/
def exitStatus : Failure → Nat
  | refusal cause => cause.exitStatus
  | _ => 1

end Failure

/-! ### Texts -/

/-- The version of the program. -/
def version : String := "xchain-relay 0.1.0\n"

/-- How the program is used. -/
def usage : String :=
  "Relays cross-chain MessageBus messages from a source ledger to a destination executor\n\n"
  ++ "Usage: xchain-relay [OPTIONS] [SOURCE_TX_HASH]...\n\n"
  ++ "Arguments:\n"
  ++ "  [SOURCE_TX_HASH]...  Source transaction hashes, relayed in the given order\n\n"
  ++ "Options:\n"
  ++ "      --env-file <ENV_FILE>   Env file to load before reading configuration "
  ++ "[default: .env]\n"
  ++ "      --print-metrics         Print Prometheus metrics after the run\n"
  ++ "      --trigger-to <ADDRESS>  Send a transaction to this source contract and relay what it "
  ++ "publishes (signed with SOURCE_PRIVATE_KEY)\n"
  ++ "      --trigger-data <HEX>    Calldata for the trigger transaction\n"
  ++ "      --json-logs             Emit JSON logs (also enabled by LOG_FORMAT=json)\n"
  ++ "      --json                  Print the per-message reports as a JSON array instead of text "
  ++ "lines\n"
  ++ "  -h, --help                  Print help\n"
  ++ "  -V, --version               Print version\n"

/-- What is printed at a failure. -/
def Failure.output : Failure → String
  | refusal .help => usage
  | refusal .version => version
  | _ => ""

/-- What is printed for the reports of a run. -/
def reportText (asJson : Bool) (reports : List Report) : String :=
  if asJson then (Json.array (reports.map Report.toJson)).writePretty ++ "\n"
  else String.join (reports.map fun r => r.line ++ "\n")

/-- What is printed for a run. -/
def output (line : CommandLine) (t : Run.Trace) : String :=
  reportText line.json t.reports ++
    if line.printMetrics then
      String.join ((Metrics.Registry.ofEvents t.events).render.map (· ++ "\n"))
    else ""

/-! ### The stages -/

/-- All that a relay needs, except for the receipts. -/
structure Setup where
  line : CommandLine
  config : Config
  client : DestinationClient

variable (around : Surroundings)

/-- The message bus: the one that is configured, else the one that the node names. -/
def messageBus (c : Config) : Stage Failure Address :=
  match c.destination.messageBus with
  | some bus => pure bus
  | none => (NetworkConfig.discover around.destination.network).mapError .discovery

/-- Reads the arguments and the configuration and makes the destination client. -/
def setup (files : String → FileContent) (env : Environment) (args : List String) :
    Stage Failure Setup := do
  let line ← Stage.ofExcept ((CommandLine.parse args).mapError .refusal)
  let file := files line.envFile
  let config ← Stage.ofExcept ((Config.load env line.envFile file).mapError .config)
  let bus ← messageBus around config
  let client ← Stage.ofExcept ((DestinationClient.ofConfig config.destination bus).mapError .client)
  pure { line, config, client }

/-- How a relay goes about its work. -/
def pipeline (s : Setup) : Pipeline where
  config := s.config.runConfig
  extractor := { emitter := s.config.source.messageBus, explain := around.explain }

/-- The transaction that triggers a contract, signed by the client's account. -/
def triggerRequest (line : CommandLine) (recipient : Address) (client : SourceClient) :
    TransactionRequest :=
  { sender := client.signer, recipient := some recipient, input := line.triggerData.getD [] }

/-- The client that looks up receipts. -/
def sourceClient (s : Setup) : Except Failure SourceClient :=
  (SourceClient.ofUrl s.config.source.rpcUrl).mapError .client

/-- The client that triggers a contract. -/
def triggerClient (s : Setup) : Except Failure SourceClient :=
  match s.config.source.privateKey with
  | none => .error .noSourceKey
  | some key => (SourceClient.ofKey s.config.source.rpcUrl key.secret).mapError .client

/-- Relays what the given transactions have published, or what the triggering one publishes. -/
def relay (s : Setup) : Stage Failure Run.Trace := do
  let destination := s.client.ledger around.destination
  match s.line.triggerTo with
  | none =>
    let client ← Stage.ofExcept (sourceClient s)
    let source := client.ledger around.source
    let receipts ← (source.fetchReceipts s.line.transactions).mapError .receipts
    ((pipeline around s).runReceipts destination receipts).mapError .extraction
  | some recipient =>
    let client ← Stage.ofExcept (triggerClient s)
    let source := client.ledger around.source
    let request := triggerRequest s.line recipient client
    ((pipeline around s).runTriggered destination source request).mapError Failure.ofPipeline

/-- All stages, one after the other. -/
def body (files : String → FileContent) (env : Environment) (args : List String) :
    Stage Failure (Setup × Run.Trace) := do
  let s ← setup around files env args
  let t ← relay around s
  pure (s, t)

/-! ### The run -/

/-- The transactions that the destination node was asked to pass on, in order. -/
def sentToDestination (client : DestinationClient) (t : Run.Trace) : List Transaction :=
  t.state.settled.flatMap fun settlement =>
    match t.batch.messages[settlement.position]? with
    | none => []
    | some m =>
      settlement.calls.zipIdx.flatMap fun (call, k) =>
        (client.send around.destination m k call.start).broadcasts

/-- What the program did. -/
structure Result where
  /-- The exit status; absent if the program never ends. -/
  status : Option Nat
  /-- What it printed. -/
  output : String := ""
  /-- Why it failed before anything was relayed. -/
  failure : Option Failure := none
  /-- The transactions that the destination node was asked to pass on, if the run has returned. -/
  toDestination : List Transaction := []
  /-- What it did up to a horizon, in order. -/
  log : (horizon : Nat) → List Deed

/-- What the stages of the program come to. -/
def result (stage : Stage Failure (Setup × Run.Trace)) : Result :=
  match stage.ending with
  | .value (s, t) =>
    { status := some (if Report.allRelayed t.reports then 0 else 1)
      output := output s.line t
      toDestination := sentToDestination around s.client t
      log := stage.log }
  | .error f =>
    { status := some f.exitStatus
      output := f.output
      failure := some f
      log := stage.log }
  | .death => { status := some 101, log := stage.log }
  | .never => { status := none, log := stage.log }

/-- The program from its arguments to its exit. -/
def run (files : String → FileContent) (env : Environment) (args : List String) : Result :=
  result around (body around files env args)

end Program

end MessageRelay
