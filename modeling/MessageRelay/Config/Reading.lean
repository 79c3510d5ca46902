import MessageRelay.Config
import MessageRelay.Environment.File

/-!
# Reading the configuration

The configuration is read from the variables of an environment
(`MessageRelay.Config.ofEnvironment`), one after the other; the first fault is reported. A variable
that may be absent is absent as well when it is blank or no text. Numbers, truth values, addresses
and the policy may have white space around them; URLs and keys are taken as they stand.

An environment file adds to the environment before (`MessageRelay.Config.load`).
-/

namespace MessageRelay

namespace Config

variable {α : Type}

/-! ### Variables -/

/-- The text of a variable that must be set. -/
def required (env : Environment) (name : String) : Except ConfigError String :=
  match env.text? name with
  | some s => .ok s
  | none => .error (.missing name)

/-- The text of a variable that may be absent or blank. -/
def present? (env : Environment) (name : String) : Option String :=
  (env.text? name).filter (!Text.isAllBlank ·)

/-- The value of a variable that may be absent or blank. -/
def value? (env : Environment) (name : String) (read : String → Except ValueError α) :
    Except ConfigError (Option α) :=
  match present? env name with
  | none => .ok none
  | some s =>
    match read (Text.trim s) with
    | .ok a => .ok (some a)
    | .error cause => .error (.invalidValue name s cause)

/-- A variable's text as an address. -/
def addressOf (name text : String) : Except ConfigError Address :=
  (Setting.address (Text.trim text)).mapError (.invalidAddress name)

/-- The address of a variable that may be absent or blank. -/
def address? (env : Environment) (name : String) : Except ConfigError (Option Address) :=
  match present? env name with
  | none => .ok none
  | some s => (addressOf name s).map some

/-- A number of 64 bits. -/
def word64 (s : String) : Except ValueError UInt64 :=
  (Setting.number UInt64.size s).map UInt64.ofNat

/-- A number of 32 bits. -/
def word32 (s : String) : Except ValueError UInt32 :=
  (Setting.number UInt32.size s).map UInt32.ofNat

/-- A number of 128 bits. -/
def word128 (s : String) : Except ValueError (BitVec 128) :=
  (Setting.number (Octets.count 16) s).map (BitVec.ofNat 128)

/-! ### The configuration -/

/-- The part about the source ledger. -/
def readSource (env : Environment) : Except ConfigError SourceConfig := do
  let rpcUrl ← required env "SOURCE_RPC_URL"
  let messageBus ← address? env "SOURCE_MESSAGE_BUS_ADDRESS"
  let privateKey := (present? env "SOURCE_PRIVATE_KEY").map Redacted.mk
  pure { rpcUrl, messageBus, privateKey }

/-- The part about the destination ledger. -/
def readDestination (env : Environment) : Except ConfigError DestinationConfig := do
  let rpcUrl ← required env "DEST_RPC_URL"
  let messageBus ← address? env "MESSAGE_BUS_ADDRESS"
  let messenger ← addressOf "MESSENGER_ADDRESS" (← required env "MESSENGER_ADDRESS")
  let privateKey := Redacted.mk (← required env "RELAYER_PRIVATE_KEY")
  let gasLimit := (← value? env "RELAY_GAS_LIMIT" word64).getD 5000000
  let maxFeePerGas := (← value? env "RELAY_MAX_FEE_PER_GAS" word128).getD 1000000001
  pure { rpcUrl, messageBus, messenger, privateKey, gasLimit, maxFeePerGas }

/-- The part about the work. -/
def readRelay (env : Environment) : Except ConfigError RelayConfig := do
  let pollInterval := (← value? env "RELAY_POLL_INTERVAL_MS" word64).getD 1000
  let finalityTimeout := (← value? env "RELAY_FINALITY_TIMEOUT_MS" word64).getD 30000
  let runTimeout ← value? env "RELAY_PIPELINE_TIMEOUT_MS" word64
  let policy := (← value? env "RELAY_FAILURE_POLICY" Setting.policy).getD .abortRemaining
  let cancelOnAbort := (← value? env "RELAY_CANCEL_POLLS_ON_ABORT" Setting.flag).getD false
  let retries := (← value? env "RELAY_SUBMIT_RETRIES" word32).getD 2
  pure { pollInterval, finalityTimeout, runTimeout, policy, cancelOnAbort, retries }

/-- The configuration that an environment describes. -/
def ofEnvironment (env : Environment) : Except ConfigError Config := do
  let config : Config :=
    { source := ← readSource env, destination := ← readDestination env, relay := ← readRelay env }
  config.validate
  pure config

/-- The configuration that an environment describes together with what stands at a path. -/
def load (env : Environment) (path : String) (content : FileContent) :
    Except ConfigError Config :=
  match env.extend? content with
  | some env => ofEnvironment env
  | none => .error (.file path)

end Config

end MessageRelay
