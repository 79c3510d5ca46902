import MessageRelay.Config.Value
import MessageRelay.Message
import MessageRelay.Redacted
import MessageRelay.Run
import MessageRelay.Url

/-!
# Configuration

What a relay needs to know (`MessageRelay.Config`): the source ledger, the destination ledger, and
how to go about the work. A configuration that can be used is a valid one
(`MessageRelay.Config.validate`): both nodes have a web address with a host, the private keys have
the form of keys, and the addresses that must not be zero and the numbers that must not be zero are
not.

In its written form (`MessageRelay.Config.text`) the nodes' addresses are cut down to scheme, host
and port, and the keys are not shown.
-/

namespace MessageRelay

/-- The source ledger: where messages are published. -/
structure SourceConfig where
  /-- The web address of the node. -/
  rpcUrl : String
  /-- The contract whose messages alone are relayed, if there is one. -/
  messageBus : Option Address
  /-- The key that signs a triggering transaction, if there is one. -/
  privateKey : Option (Redacted String)
deriving DecidableEq, Inhabited

/-- The destination ledger: where messages become final and are delivered. -/
structure DestinationConfig where
  /-- The web address of the node. -/
  rpcUrl : String
  /-- The contract that is asked about finality. If it is absent, the node is asked for it. -/
  messageBus : Option Address
  /-- The contract that messages are delivered to. -/
  messenger : Address
  /-- The key that signs deliveries. -/
  privateKey : Redacted String
  /-- The gas limit of a delivery. -/
  gasLimit : UInt64
  /-- The fee that is offered with finality queries. -/
  maxFeePerGas : BitVec 128
deriving DecidableEq, Inhabited

/-- How to go about the work. Times are in milliseconds. -/
structure RelayConfig where
  /-- The distance between two finality queries. -/
  pollInterval : UInt64
  /-- How long a message is polled. -/
  finalityTimeout : UInt64
  /-- How long there is any polling at all. -/
  runTimeout : Option UInt64
  /-- What happens behind a failure. -/
  policy : FailurePolicy
  /-- Whether polls are cancelled when the run aborts. -/
  cancelOnAbort : Bool
  /-- How often a submission is retried. -/
  retries : UInt32
deriving DecidableEq, Inhabited

/-- The configuration of a relay. -/
structure Config where
  source : SourceConfig
  destination : DestinationConfig
  relay : RelayConfig
deriving DecidableEq, Inhabited

/-! ### Errors -/

/-- Why there is no configuration. -/
inductive ConfigError where
  /-- The environment file cannot be read. -/
  | file (path : String)
  /-- A variable is not set. -/
  | missing (name : String)
  /-- The text of a variable has a fault. -/
  | invalidValue (name text : String) (cause : ValueError)
  /-- The text of a variable is no address. -/
  | invalidAddress (name : String) (cause : ValueError)
  /-- The text of a variable is no URL. -/
  | invalidUrl (name : String) (cause : UrlError)
  /-- The URL is not one of the web. -/
  | wrongScheme (name scheme : String)
  /-- The URL leads nowhere. -/
  | noHost (name : String)
  /-- The text does not have the form of a key. -/
  | badKey (name : String)
  /-- The address is zero. -/
  | zeroAddress (name : String)
  /-- The number is zero. -/
  | zero (name : String)
  /-- The number is zero and might as well be absent. -/
  | zeroWhenSet (name : String)
deriving DecidableEq, Inhabited

namespace ConfigError

/-- The error in words, without the fault that caused it. -/
def message : ConfigError → String
  | file path => "Failed to load .env file from " ++ path
  | missing name => name ++ " environment variable is required"
  | invalidValue name text _ => name ++ " has an invalid value: " ++ text
  | invalidAddress name _ => name ++ " must be a valid EVM address"
  | invalidUrl name cause => name ++ " must be a valid URL: " ++ cause.message
  | wrongScheme name scheme => name ++ " must use http:// or https:// scheme, got " ++ scheme
  | noHost name => name ++ " must have a host component"
  | badKey name => name ++ " must be 66 chars (0x + 64 hex chars)"
  | zeroAddress name => name ++ " cannot be the zero address"
  | zero name => name ++ " must be greater than zero"
  | zeroWhenSet name => name ++ " must be greater than zero when set"

/-- The fault that caused the error, if it is one of its own. -/
def cause? : ConfigError → Option ValueError
  | invalidValue _ _ cause | invalidAddress _ cause => some cause
  | _ => none

end ConfigError

/-! ### Validity -/

/-- What is wrong with the web address of a node. -/
def Url.validate (text name : String) : Except ConfigError Unit :=
  match Url.parse (Text.trim text) with
  | .error e => .error (.invalidUrl name e)
  | .ok u =>
    let scheme := String.ofList u.scheme
    if scheme ≠ "http" ∧ scheme ≠ "https" then .error (.wrongScheme name scheme)
    else if u.host.isNone then .error (.noHost name)
    else .ok ()

namespace Config

/-- An error unless a condition holds. -/
def require (holds : Bool) (e : ConfigError) : Except ConfigError Unit :=
  if holds then .ok () else .error e

/-- Whether a text has the length and the marker of a private key. -/
def hasKeyForm (key : String) : Bool :=
  (Bytes.ofText key).length == 66 && "0x".toList.isPrefixOf key.toList

/-- What is wrong with a configuration. -/
def validate (c : Config) : Except ConfigError Unit := do
  Url.validate c.source.rpcUrl "SOURCE_RPC_URL"
  Url.validate c.destination.rpcUrl "DEST_RPC_URL"
  require (hasKeyForm c.destination.privateKey.secret) (.badKey "RELAYER_PRIVATE_KEY")
  require (c.source.privateKey.all (hasKeyForm ·.secret)) (.badKey "SOURCE_PRIVATE_KEY")
  require (c.destination.messageBus != some (Octets.zero 20)) (.zeroAddress "MESSAGE_BUS_ADDRESS")
  require (c.destination.messenger != Octets.zero 20) (.zeroAddress "MESSENGER_ADDRESS")
  require (c.destination.gasLimit != 0) (.zero "RELAY_GAS_LIMIT")
  require (c.relay.pollInterval != 0) (.zero "RELAY_POLL_INTERVAL_MS")
  require (c.relay.finalityTimeout != 0) (.zero "RELAY_FINALITY_TIMEOUT_MS")
  require (c.relay.runTimeout != some 0) (.zeroWhenSet "RELAY_PIPELINE_TIMEOUT_MS")

/-- How a run goes about its work. -/
def runConfig (c : Config) : RunConfig where
  interval := .ofMillis c.relay.pollInterval.toNat
  finalityDeadline := .ofMillis c.relay.finalityTimeout.toNat
  runDeadline := c.relay.runTimeout.map fun ms => .ofMillis ms.toNat
  policy := c.relay.policy
  cancelOnAbort := c.relay.cancelOnAbort
  retry := { maxRetries := c.relay.retries }

/-! ### The written form -/

/-- A text in double quotes. -/
def quoted (s : String) : String :=
  let escape := fun c => if c = '"' ∨ c = '\\' then ['\\', c] else [c]
  String.ofList ('"' :: s.toList.flatMap escape ++ ['"'])

/-- A value that may be absent. -/
def optional {α : Type} (f : α → String) : Option α → String
  | none => "None"
  | some a => "Some(" ++ f a ++ ")"

/-- A record with its fields. -/
def record (name : String) (fields : List (String × String)) : String :=
  name ++ " \x7b " ++
    String.intercalate ", " (fields.map fun (label, value) => label ++ ": " ++ value) ++ " \x7d"

/-- The configuration as one line. -/
def text (c : Config) : String :=
  let source := record "SourceConfig"
    [("rpc_url", quoted (Url.redact c.source.rpcUrl)),
     ("message_bus_address", optional Octets.toHex c.source.messageBus),
     ("private_key", optional Redacted.text c.source.privateKey)]
  let destination := record "DestinationConfig"
    [("rpc_url", quoted (Url.redact c.destination.rpcUrl)),
     ("message_bus_address", optional Octets.toHex c.destination.messageBus),
     ("messenger_address", c.destination.messenger.toHex),
     ("private_key", c.destination.privateKey.text),
     ("relay_gas_limit", toString c.destination.gasLimit.toNat),
     ("max_fee_per_gas", toString c.destination.maxFeePerGas.toNat)]
  let relay := record "RelayConfig"
    [("poll_interval_ms", toString c.relay.pollInterval.toNat),
     ("finality_timeout_ms", toString c.relay.finalityTimeout.toNat),
     ("pipeline_timeout_ms", optional (fun t => toString t.toNat) c.relay.runTimeout),
     ("failure_policy", c.relay.policy.title),
     ("cancel_polls_on_abort", toString c.relay.cancelOnAbort),
     ("submit_retries", toString c.relay.retries.toNat)]
  record "Config" [("source", source), ("destination", destination), ("relay", relay)]

end Config

end MessageRelay
