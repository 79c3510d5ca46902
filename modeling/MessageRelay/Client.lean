import MessageRelay.Account
import MessageRelay.Calls
import MessageRelay.Config
import MessageRelay.Provider
import MessageRelay.Source
import MessageRelay.Url

/-!
# Clients

The two ledgers as they are reached through nodes. The source client
(`MessageRelay.SourceClient`) looks up receipts and submits triggering transactions. The destination
client (`MessageRelay.DestinationClient`) asks the bus about the finality of messages and delivers
them to the messenger.

A client and a provider make a ledger: `MessageRelay.SourceClient.ledger` and
`MessageRelay.DestinationClient.ledger`.
-/

namespace MessageRelay

open Rpc

/-- Why there is no client. -/
inductive ClientError where
  /-- The source node's address is no URL. -/
  | sourceUrl
  /-- The source key is no key. -/
  | sourceKey
  /-- The destination node's address is no URL. -/
  | destinationUrl
  /-- The relayer's key is no key. -/
  | relayerKey
deriving DecidableEq, Inhabited

/-- The error in words. -/
def ClientError.message : ClientError → String
  | sourceUrl => "Invalid source RPC URL"
  | sourceKey => "Invalid private key"
  | destinationUrl => "Invalid destination RPC URL"
  | relayerKey => "Invalid relayer private key"

/-- The URL of a text, or an error. -/
def Url.parseOr (e : ClientError) (text : String) : Except ClientError Url :=
  (Url.parse text).mapError fun _ => e

/-- The key of a text, or an error. -/
def PrivateKey.parseOr (e : ClientError) (text : String) : Except ClientError PrivateKey :=
  match PrivateKey.ofText? text with
  | some key => .ok key
  | none => .error e

/-! ### The source -/

/-- A client of the source ledger. -/
structure SourceClient where
  /-- Where the node is. -/
  url : Url
  /-- The key that signs transactions, if there is one. -/
  key : Option PrivateKey

namespace SourceClient

/-- A client that looks up receipts. -/
def ofUrl (url : String) : Except ClientError SourceClient := do
  pure { url := ← Url.parseOr .sourceUrl url, key := none }

/-- A client that submits transactions as well. -/
def ofKey (url key : String) : Except ClientError SourceClient := do
  let key ← PrivateKey.parseOr .sourceKey key
  pure { url := ← Url.parseOr .sourceUrl url, key := some key }

/-- The account that signs transactions. -/
def signer (c : SourceClient) : Option Address :=
  c.key.map (·.address)

/-- The ledger behind a provider. -/
def ledger (c : SourceClient) (provider : SourceProvider) : SourceLedger where
  submit request :=
    match c.signer with
    | none => .answer 0 (.error (.rpc "source client has no signer"))
    | some signer =>
      let receipt := (provider.send signer request).outcome TransportError.ledgerError
      (receipt.map (Except.map TransactionReceipt.onSource)).reply
  receipt k tx :=
    let receipt := (provider.receipt k tx).map (Except.mapError TransportError.ledgerError)
    (receipt.map (Except.map (Option.map TransactionReceipt.onSource))).reply

end SourceClient

/-! ### The destination -/

/-- A client of the destination ledger. -/
structure DestinationClient where
  /-- Where the node is. -/
  url : Url
  /-- The contract that is asked about finality. -/
  messageBus : Address
  /-- The contract that messages are delivered to. -/
  messenger : Address
  /-- The key that signs deliveries. -/
  key : PrivateKey
  /-- The gas limit of a delivery. -/
  gasLimit : UInt64
  /-- The fee that is offered with finality queries. -/
  maxFeePerGas : BitVec 128

namespace DestinationClient

/-- The client of a configuration, with the bus that is configured or was found. -/
def ofConfig (c : DestinationConfig) (messageBus : Address) :
    Except ClientError DestinationClient := do
  let url ← Url.parseOr .destinationUrl c.rpcUrl
  let key ← PrivateKey.parseOr .relayerKey c.privateKey.secret
  pure
    { url, messageBus, messenger := c.messenger, key, gasLimit := c.gasLimit
      maxFeePerGas := c.maxFeePerGas }

variable (c : DestinationClient)

/-- The account that signs deliveries. -/
def relayer : Address :=
  c.key.address

/-- The call whose cost is that of a finality check. -/
def estimateCall (m : Message) : Call where
  sender := some c.relayer
  contract := c.messageBus
  input := ContractCall.verifyMessageFinalized.calldata m

/-- The call that answers whether a message is final. -/
def checkCall (m : Message) (gas : UInt64) : Call :=
  { c.estimateCall m with gas := some gas, maxFee := some c.maxFeePerGas.toNat }

/-- The call that answers when a message becomes final. -/
def finalityTimeCall (m : Message) : Call where
  contract := c.messageBus
  input := ContractCall.getMessageTimeOfFinality.calldata m

/-- The contract call that a call to the ledger makes about finality. -/
def query? (m : Message) (call : LedgerCall) : Option Call :=
  match call.kind with
  | .estimate => some (c.estimateCall m)
  | .check gas => some (c.checkCall m gas)
  | .finalityTime => some (c.finalityTimeCall m)
  | .submit => none

/-- The transaction that delivers a message. -/
def delivery (m : Message) : TransactionRequest where
  recipient := some c.messenger
  input := ContractCall.relayMessage.calldata m
  gas := some c.gasLimit

/-- A time of finality, where zero says that none is known. -/
def knownTime (time : Nat) : Option Nat :=
  if time = 0 then none else some time

variable (provider : DestinationProvider)

/-- What comes of sending the delivery of a message for the `k`-th time. -/
def send (m : Message) (k start : Nat) : Sending ContractError :=
  provider.send c.relayer (c.delivery m) k start

/-- The ledger behind a provider. -/
def ledger : Ledger where
  estimate m start :=
    let cost := provider.estimate (c.estimateCall m) start
    (cost.map (Except.mapError ContractError.ledgerError)).reply
  check m gas k start :=
    let isFinal := provider.truth (c.checkCall m gas) k start
    (isFinal.map (Except.mapError ContractError.ledgerError)).reply
  finalityTime m start :=
    let time := provider.number (c.finalityTimeCall m) start
    (time.map fun time => (time.mapError ContractError.ledgerError).map knownTime).reply
  submit m k start :=
    let receipt := (c.send provider m k start).outcome ContractError.ledgerError
    (receipt.map (Except.map TransactionReceipt.onDestination)).reply

end DestinationClient

end MessageRelay
