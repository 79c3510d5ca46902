import MessageRelay.Contracts

/-!
# Contract calls about a message

Three functions of the contracts take a message: the destination's bus answers whether the message
is final and when it becomes so, and the messenger delivers it. The calldata of each is the
function's selector and the encoding of its only argument, the message as the contracts declare it
(`MessageRelay.ContractCall.calldata`).
-/

namespace MessageRelay

/-- A contract function with a message as its only argument. -/
inductive ContractCall where
  /-- Delivers the message on the destination ledger. -/
  | relayMessage
  /-- Answers whether the message is final. -/
  | verifyMessageFinalized
  /-- Answers when the message becomes final, zero if that is not known. -/
  | getMessageTimeOfFinality
deriving DecidableEq, Inhabited

namespace ContractCall

/-- The function's name. -/
def name : ContractCall → String
  | relayMessage => "relayMessage"
  | verifyMessageFinalized => "verifyMessageFinalized"
  | getMessageTimeOfFinality => "getMessageTimeOfFinality"

/-- The function of a name. -/
def ofName? (s : String) : Option ContractCall :=
  [relayMessage, verifyMessageFinalized, getMessageTimeOfFinality].find? (·.name == s)

/-- The function's signature, from which its selector is derived. -/
def signature (c : ContractCall) : String :=
  c.name ++ "(" ++ Abi.typeName XChainMessage.fieldTypes ++ ")"

/-- The first four bytes of the signature's digest. -/
def selector (c : ContractCall) : Bytes :=
  (keccak256Text c.signature).bytes.take 4

/-- The bytes that call the function with a message. -/
def calldata (c : ContractCall) (m : Message) : Bytes :=
  c.selector ++ Abi.encodeStruct XChainMessage.fieldTypes (XChainMessage.ofMessage m).fields

/-- Reads the argument of a call of the function. -/
def decode? (c : ContractCall) (bs : Bytes) : Option XChainMessage := do
  guard (bs.take 4 = c.selector)
  let fields ← Abi.decodeStruct? XChainMessage.fieldTypes (bs.drop 4)
  some (.ofFields fields)

end ContractCall

end MessageRelay
