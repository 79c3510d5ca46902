import MessageRelay.Contracts
import MessageRelay.Receipt

/-!
# Published messages

The source ledger publishes a message as a log entry of the event
`LogMessagePublished(address,uint64,uint32,uint32,bytes,uint8)`, none of whose fields is indexed:
the entry's only topic is the digest of that signature (`MessageRelay.Published.eventTopic`), and
its data are the encoding of the event's fields. `MessageRelay.Published.encode` writes such an
entry and `MessageRelay.Published.decode` reads it, naming the first of four causes when it cannot.
What the codec says of data that it cannot read is its own affair and kept as it is.
-/

namespace MessageRelay

namespace Published

/-- The event's signature. -/
def eventSignature : String :=
  "LogMessagePublished" ++ Abi.typeName LogMessagePublished.fieldTypes

/-- The digest of the event's signature, which marks the entries of the event. -/
def eventTopic : Hash :=
  keccak256Text eventSignature

/-- How many topics an entry of the event has. -/
def topicCount : Nat := 1

/-- Why a log entry is not a published message. -/
inductive DecodeError where
  /-- The entry has no topic at all. -/
  | missingTopic
  /-- The first topic is that of another event. -/
  | topicMismatch (found : Hash)
  /-- There are indexed fields, which the event does not have. -/
  | unexpectedTopicCount (found : Nat)
  /-- The data do not encode the event's fields. -/
  | malformedData (explanation : String)
deriving DecidableEq

/-- The cause in words. -/
def DecodeError.message : DecodeError → String
  | missingTopic => "log has no topics"
  | topicMismatch found =>
    "log topic " ++ found.toHex ++ " does not match event topic " ++ eventTopic.toHex
  | unexpectedTopicCount found =>
    "expected " ++ toString topicCount ++ " topic(s), log has " ++ toString found
  | malformedData explanation => "malformed event data: " ++ explanation

/-- Reads the message that a log entry publishes. Data that cannot be read are explained. -/
def decode (explain : Bytes → String) (log : Log) : Except DecodeError Message :=
  match log.topics with
  | [] => .error .missingTopic
  | first :: others =>
    if first ≠ eventTopic then .error (.topicMismatch first)
    else if others.length + 1 ≠ topicCount then .error (.unexpectedTopicCount (others.length + 1))
    else match Abi.decode? LogMessagePublished.fieldTypes log.data with
      | some fields => .ok (LogMessagePublished.ofFields fields).toMessage
      | none => .error (.malformedData (explain log.data))

/-- The log entry that publishes a message, from the zero address and at no place in a block. -/
def encode (m : Message) : Log where
  address := Octets.zero 20
  topics := [eventTopic]
  data := Abi.encode LogMessagePublished.fieldTypes (LogMessagePublished.ofMessage m).fields
  index := none

end Published

end MessageRelay
