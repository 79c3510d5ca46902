import MessageRelay.Abi
import MessageRelay.Message

/-!
# The contracts' view of a message

A message is declared twice. The source's bus publishes it as an event
(`MessageRelay.LogMessagePublished`), and the contracts on the destination take it as a structure
(`MessageRelay.XChainMessage`). Each declaration lists its fields with their types in an order of
its own, and each has its own conversions from and to `MessageRelay.Message`.
-/

namespace MessageRelay

/-! ### The event -/

/-- What the source's bus publishes. No field is indexed. -/
structure LogMessagePublished where
  sender : Address
  sequence : UInt64
  nonce : UInt32
  topic : UInt32
  payload : Bytes
  consistencyLevel : UInt8
deriving DecidableEq

namespace LogMessagePublished

/-- The types of the fields, in the order in which the event declares them. -/
def fieldTypes : List Abi.FieldType :=
  [.address, .uint64, .uint32, .uint32, .bytes, .uint8]

/-- The fields, in that order. -/
def fields (e : LogMessagePublished) : Abi.Fields fieldTypes :=
  (e.sender, e.sequence, e.nonce, e.topic, e.payload, e.consistencyLevel, ())

/-- The event with given fields. -/
def ofFields : Abi.Fields fieldTypes → LogMessagePublished
  | (sender, sequence, nonce, topic, payload, consistencyLevel, ()) =>
    { sender, sequence, nonce, topic, payload, consistencyLevel }

/-- The event that publishes a message. -/
def ofMessage (m : Message) : LogMessagePublished where
  sender := m.sender
  sequence := m.sequence
  nonce := m.nonce
  topic := m.topic
  payload := m.payload
  consistencyLevel := m.consistencyLevel

/-- The message that an event publishes. -/
def toMessage (e : LogMessagePublished) : Message where
  sender := e.sender
  sequence := e.sequence
  nonce := e.nonce
  topic := e.topic
  payload := e.payload
  consistencyLevel := e.consistencyLevel

@[simp] theorem ofFields_fields (e : LogMessagePublished) : ofFields e.fields = e := rfl

@[simp] theorem fields_ofFields (fields : Abi.Fields fieldTypes) :
    (ofFields fields).fields = fields := rfl

@[simp] theorem toMessage_ofMessage (m : Message) : (ofMessage m).toMessage = m := rfl

@[simp] theorem ofMessage_toMessage (e : LogMessagePublished) : ofMessage e.toMessage = e := rfl

end LogMessagePublished

/-! ### The structure -/

/-- What the contracts on the destination take. -/
structure XChainMessage where
  sender : Address
  sequence : UInt64
  nonce : UInt32
  topic : UInt32
  payload : Bytes
  consistencyLevel : UInt8
deriving DecidableEq

namespace XChainMessage

/-- The types of the members, in the order in which the structure declares them. -/
def fieldTypes : List Abi.FieldType :=
  [.address, .uint64, .uint32, .uint32, .bytes, .uint8]

/-- The members, in that order. -/
def fields (x : XChainMessage) : Abi.Fields fieldTypes :=
  (x.sender, x.sequence, x.nonce, x.topic, x.payload, x.consistencyLevel, ())

/-- The structure with given members. -/
def ofFields : Abi.Fields fieldTypes → XChainMessage
  | (sender, sequence, nonce, topic, payload, consistencyLevel, ()) =>
    { sender, sequence, nonce, topic, payload, consistencyLevel }

/-- The structure for a message. -/
def ofMessage (m : Message) : XChainMessage where
  sender := m.sender
  sequence := m.sequence
  nonce := m.nonce
  topic := m.topic
  payload := m.payload
  consistencyLevel := m.consistencyLevel

@[simp] theorem ofFields_fields (x : XChainMessage) : ofFields x.fields = x := rfl

@[simp] theorem fields_ofFields (fields : Abi.Fields fieldTypes) :
    (ofFields fields).fields = fields := rfl

/-- The structure for a message says which message it is. -/
theorem ofMessage_inj {m m' : Message} : ofMessage m = ofMessage m' ↔ m = m' := by
  constructor
  · intro h
    cases m
    cases m'
    cases h
    rfl
  · exact congrArg ofMessage

end XChainMessage

end MessageRelay
