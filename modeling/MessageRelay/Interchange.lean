import MessageRelay.Json.Fields
import MessageRelay.Outcome

/-!
# Interchange forms

Messages, keys, log entries, receipts, outcomes and reports as JSON documents. Each type has a
writer `toJson` and a reader `ofJson?`; numbers are written in plain digits over their full range,
byte strings in hexadecimal.

An outcome is tagged: the member `outcome` holds its label and the member `detail` what the label
needs, if it needs anything. The tag may stand behind the detail. The detail is then kept until the
tag is known, so it has to be a value that can be kept.
-/

namespace MessageRelay

open Json (ofMembers ofNat)

/-! ### Keys and messages -/

namespace MessageKey

/-- A key as an object. -/
def toJson (k : MessageKey) : Json :=
  ofMembers [("sender", .string k.sender.toHex), ("sequence", ofNat k.sequence.toNat)]

/-- Reads a key. -/
def ofJson? (j : Json) : Option MessageKey := do
  let [some sender, some sequence] ← j.fields? ["sender", "sequence"] | none
  let sender ← sender.octets? 20
  let sequence ← sequence.nat? UInt64.size
  pure ⟨sender, UInt64.ofNat sequence⟩

end MessageKey

namespace Message

/-- A message as an object. -/
def toJson (m : Message) : Json :=
  ofMembers
    [("sender", .string m.sender.toHex), ("sequence", ofNat m.sequence.toNat),
     ("nonce", ofNat m.nonce.toNat), ("topic", ofNat m.topic.toNat),
     ("payload", .string m.payload.toHex), ("consistency_level", ofNat m.consistencyLevel.toNat)]

/-- Reads a message. -/
def ofJson? (j : Json) : Option Message := do
  let [some sender, some sequence, some nonce, some topic, some payload, some level] ←
    j.fields? ["sender", "sequence", "nonce", "topic", "payload", "consistency_level"] | none
  let sender ← sender.octets? 20
  let sequence ← sequence.nat? UInt64.size
  let nonce ← nonce.nat? UInt32.size
  let topic ← topic.nat? UInt32.size
  let payload ← payload.bytes?
  let level ← level.nat? UInt8.size
  pure { sender
         sequence := UInt64.ofNat sequence
         nonce := UInt32.ofNat nonce
         topic := UInt32.ofNat topic
         payload
         consistencyLevel := UInt8.ofNat level }

end Message

/-! ### Receipts -/

namespace Log

/-- A log entry as an object. -/
def toJson (log : Log) : Json :=
  ofMembers
    [("address", .string log.address.toHex),
     ("topics", .array (log.topics.map fun t => .string t.toHex)),
     ("data", .string log.data.toHex),
     ("log_index", Json.ofOption (fun i => ofNat i.toNat) log.index)]

/-- Reads a log entry. -/
def ofJson? (j : Json) : Option Log := do
  let [some address, some topics, some data, index] ←
    j.fields? ["address", "topics", "data", "log_index"] | none
  let address ← address.octets? 20
  let topics ← (← topics.elements?).mapM (Json.octets? 32)
  let data ← data.bytes?
  let index ← Json.optional? (Json.nat? UInt64.size) index
  pure { address, topics, data, index := index.map UInt64.ofNat }

end Log

namespace SourceReceipt

/-- A source receipt as an object. -/
def toJson (r : SourceReceipt) : Json :=
  ofMembers
    [("transaction_hash", .string r.transaction.toHex), ("status", ofNat r.status.toNat),
     ("logs", .array (r.logs.map Log.toJson))]

/-- Reads a source receipt. -/
def ofJson? (j : Json) : Option SourceReceipt := do
  let [some transaction, some status, some logs] ←
    j.fields? ["transaction_hash", "status", "logs"] | none
  let transaction ← transaction.octets? 32
  let status ← status.nat? UInt64.size
  let logs ← (← logs.elements?).mapM Log.ofJson?
  pure { transaction, status := UInt64.ofNat status, logs }

end SourceReceipt

namespace DestinationReceipt

/-- A destination receipt as an object. -/
def toJson (r : DestinationReceipt) : Json :=
  ofMembers
    [("transaction_id", .string r.transaction.toHex), ("status", ofNat r.status.toNat)]

/-- Reads a destination receipt. -/
def ofJson? (j : Json) : Option DestinationReceipt := do
  let [some transaction, some status] ← j.fields? ["transaction_id", "status"] | none
  let transaction ← transaction.octets? 32
  let status ← status.nat? UInt64.size
  pure ⟨transaction, UInt64.ofNat status⟩

end DestinationReceipt

/-! ### Outcomes and reports -/

namespace Outcome

/-- What an outcome says beside its label. -/
def detail? : Outcome → Option Json
  | relayed tx => some (.string tx.toHex)
  | finalityTimeout => none
  | pollFailed reason | relayFailed reason => some (.string reason)
  | aborted blockedBy => some (ofMembers [("blocked_by", blockedBy.toJson)])

/-- An outcome as a tagged object. -/
def toJson (o : Outcome) : Json :=
  ofMembers (("outcome", .string o.label) :: (o.detail?.map fun d => ("detail", d)).toList)

/-- The label that a tag holds: a string, or the only name of an object under which `null`
stands. -/
def label? : Json → Option String
  | .string s => some s
  | .object [(some s, .null)] => some s
  | _ => none

/-- The outcome of a label and its detail. -/
def ofParts? (label : String) (detail : Option Json) : Option Outcome :=
  match label, detail with
  | "relayed", some j => (j.octets? 32).map relayed
  | "finality_timeout", none => some finalityTimeout
  | "finality_timeout", some .null => some finalityTimeout
  | "poll_failed", some j => j.text?.map pollFailed
  | "relay_failed", some j => j.text?.map relayFailed
  | "aborted", some (.object ms) => do
    let [some key] ← (Json.object ms).fields? ["blocked_by"] | none
    (MessageKey.ofJson? key).map aborted
  | _, _ => none

/-- Reads an outcome. -/
def ofJson? : Json → Option Outcome
  | .object members => do
    let [some tag, detail] ← (Json.object members).fields? ["outcome", "detail"] | none
    let kept := members.find? fun m => m.1 == some "outcome" || m.1 == some "detail"
    guard ((kept.all fun m => m.1 == some "outcome") || detail.all Json.isStorable)
    ofParts? (← label? tag) detail
  | .array [tag, detail] => do ofParts? (← label? tag) (some detail)
  | _ => none

end Outcome

namespace Report

/-- A report as an object. -/
def toJson (r : Report) : Json :=
  ofMembers [("key", r.key.toJson), ("outcome", r.outcome.toJson)]

/-- Reads a report. -/
def ofJson? (j : Json) : Option Report := do
  let [some key, some outcome] ← j.fields? ["key", "outcome"] | none
  pure ⟨← MessageKey.ofJson? key, ← Outcome.ofJson? outcome⟩

end Report

end MessageRelay
