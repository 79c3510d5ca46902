import MessageRelay.Client
import MessageRelay.Proofs.Calls
import MessageRelay.Proofs.Published

/-!
# Messages arrive as they were published

A message is declared twice. The source's bus publishes it as an event
(`MessageRelay.LogMessagePublished`), and the contracts on the destination take it as a structure
(`MessageRelay.XChainMessage`), which is the one argument of their functions. On its way a message
goes through three conversions: out of the event that was read, into the structure, and into the
list of its members. If any of them took one field for another, or if the two declarations differed
in the order or the types of their fields, then a relayed message would not be the one that was
published.

They agree, and what follows is that the data of the log entry stand in the calldata byte for byte,
behind the selector and one word (`MessageRelay.ContractCall.calldata_eq`). Since neither a log
entry nor calldata leave a choice to whoever writes them, this holds of whatever entry a message was
read from, and of the transaction that delivers it
(`MessageRelay.ContractCall.arguments_as_published`).
-/

namespace MessageRelay

/-- The event of a message and its structure are encoded alike: the members of the one are the
fields of the other, type by type and value by value. -/
theorem XChainMessage.encode_eq_encode (m : Message) :
    Abi.encode fieldTypes (ofMessage m).fields =
      Abi.encode LogMessagePublished.fieldTypes (LogMessagePublished.ofMessage m).fields :=
  (Abi.encode_taken m).trans (Abi.encode_published m).symm

namespace ContractCall

-- the selector is a constant below, and takes long to compute
attribute [local irreducible] selector

variable (c : ContractCall) (m : Message)

/-- **Behind the selector and one word, calldata are the data of the log entry.** -/
theorem calldata_eq : c.calldata m = c.selector ++ Abi.word 32 ++ (Published.encode m).data := by
  have hdynamic : XChainMessage.fieldTypes.any Abi.FieldType.isDynamic = true := by decide
  have hdata : Abi.encode XChainMessage.fieldTypes (XChainMessage.ofMessage m).fields =
      (Published.encode m).data := XChainMessage.encode_eq_encode m
  rw [calldata, Abi.encodeStruct_of_dynamic hdynamic, hdata, List.append_assoc]

/-- **Calldata carry messages as they were published.** Let a payload be shorter than two to the
power of 63 bytes. The calldata of each function with the message are its selector of four bytes,
the word 32, and the data of the log entry that publishes the message. Nothing but these calldata is
read as a call of the function with the message. And if the message was read from a log entry, then
these calldata, and with them the transaction that delivers the message, carry the data of that very
entry, and what the messenger reads of them has the fields of the event. -/
theorem arguments_as_published (m : Message) (hm : m.payload.length < 0x8000000000000000) :
    (∀ c : ContractCall, c.selector.length = 4 ∧
      c.calldata m = c.selector ++ Abi.word 32 ++ (Published.encode m).data ∧
      ∀ bs, c.decode? bs = some (.ofMessage m) ↔ bs = c.calldata m) ∧
    ∀ explain log, Published.decode explain log = .ok m →
      (∀ c : ContractCall, c.calldata m = c.selector ++ Abi.word 32 ++ log.data) ∧
      ∀ client : DestinationClient,
        (client.delivery m).input = relayMessage.selector ++ Abi.word 32 ++ log.data ∧
        ∃ e : LogMessagePublished, Abi.decode? LogMessagePublished.fieldTypes log.data =
            some e.fields ∧ e.toMessage = m ∧
          (relayMessage.decode? (client.delivery m).input).map XChainMessage.fields =
            some e.fields := by
  have hp : m.payload.length < Octets.count 32 := Nat.lt_trans hm (by decide)
  refine ⟨fun c => ⟨c.length_selector, c.calldata_eq m, fun bs => ?calls⟩, ?published⟩
  case calls =>
    rw [decode?_eq_some_iff]
    exact and_iff_right hp
  case published =>
    intro explain log hlog
    obtain ⟨-, -, hdata⟩ := Published.decode_eq_ok_iff.mp hlog
    have hcalldata : ∀ c : ContractCall, c.calldata m = c.selector ++ Abi.word 32 ++ log.data := by
      intro c
      rw [hdata]
      exact c.calldata_eq m
    refine ⟨hcalldata, fun client => ⟨hcalldata relayMessage, .ofMessage m, ?_, rfl, ?_⟩⟩
    · exact LogMessagePublished.decode?_eq_some_iff.mpr ⟨hp, hdata⟩
    · have hread : relayMessage.decode? (client.delivery m).input = some (.ofMessage m) :=
        decode?_calldata relayMessage hp
      rw [hread]
      rfl

/-- The calldata of a sample message are read back. Those of the message whose nonce and topic are
exchanged are not read as it. -/
theorem arguments_as_published_sample :
    let m := Message.sample 2
    let exchanged : Message := { m with nonce := m.topic, topic := m.nonce }
    m.payload.length < 0x8000000000000000 ∧
      relayMessage.calldata m =
        relayMessage.selector ++ Abi.word 32 ++ (Published.encode m).data ∧
      relayMessage.decode? (relayMessage.calldata m) = some (.ofMessage m) ∧
      relayMessage.decode? (relayMessage.calldata exchanged) ≠ some (.ofMessage m) := by
  intro m exchanged
  have hm : m.payload.length < 0x8000000000000000 := by decide
  obtain ⟨hcalls, -⟩ := arguments_as_published m hm
  obtain ⟨-, hdata, hread⟩ := hcalls relayMessage
  refine ⟨hm, hdata, (hread _).mpr rfl, fun h => ?_⟩
  have hother : relayMessage.decode? (relayMessage.calldata exchanged) =
      some (.ofMessage exchanged) := decode?_calldata _ (by decide)
  have hsame := XChainMessage.ofMessage_inj.mp (Option.some.inj (hother.symm.trans h))
  exact absurd hsame (by decide)

end ContractCall

end MessageRelay
