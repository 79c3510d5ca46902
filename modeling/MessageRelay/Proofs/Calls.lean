import MessageRelay.Calls
import MessageRelay.Proofs.Abi.Layout

/-!
# Contract calls carry their messages

The calldata of a contract function with a message are a selector and the encoding of the structure
that the contracts take. The encoding leaves no choice, so the bytes that are read as a call with a
message are its calldata and no others (`MessageRelay.ContractCall.decode?_eq_some_iff`), and what a
call carries is read back from it (`MessageRelay.ContractCall.decode?_calldata`).
-/

namespace MessageRelay

namespace ContractCall

variable (c : ContractCall) {m : Message}

theorem length_selector : c.selector.length = 4 := by
  rw [selector, List.length_take, Octets.length_bytes]
  rfl

-- the selector is a constant below, and takes long to compute
attribute [local irreducible] selector

/-- **A call is read from its calldata and from nothing else**, as far as a word can say how long
the payload is. -/
theorem decode?_eq_some_iff {bs : Bytes} :
    c.decode? bs = some (.ofMessage m) ↔
      m.payload.length < Octets.count 32 ∧ bs = c.calldata m := by
  have hfront : (c.calldata m).take 4 = c.selector := List.take_left' c.length_selector
  have hrest : (c.calldata m).drop 4 =
      Abi.encodeStruct XChainMessage.fieldTypes (XChainMessage.ofMessage m).fields :=
    List.drop_left' c.length_selector
  constructor
  · intro h
    unfold decode? at h
    obtain ⟨_, hselector, h⟩ := Option.bind_eq_some_iff.mp h
    obtain ⟨fields, hread, h⟩ := Option.bind_eq_some_iff.mp h
    have hfields : fields = (XChainMessage.ofMessage m).fields :=
      congrArg XChainMessage.fields (Option.some.inj h)
    rw [hfields, XChainMessage.decodeStruct?_eq_some_iff] at hread
    obtain ⟨hp, hdrop⟩ := hread
    refine ⟨hp, ?_⟩
    rw [← List.take_append_drop 4 bs, Abi.guard_eq_some_iff.mp hselector, hdrop, calldata]
  · rintro ⟨hp, rfl⟩
    unfold decode?
    refine Option.bind_eq_some_iff.mpr ⟨(), Abi.guard_eq_some_iff.mpr hfront, ?_⟩
    refine Option.bind_eq_some_iff.mpr ⟨(XChainMessage.ofMessage m).fields, ?_, rfl⟩
    rw [hrest, XChainMessage.decodeStruct?_eq_some_iff]
    exact ⟨hp, rfl⟩

/-- **The message of a call is read back from its calldata.** -/
theorem decode?_calldata (hp : m.payload.length < Octets.count 32) :
    c.decode? (c.calldata m) = some (.ofMessage m) :=
  c.decode?_eq_some_iff.mpr ⟨hp, rfl⟩

end ContractCall

end MessageRelay
