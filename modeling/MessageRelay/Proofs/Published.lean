import MessageRelay.Published
import MessageRelay.Proofs.Abi.Layout
import MessageRelay.Scripted.Sample

/-!
# Reading published messages back

A log entry is read as a message exactly if its only topic is that of the event and its data are the
encoding of the message (`MessageRelay.Published.decode_exact`). So whatever a message bus publishes
is read back, and whatever is read has been written in the one way there is to write it.
-/

namespace MessageRelay

namespace Published

-- the digest of the event's signature is a constant below, and takes long to compute
attribute [local irreducible] eventTopic

variable {explain : Bytes → String} {log : Log} {m : Message}

theorem data_encode (m : Message) : (encode m).data = Abi.encodeMessage m :=
  Abi.encode_published m

theorem topics_encode (m : Message) : (encode m).topics = [eventTopic] := rfl

/-- The fields of a message are read from the data of its entry alone. -/
theorem decode?_fields_iff :
    Abi.decode? LogMessagePublished.fieldTypes log.data =
        some (LogMessagePublished.ofMessage m).fields ↔
      m.payload.length < Octets.count 32 ∧ log.data = (encode m).data :=
  LogMessagePublished.decode?_eq_some_iff

/-- **A log entry is read as a message** if its only topic is that of the event and its data are
those of the message's entry, as far as a word can say how long the payload is. -/
theorem decode_eq_ok_iff :
    decode explain log = .ok m ↔
      log.topics = [eventTopic] ∧ m.payload.length < Octets.count 32 ∧
        log.data = (encode m).data := by
  have hread : ∀ fields, Abi.decode? LogMessagePublished.fieldTypes log.data = some fields →
      ((LogMessagePublished.ofFields fields).toMessage = m ↔
        m.payload.length < Octets.count 32 ∧ log.data = (encode m).data) := by
    intro fields hfields
    constructor
    · rintro rfl
      exact LogMessagePublished.decode?_eq_some_iff.mp hfields
    · intro h
      rw [Option.some.inj (hfields.symm.trans (decode?_fields_iff.mpr h))]
      rfl
  unfold decode
  cases htopics : log.topics with
  | nil => simp
  | cons first others =>
    by_cases hfirst : first = eventTopic
    · cases others with
      | nil =>
        cases hfields : Abi.decode? LogMessagePublished.fieldTypes log.data with
        | none =>
          have hnot : ¬ (m.payload.length < Octets.count 32 ∧ log.data = (encode m).data) := by
            intro h
            have hm := decode?_fields_iff.mpr h
            rw [hfields] at hm
            contradiction
          simp [hfirst, topicCount, hnot]
        | some fields => simp [hfirst, topicCount, hread fields hfields]
      | cons second others => simp [hfirst, topicCount]
    · simp [hfirst]

/-- An entry of the event whose data cannot be read is malformed, for the reason that the codec
gives. -/
theorem decode_of_malformed (htopics : log.topics = [eventTopic])
    (hdata : Abi.decode? LogMessagePublished.fieldTypes log.data = none) :
    decode explain log = .error (.malformedData (explain log.data)) := by
  simp [decode, htopics, hdata, topicCount]

/-- The data of a log entry that is read have the layout of its message. -/
theorem layout_of_decode (h : decode explain log = .ok m) : Abi.Layout m log.data := by
  obtain ⟨-, hp, hdata⟩ := decode_eq_ok_iff.mp h
  rw [hdata, data_encode]
  exact Abi.layout_encodeMessage hp

/-- What a message bus publishes is read back. -/
theorem decode_encode (hp : m.payload.length < Octets.count 32) :
    decode explain (encode m) = .ok m :=
  decode_eq_ok_iff.mpr ⟨topics_encode m, hp, rfl⟩

/-- **The event codec is exact.** Let a payload be shorter than two to the power of 63 bytes. A log
entry is read as the message exactly if its only topic is that of the event and its data are those
of the message's entry, so the entry of a message is read as that message. These data are the ones
that have the message's layout: each number in a word of its own and no larger than its field, the
payload behind the head, zeros behind the payload, and nothing else. If something is cut off them or
added to them, they are read as no message at all. -/
theorem decode_exact (explain : Bytes → String) (log : Log) (m : Message)
    (hm : m.payload.length < 0x8000000000000000) :
    (decode explain log = .ok m ↔ log.topics = [eventTopic] ∧ log.data = (encode m).data) ∧
      decode explain (encode m) = .ok m ∧
      (log.data = (encode m).data ↔ Abi.Layout m log.data) ∧
      ∀ log' m', decode explain log' = .ok m' →
        log'.data <+: (encode m).data ∨ (encode m).data <+: log'.data →
        log'.data = (encode m).data := by
  have hp : m.payload.length < Octets.count 32 := Nat.lt_trans hm (by decide)
  have hlayout : Abi.Layout m (encode m).data := by
    rw [data_encode]
    exact Abi.layout_encodeMessage hp
  have hexact : ∀ log, decode explain log = .ok m ↔
      log.topics = [eventTopic] ∧ log.data = (encode m).data := by
    intro log
    rw [decode_eq_ok_iff]
    exact and_congr_right fun _ => and_iff_right hp
  refine ⟨hexact log, (hexact (encode m)).mpr ⟨topics_encode m, rfl⟩, ?_, ?_⟩
  · constructor
    · intro hdata
      rw [hdata]
      exact hlayout
    · intro h
      rw [data_encode]
      exact h.eq_encodeMessage
  · intro log' m' h hprefix
    have hlayout' := layout_of_decode h
    rcases hprefix with hcut | hadded
    · exact hlayout'.eq_of_isPrefix hlayout hcut
    · exact (hlayout.eq_of_isPrefix hlayout' hadded).symm

/-- A sample message is read back from its log entry, but not with a word of zeros added to it. -/
theorem decode_exact_sample :
    (Message.sample 1).payload.length < 0x8000000000000000 ∧
      decode (fun _ => "") (encode (Message.sample 1)) = .ok (Message.sample 1) ∧
      ∀ m, decode (fun _ => "") { encode (Message.sample 1) with
        data := (encode (Message.sample 1)).data ++ List.replicate 32 0 } ≠ .ok m := by
  have hm : (Message.sample 1).payload.length < 0x8000000000000000 := by decide
  obtain ⟨-, hback, -, hnone⟩ :=
    decode_exact (fun _ => "") (encode (Message.sample 1)) (Message.sample 1) hm
  refine ⟨hm, hback, fun m h => ?_⟩
  have hsame := hnone _ m h (.inr (List.prefix_append _ _))
  have hempty : List.replicate 32 (0 : UInt8) = [] := List.append_right_eq_self.mp hsame
  exact nomatch hempty

end Published

end MessageRelay
