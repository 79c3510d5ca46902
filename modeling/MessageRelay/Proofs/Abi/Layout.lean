import MessageRelay.Contracts
import MessageRelay.Proofs.Abi

/-!
# The layout of messages

The event that publishes a message and the structure that the contracts take declare six fields
each, of which the payload alone stands in the tail. So their lengths and offsets can be written
down as soon as a word can say how long the payload is, and what is read as the event
(`MessageRelay.LogMessagePublished.decode?_eq_some_iff`) or as the structure
(`MessageRelay.XChainMessage.decodeStruct?_eq_some_iff`) is what encodes it.

Byte by byte, the fields of the event are six words for the head, in which the payload has its place
behind the head, one word that says how long the payload is, and the payload, filled up with zeros
(`MessageRelay.Abi.Layout`).
-/

namespace MessageRelay

/-! ### The event and the structure -/

theorem LogMessagePublished.short_iff {fields : Abi.Fields fieldTypes} :
    Abi.Short fieldTypes fields ↔ (ofFields fields).payload.length < Octets.count 32 := by
  obtain ⟨_, _, _, _, _, _, ⟨⟩⟩ := fields
  simp [Abi.Short, Abi.FieldType.Short, fieldTypes, ofFields]

theorem XChainMessage.short_iff {fields : Abi.Fields fieldTypes} :
    Abi.Short fieldTypes fields ↔ (ofFields fields).payload.length < Octets.count 32 := by
  obtain ⟨_, _, _, _, _, _, ⟨⟩⟩ := fields
  simp [Abi.Short, Abi.FieldType.Short, fieldTypes, ofFields]

/-- **The bytes that are read as an event are those that encode it**, as far as a word can say how
long the payload is. -/
theorem LogMessagePublished.decode?_eq_some_iff {bs : Bytes} {fields : Abi.Fields fieldTypes} :
    Abi.decode? fieldTypes bs = some fields ↔
      (ofFields fields).payload.length < Octets.count 32 ∧ bs = Abi.encode fieldTypes fields := by
  have hoffsets : Abi.Addressable (32 * fieldTypes.length) fieldTypes fields :=
    Abi.addressable_of_one (by decide) (by decide) fields
  rw [Abi.decode?_eq_some_iff hoffsets, short_iff]

/-- The bytes that are read as the structure are those that encode it. -/
theorem XChainMessage.decodeStruct?_eq_some_iff {bs : Bytes} {fields : Abi.Fields fieldTypes} :
    Abi.decodeStruct? fieldTypes bs = some fields ↔
      (ofFields fields).payload.length < Octets.count 32 ∧
        bs = Abi.encodeStruct fieldTypes fields := by
  have hoffsets : Abi.Addressable (32 * fieldTypes.length) fieldTypes fields :=
    Abi.addressable_of_one (by decide) (by decide) fields
  rw [Abi.decodeStruct?_eq_some_iff (by decide) hoffsets, short_iff]

namespace Abi

/-! ### Word by word -/

-- the bytes of a word do not matter below, and there are many of them to unfold
attribute [local irreducible] word

/-- How far behind the beginning of the encoding the payload stands: behind six words. -/
def payloadOffset : Nat := 192

/-- The encoding of a message, word by word. -/
def encodeMessage (m : Message) : Bytes :=
  word m.sender.toNat ++ word m.sequence.toNat ++ word m.nonce.toNat ++ word m.topic.toNat
    ++ word payloadOffset ++ word m.consistencyLevel.toNat ++ word m.payload.length
    ++ (m.payload ++ padding m.payload.length)

/-- The fields of the event are encoded in this way. -/
theorem encode_published (m : Message) :
    encode LogMessagePublished.fieldTypes (LogMessagePublished.ofMessage m).fields =
      encodeMessage m := by
  simp [encode, parts, place, heads, tails, headSize, Part.headSize, FieldType.encode,
    FieldType.isDynamic, LogMessagePublished.fieldTypes, LogMessagePublished.fields,
    LogMessagePublished.ofMessage, encodeMessage, payloadOffset]

/-- So are the members of the structure. -/
theorem encode_taken (m : Message) :
    encode XChainMessage.fieldTypes (XChainMessage.ofMessage m).fields = encodeMessage m := by
  simp [encode, parts, place, heads, tails, headSize, Part.headSize, FieldType.encode,
    FieldType.isDynamic, XChainMessage.fieldTypes, XChainMessage.fields,
    XChainMessage.ofMessage, encodeMessage, payloadOffset]

/-- The number that stands in the `i`-th word. -/
def wordAt (data : Bytes) (i : Nat) : Nat :=
  Bytes.toNat ((data.drop (32 * i)).take 32)

/-- **What encodes a message**, byte by byte: six words for the head, in which the payload has its
place behind the head, a word that says how long the payload is, the payload, and zeros up to a
whole number of words. -/
structure Layout (m : Message) (data : Bytes) : Prop where
  length : data.length = 32 * (7 + (m.payload.length + 31) / 32)
  sender : wordAt data 0 = m.sender.toNat
  sequence : wordAt data 1 = m.sequence.toNat
  nonce : wordAt data 2 = m.nonce.toNat
  topic : wordAt data 3 = m.topic.toNat
  offset : wordAt data 4 = 192
  level : wordAt data 5 = m.consistencyLevel.toNat
  size : wordAt data 6 = m.payload.length
  payload : (data.drop 224).take m.payload.length = m.payload
  zeros : ∀ b ∈ data.drop (224 + m.payload.length), b = 0

theorem wordAt_zero {v : Nat} (h : v < Octets.count 32) (rest : Bytes) :
    wordAt (word v ++ rest) 0 = v := by
  rw [wordAt, Nat.mul_zero, List.drop_zero, List.take_left' (length_word v), toNat_word h]

theorem wordAt_succ (v : Nat) (rest : Bytes) (i : Nat) :
    wordAt (word v ++ rest) (i + 1) = wordAt rest i := by
  have hindex : 32 * (i + 1) = 32 + 32 * i := by omega
  rw [wordAt, wordAt, hindex, ← List.drop_drop, List.drop_left' (length_word v)]

/-- From a word on, the data are that word and what stands behind it. -/
theorem drop_eq_word_append {data : Bytes} {i : Nat} (h : 32 * (i + 1) ≤ data.length) :
    data.drop (32 * i) = word (wordAt data i) ++ data.drop (32 * (i + 1)) := by
  have hlength : ((data.drop (32 * i)).take 32).length = 32 := by
    rw [List.length_take, List.length_drop]
    omega
  have hrest : data.drop (32 * (i + 1)) = (data.drop (32 * i)).drop 32 := by
    rw [List.drop_drop, Nat.mul_add]
  rw [wordAt, word_toNat hlength, hrest, List.take_append_drop]

/-- **The layout of the encoding.** -/
theorem layout_encodeMessage {m : Message} (hp : m.payload.length < Octets.count 32) :
    Layout m (encodeMessage m) := by
  have hsender : m.sender.toNat < Octets.count 32 := Nat.lt_trans m.sender.toNat_lt (by decide)
  have hsequence : m.sequence.toNat < Octets.count 32 :=
    Nat.lt_trans m.sequence.toNat_lt (by decide)
  have hnonce : m.nonce.toNat < Octets.count 32 := Nat.lt_trans m.nonce.toNat_lt (by decide)
  have htopic : m.topic.toNat < Octets.count 32 := Nat.lt_trans m.topic.toNat_lt (by decide)
  have hoffset : payloadOffset < Octets.count 32 := by decide
  have hlevel : m.consistencyLevel.toNat < Octets.count 32 :=
    Nat.lt_trans m.consistencyLevel.toNat_lt (by decide)
  -- the head and the length are seven words
  have hhead : (encodeMessage m).drop 224 = m.payload ++ padding m.payload.length := by
    rw [encodeMessage]
    refine List.drop_left' ?_
    simp only [List.length_append, length_word]
  simp only [encodeMessage, List.append_assoc] at hhead ⊢
  constructor
  case length =>
    simp only [List.length_append, length_word, length_padding]
    omega
  case payload => rw [hhead, List.take_left' rfl]
  case zeros =>
    intro b hb
    rw [← List.drop_drop, hhead, List.drop_left' rfl] at hb
    exact List.eq_of_mem_replicate hb
  all_goals
    simp only [wordAt_succ, wordAt_zero, hsender, hsequence, hnonce, htopic, hoffset, hlevel, hp]
  rfl

/-- **The layout leaves no choice**: it is that of the encoding only. -/
theorem Layout.eq_encodeMessage {m : Message} {data : Bytes} (h : Layout m data) :
    data = encodeMessage m := by
  have hlength := h.length
  have hword : ∀ i < 7, data.drop (32 * i) = word (wordAt data i) ++ data.drop (32 * (i + 1)) :=
    fun i hi => drop_eq_word_append (by omega)
  have hrest : (data.drop 224).drop m.payload.length = padding m.payload.length := by
    rw [List.drop_drop]
    refine List.eq_replicate_iff.mpr ⟨?_, h.zeros⟩
    rw [List.length_drop]
    omega
  have htail : data.drop 224 = m.payload ++ padding m.payload.length := by
    rw [← hrest]
    conv_lhs => rw [← List.take_append_drop m.payload.length (data.drop 224), h.payload]
  calc
    data = data.drop (32 * 0) := rfl
    _ = word (wordAt data 0) ++ (word (wordAt data 1) ++ (word (wordAt data 2) ++
          (word (wordAt data 3) ++ (word (wordAt data 4) ++ (word (wordAt data 5) ++
            (word (wordAt data 6) ++ data.drop (32 * 7))))))) := by
      rw [hword 0 (by decide), hword 1 (by decide), hword 2 (by decide), hword 3 (by decide),
        hword 4 (by decide), hword 5 (by decide), hword 6 (by decide)]
    _ = encodeMessage m := by
      rw [h.sender, h.sequence, h.nonce, h.topic, h.offset, h.level, h.size]
      simp only [encodeMessage, List.append_assoc, payloadOffset, htail]

theorem wordAt_append {data : Bytes} {i : Nat} (h : 32 * (i + 1) ≤ data.length) (more : Bytes) :
    wordAt (data ++ more) i = wordAt data i := by
  have hskip : 32 * i ≤ data.length := by omega
  have htake : 32 ≤ (data.drop (32 * i)).length := by
    rw [List.length_drop]
    omega
  rw [wordAt, wordAt, List.drop_append_of_le_length hskip, List.take_append_of_le_length htake]

/-- **No encoding begins another one**: how long the data are stands in their seventh word. -/
theorem Layout.eq_of_isPrefix {m m' : Message} {data data' : Bytes} (h : Layout m data)
    (h' : Layout m' data') (hp : data <+: data') : data = data' := by
  have hlength := h.length
  have hlength' := h'.length
  obtain ⟨more, rfl⟩ := hp
  have hsize : m'.payload.length = m.payload.length := by
    rw [← h.size, ← h'.size]
    exact wordAt_append (by omega) more
  have hsame : (data ++ more).length = data.length := by rw [hlength, hlength', hsize]
  have hnone : more = [] := List.eq_nil_of_length_eq_zero (by
    rw [List.length_append] at hsame
    omega)
  rw [hnone, List.append_nil]

end Abi

end MessageRelay
