import MessageRelay.Abi
import MessageRelay.Proofs.Bytes

/-!
# The contract encoding leaves no choice

Whatever the types of some fields are, the bytes that are read as the fields are those that encode
them. One half of that is what strict reading means (`MessageRelay.Abi.eq_encode_of_decode?`). The
other half is that a reader who follows the head of an encoding finds the fields in it
(`MessageRelay.Abi.readFields?_heads`, by induction on the types): as the reader goes along the
head, the tail of what it has not read yet begins where the next offset points to.

What is written into words has to fit into them. There are two kinds of such numbers, the lengths of
byte strings (`MessageRelay.Abi.Short`) and the offsets in the head
(`MessageRelay.Abi.Addressable`). A structure that stands alone has one word in front of it, and
that word is always the same (`MessageRelay.Abi.encodeStruct_of_dynamic`).
-/

namespace MessageRelay

namespace Abi

/-! ### Words -/

@[simp] theorem length_word (v : Nat) : (word v).length = 32 :=
  Bytes.length_ofNat 32 v

@[simp] theorem length_padding (size : Nat) : (padding size).length = (32 - size % 32) % 32 :=
  List.length_replicate

theorem toNat_word {v : Nat} (h : v < Octets.count 32) : Bytes.toNat (word v) = v :=
  Bytes.toNat_ofNat_of_lt h

theorem word_toNat {bs : Bytes} (h : bs.length = 32) : word (Bytes.toNat bs) = bs := by
  have hback := Bytes.ofNat_toNat bs
  rw [h] at hback
  exact hback

-- the bytes of a word do not matter below, and there are many of them to unfold
attribute [local irreducible] word

/-- **Reading a word** takes exactly the word that writes the number. -/
theorem readWord?_eq_some_iff {bs rest : Bytes} {v : Nat} :
    readWord? bs = some (v, rest) ↔ v < Octets.count 32 ∧ bs = word v ++ rest := by
  constructor
  · intro h
    dsimp only [readWord?] at h
    split at h
    next hfront =>
      obtain ⟨rfl, rfl⟩ := Prod.mk.inj (Option.some.inj h)
      have hlt := Bytes.toNat_lt (bs.take 32)
      rw [hfront] at hlt
      refine ⟨hlt, ?_⟩
      rw [word_toNat hfront, List.take_append_drop]
    next => exact nomatch h
  · rintro ⟨hlt, rfl⟩
    have hfront : (word v ++ rest).take 32 = word v := List.take_left' (length_word v)
    have hrest : (word v ++ rest).drop 32 = rest := List.drop_left' (length_word v)
    simp only [readWord?, hfront, hrest, length_word, if_true, toNat_word hlt]

/-- Reading a bounded word refuses the words that are too wide. -/
theorem readBelow?_eq_some_iff {bound : Nat} (hb : bound ≤ Octets.count 32) {bs rest : Bytes}
    {v : Nat} :
    readBelow? bound bs = some (v, rest) ↔ v < bound ∧ bs = word v ++ rest := by
  simp only [readBelow?, Option.bind_eq_some_iff]
  constructor
  · rintro ⟨⟨v', rest'⟩, hread, h⟩
    obtain ⟨-, rfl⟩ := readWord?_eq_some_iff.mp hread
    split at h
    next hlt =>
      obtain ⟨rfl, rfl⟩ := Prod.mk.inj (Option.some.inj h)
      exact ⟨hlt, rfl⟩
    next => exact nomatch h
  · rintro ⟨hlt, rfl⟩
    have hword : v < Octets.count 32 := Nat.lt_of_lt_of_le hlt hb
    exact ⟨(v, rest), readWord?_eq_some_iff.mpr ⟨hword, rfl⟩, if_pos hlt⟩

/-- **Reading bytes** takes their length and the bytes, and leaves what stands behind them. -/
theorem readBytes?_eq_some_iff {bs payload : Bytes} :
    readBytes? bs = some payload ↔ payload.length < Octets.count 32 ∧
      ∃ rest, bs = word payload.length ++ (payload ++ rest) := by
  simp only [readBytes?, Option.bind_eq_some_iff]
  constructor
  · rintro ⟨⟨size, rest⟩, hread, h⟩
    obtain ⟨hlt, rfl⟩ := readWord?_eq_some_iff.mp hread
    split at h
    next hsize =>
      obtain rfl := Option.some.inj h
      have hlength : (rest.take size).length = size := List.length_take_of_le hsize
      rw [hlength]
      exact ⟨hlt, rest.drop size, by rw [List.take_append_drop]⟩
    next => contradiction
  · rintro ⟨hlt, rest, rfl⟩
    refine ⟨_, readWord?_eq_some_iff.mpr ⟨hlt, rfl⟩, ?_⟩
    simp

/-! ### Heads and tails -/

section

variable (offset : Nat) (bytes : Bytes) (ps : List Part)

@[simp] theorem heads_static : heads offset (⟨bytes, false⟩ :: ps) = bytes ++ heads offset ps := rfl

@[simp] theorem heads_dynamic : heads offset (⟨bytes, true⟩ :: ps) =
    word offset ++ heads (offset + bytes.length) ps := rfl

@[simp] theorem tails_static : tails (⟨bytes, false⟩ :: ps) = tails ps := rfl

@[simp] theorem tails_dynamic : tails (⟨bytes, true⟩ :: ps) = bytes ++ tails ps := rfl

@[simp] theorem headSize_static :
    headSize (⟨bytes, false⟩ :: ps) = bytes.length + headSize ps := rfl

@[simp] theorem headSize_dynamic : headSize (⟨bytes, true⟩ :: ps) = 32 + headSize ps := rfl

end

theorem length_heads (offset : Nat) (ps : List Part) : (heads offset ps).length = headSize ps := by
  induction ps generalizing offset with
  | nil => rfl
  | cons p ps ih =>
    obtain ⟨bytes, _ | _⟩ := p
    · rw [heads_static, List.length_append, ih, headSize_static]
    · rw [heads_dynamic, List.length_append, ih, length_word, headSize_dynamic]

/-- The tail begins where the head is over. -/
theorem drop_place (ps : List Part) : (place ps).drop (headSize ps) = tails ps :=
  List.drop_left' (length_heads _ ps)

/-- Every field takes one word of the head. -/
@[simp] theorem headSize_parts {ts : List FieldType} (fields : Fields ts) :
    headSize (parts ts fields) = 32 * ts.length := by
  induction ts with
  | nil => rfl
  | cons t ts ih =>
    obtain ⟨v, fields⟩ := fields
    have hone : Part.headSize ⟨t.encode v, t.isDynamic⟩ = 32 := by
      cases t with
      | address | uint64 | uint32 | uint8 => exact length_word _
      | bytes => rfl
    rw [parts, headSize, hone, ih, List.length_cons]
    omega

/-! ### Numbers that are written down -/

/-- The length of a byte string fits into a word. -/
def FieldType.Short : (t : FieldType) → t.Value → Prop
  | .bytes, (bs : Bytes) => bs.length < Octets.count 32
  | .address, _ | .uint64, _ | .uint32, _ | .uint8, _ => True

/-- The lengths of all byte strings fit into words. -/
def Short : (ts : List FieldType) → Fields ts → Prop
  | [], _ => True
  | t :: ts, (v, fields) => t.Short v ∧ Short ts fields

/-- Where a field stands behind those that begin at an offset of the tail. -/
def FieldType.behind (offset : Nat) (t : FieldType) (v : t.Value) : Nat :=
  if t.isDynamic then offset + (t.encode v).length else offset

/-- The offsets of all fields that stand in the tail fit into words. -/
def Addressable : (offset : Nat) → (ts : List FieldType) → Fields ts → Prop
  | _, [], _ => True
  | offset, t :: ts, (v, fields) =>
    (t.isDynamic = true → offset < Octets.count 32) ∧ Addressable (t.behind offset v) ts fields

section

variable {ts : List FieldType} {offset : Nat}

theorem addressable_of_static (hts : ts.countP FieldType.isDynamic = 0) (fields : Fields ts) :
    Addressable offset ts fields := by
  induction ts generalizing offset with
  | nil => trivial
  | cons t ts ih =>
    obtain ⟨hrest, ht⟩ := (List.countP_eq_zero.mp hts |> List.forall_mem_cons.mp).symm
    exact ⟨fun hdynamic => absurd hdynamic ht, ih (List.countP_eq_zero.mpr hrest) fields.2⟩

/-- If no more than one field stands in the tail, there is one offset, and that is where the tail
begins. -/
theorem addressable_of_one (hts : ts.countP FieldType.isDynamic ≤ 1)
    (hoffset : offset < Octets.count 32) (fields : Fields ts) : Addressable offset ts fields := by
  induction ts with
  | nil => trivial
  | cons t ts ih =>
    refine ⟨fun _ => hoffset, ?_⟩
    cases ht : t.isDynamic with
    | false =>
      rw [List.countP_cons_of_neg (by simp [ht])] at hts
      rw [FieldType.behind, ht]
      exact ih hts fields.2
    | true =>
      rw [List.countP_cons_of_pos ht] at hts
      exact addressable_of_static (by omega) fields.2

end

/-! ### Reading back -/

variable {ts : List FieldType} {fields : Fields ts} {whole bs : Bytes}

/-- **One field is read back**, and what is left is the head of the fields behind it. -/
theorem FieldType.read?_heads {t : FieldType} {v : t.Value} {offset : Nat} {ps : List Part}
    {more : Bytes} (hshort : t.Short v) (hoffset : t.isDynamic = true → offset < Octets.count 32)
    (htail : whole.drop offset = tails (⟨t.encode v, t.isDynamic⟩ :: ps)) :
    t.read? whole (heads offset (⟨t.encode v, t.isDynamic⟩ :: ps) ++ more) =
      some (v, heads (t.behind offset v) ps ++ more) := by
  have hnumber : ∀ {bound n : Nat}, bound ≤ Octets.count 32 → n < bound →
      readBelow? bound (word n ++ heads offset ps ++ more) = some (n, heads offset ps ++ more) := by
    intro bound n hb hn
    exact (readBelow?_eq_some_iff hb).mpr ⟨hn, List.append_assoc _ _ _⟩
  cases t with
  | address =>
    have hread := hnumber (by decide) (Octets.toNat_lt v)
    simp only [FieldType.read?, FieldType.encode, FieldType.isDynamic, heads_static, hread]
    exact congrArg some (Prod.ext (Octets.ofNat_toNat v) rfl)
  | uint64 =>
    have hread := hnumber (by decide) (UInt64.toNat_lt v)
    simp only [FieldType.read?, FieldType.encode, FieldType.isDynamic, heads_static, hread]
    exact congrArg some (Prod.ext UInt64.ofNat_toNat rfl)
  | uint32 =>
    have hread := hnumber (by decide) (UInt32.toNat_lt v)
    simp only [FieldType.read?, FieldType.encode, FieldType.isDynamic, heads_static, hread]
    exact congrArg some (Prod.ext UInt32.ofNat_toNat rfl)
  | uint8 =>
    have hread := hnumber (by decide) (UInt8.toNat_lt v)
    simp only [FieldType.read?, FieldType.encode, FieldType.isDynamic, heads_static, hread]
    exact congrArg some (Prod.ext UInt8.ofNat_toNat rfl)
  | bytes =>
    have hword : readWord? (word offset ++ heads (offset + (FieldType.encode .bytes v).length) ps
          ++ more) =
        some (offset, heads (offset + (FieldType.encode .bytes v).length) ps ++ more) :=
      readWord?_eq_some_iff.mpr ⟨hoffset rfl, List.append_assoc _ _ _⟩
    have hbytes : readBytes? (whole.drop offset) = some v := by
      refine readBytes?_eq_some_iff.mpr ⟨hshort, padding (List.length v) ++ tails ps, ?_⟩
      rw [htail]
      exact List.append_assoc (word (List.length v)) _ _ |>.trans
        (congrArg (word (List.length v) ++ ·) (List.append_assoc v _ _))
    simp only [FieldType.read?, FieldType.isDynamic, heads_dynamic, hword]
    exact congrArg (Option.bind · _) hbytes

/-- Behind a field stands the tail of the fields behind it. -/
theorem FieldType.drop_behind {t : FieldType} {v : t.Value} {offset : Nat} {ps : List Part}
    (htail : whole.drop offset = tails (⟨t.encode v, t.isDynamic⟩ :: ps)) :
    whole.drop (t.behind offset v) = tails ps := by
  rw [FieldType.behind]
  cases hd : t.isDynamic with
  | false =>
    rw [hd] at htail
    exact htail
  | true =>
    rw [hd, tails_dynamic] at htail
    rw [if_pos rfl, ← List.drop_drop, htail, List.drop_left' rfl]

/-- **The fields are read back** along their head, if their tail begins where the next offset points
to. -/
theorem readFields?_heads {offset : Nat} (hshort : Short ts fields)
    (hoffsets : Addressable offset ts fields) (htail : whole.drop offset = tails (parts ts fields))
    (more : Bytes) :
    readFields? whole ts (heads offset (parts ts fields) ++ more) = some fields := by
  induction ts generalizing offset with
  | nil => rfl
  | cons t ts ih =>
    obtain ⟨v, fields⟩ := fields
    rw [parts] at htail ⊢
    simp only [readFields?, FieldType.read?_heads hshort.1 hoffsets.1 htail]
    exact congrArg (Option.bind · _)
      (ih hshort.2 hoffsets.2 (FieldType.drop_behind htail))

/-- The fields are read back from their encoding. -/
theorem readFields?_encode (hshort : Short ts fields)
    (hoffsets : Addressable (32 * ts.length) ts fields) :
    readFields? (encode ts fields) ts (encode ts fields) = some fields := by
  rw [← headSize_parts fields] at hoffsets
  exact readFields?_heads hshort hoffsets (drop_place _) (tails (parts ts fields))

/-- The byte strings that are read are no longer than a word can say. -/
theorem short_of_readFields? {head : Bytes} (h : readFields? whole ts head = some fields) :
    Short ts fields := by
  induction ts generalizing head with
  | nil => trivial
  | cons t ts ih =>
    obtain ⟨⟨v, rest⟩, hread, h⟩ := Option.bind_eq_some_iff.mp h
    obtain ⟨fields, hfields, hsome⟩ := Option.bind_eq_some_iff.mp h
    obtain rfl := Option.some.inj hsome
    refine ⟨?_, ih hfields⟩
    cases t with
    | address | uint64 | uint32 | uint8 => trivial
    | bytes =>
      obtain ⟨_, -, h⟩ := Option.bind_eq_some_iff.mp hread
      obtain ⟨_, hbytes, hsome⟩ := Option.bind_eq_some_iff.mp h
      obtain ⟨rfl, -⟩ := Prod.mk.inj (Option.some.inj hsome)
      exact (readBytes?_eq_some_iff.mp hbytes).1

/-! ### Lists of fields -/

theorem guard_eq_some_iff {p : Prop} [Decidable p] : (guard p : Option Unit) = some () ↔ p := by
  by_cases hp : p <;> simp [guard, hp]

/-- **What is read is what encodes the fields.** -/
theorem eq_encode_of_decode? (h : decode? ts bs = some fields) :
    Short ts fields ∧ bs = encode ts fields := by
  obtain ⟨fields', hread, h⟩ := Option.bind_eq_some_iff.mp h
  obtain ⟨_, hguard, hsome⟩ := Option.bind_eq_some_iff.mp h
  obtain rfl := Option.some.inj hsome
  exact ⟨short_of_readFields? hread, (guard_eq_some_iff.mp hguard).symm⟩

/-- **What encodes the fields is read.** -/
theorem decode?_encode (hshort : Short ts fields)
    (hoffsets : Addressable (32 * ts.length) ts fields) :
    decode? ts (encode ts fields) = some fields := by
  exact Option.bind_eq_some_iff.mpr
    ⟨fields, readFields?_encode hshort hoffsets,
      Option.bind_eq_some_iff.mpr ⟨(), guard_eq_some_iff.mpr rfl, rfl⟩⟩

/-- **The bytes that are read as some fields are those that encode them**, if all lengths and
offsets can be written down. -/
theorem decode?_eq_some_iff
    (hoffsets : Addressable (32 * ts.length) ts fields) :
    decode? ts bs = some fields ↔ Short ts fields ∧ bs = encode ts fields := by
  constructor
  · intro h
    exact eq_encode_of_decode? h
  · rintro ⟨hshort, rfl⟩
    exact decode?_encode hshort hoffsets

/-! ### Structures -/

/-- **A structure of which a member stands in the tail** stands right behind the one word of the
head. -/
theorem encodeStruct_of_dynamic (hts : ts.any FieldType.isDynamic = true) :
    encodeStruct ts fields = word 32 ++ encode ts fields := by
  rw [encodeStruct, structPart, hts, place, heads_dynamic, headSize_dynamic, tails_dynamic]
  simp [heads, headSize, tails]

/-- What is read as a structure is what encodes it. -/
theorem eq_encodeStruct_of_decodeStruct? (h : decodeStruct? ts bs = some fields) :
    Short ts fields ∧ bs = encodeStruct ts fields := by
  obtain ⟨offset, -, h⟩ := Option.bind_eq_some_iff.mp h
  obtain ⟨fields', hread, h⟩ := Option.bind_eq_some_iff.mp h
  obtain ⟨_, hguard, hsome⟩ := Option.bind_eq_some_iff.mp h
  obtain rfl := Option.some.inj hsome
  exact ⟨short_of_readFields? hread, (guard_eq_some_iff.mp hguard).symm⟩

/-- What encodes a structure is read as it. -/
theorem decodeStruct?_encodeStruct (hts : ts.any FieldType.isDynamic = true)
    (hshort : Short ts fields) (hoffsets : Addressable (32 * ts.length) ts fields) :
    decodeStruct? ts (encodeStruct ts fields) = some fields := by
  have hword : readWord? (encodeStruct ts fields) = some (32, encode ts fields) := by
    rw [encodeStruct_of_dynamic hts]
    exact readWord?_eq_some_iff.mpr ⟨by decide, rfl⟩
  have hbody : (encodeStruct ts fields).drop 32 = encode ts fields := by
    rw [encodeStruct_of_dynamic hts, List.drop_left' (length_word 32)]
  refine Option.bind_eq_some_iff.mpr ⟨32, ?_, Option.bind_eq_some_iff.mpr ⟨fields, ?_,
    Option.bind_eq_some_iff.mpr ⟨(), guard_eq_some_iff.mpr rfl, rfl⟩⟩⟩
  · rw [structOffset?, if_pos hts, hword]
    rfl
  · rw [hbody]
    exact readFields?_encode hshort hoffsets

/-- The bytes that are read as a structure are those that encode it. -/
theorem decodeStruct?_eq_some_iff (hts : ts.any FieldType.isDynamic = true)
    (hoffsets : Addressable (32 * ts.length) ts fields) :
    decodeStruct? ts bs = some fields ↔ Short ts fields ∧ bs = encodeStruct ts fields := by
  constructor
  · intro h
    exact eq_encodeStruct_of_decodeStruct? h
  · rintro ⟨hshort, rfl⟩
    exact decodeStruct?_encodeStruct hts hshort hoffsets

end Abi

end MessageRelay
