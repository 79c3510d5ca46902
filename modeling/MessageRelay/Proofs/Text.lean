import Mathlib.Data.List.Basic
import MessageRelay.Bytes
import MessageRelay.Text.Blank
import MessageRelay.Text.Lowercase

/-!
# Texts with white space around them, and texts of ASCII characters

Trimming takes away what stands around a text that has no white space of its own
(`MessageRelay.Text.Padded.trim`). Among the ASCII characters lower-casing goes letter by letter
(`MessageRelay.Text.lowercase_of_ascii`), and each character is one byte
(`MessageRelay.Bytes.ofText_of_ascii`), so that such texts can be read without regard to how texts
are encoded.
-/

namespace MessageRelay

/-- The lower-case form of an ASCII letter lies thirty-two places behind it. Nothing else has
one. -/
theorem toNat_toLower (c : Char) :
    c.toLower.toNat = if 65 ≤ c.toNat ∧ c.toNat ≤ 90 then c.toNat + 32 else c.toNat := by
  have hguard : (c.val ≥ 'A'.val ∧ c.val ≤ 'Z'.val) ↔ 65 ≤ c.toNat ∧ c.toNat ≤ 90 := Iff.rfl
  unfold Char.toLower
  by_cases h : 65 ≤ c.toNat ∧ c.toNat ≤ 90
  · rw [dif_pos (hguard.mpr h), if_pos h]
    have hle : c.val.toNat ≤ 90 := h.2
    show (c.val + ('a'.val - 'A'.val)).toNat = c.val.toNat + 32
    rw [UInt32.toNat_add]
    show (c.val.toNat + 32) % 4294967296 = c.val.toNat + 32
    omega
  · rw [dif_neg (fun h' => h (hguard.mp h')), if_neg h]

/-! ### White space -/

namespace Text

/-- A text that is not empty and has no white space in it. -/
structure Solid (core : String) : Prop where
  nonempty : core ≠ ""
  unbroken : ∀ c ∈ core.toList, isBlank c = false

/-- The text `text` is `core` with white space around it, or none. -/
def Padded (core text : String) : Prop :=
  ∃ before after, text.toList = before ++ core.toList ++ after ∧
    (∀ c ∈ before, isBlank c = true) ∧ ∀ c ∈ after, isBlank c = true

variable {core text : String}

theorem Padded.refl (core : String) : Padded core core :=
  ⟨[], [], (List.append_nil _).symm, nofun, nofun⟩

theorem Padded.of_all (before after : List Char)
    (htext : text.toList = before ++ core.toList ++ after) (hbefore : before.all isBlank = true)
    (hafter : after.all isBlank = true) : Padded core text :=
  ⟨before, after, htext, List.all_eq_true.mp hbefore, List.all_eq_true.mp hafter⟩

theorem Solid.toList_ne_nil (h : Solid core) : core.toList ≠ [] :=
  fun hnil => h.nonempty (String.toList_eq_nil_iff.mp hnil)

/-- White space in front goes as far as the first character that is none. -/
theorem dropWhile_isBlank {before cs : List Char} (hbefore : ∀ c ∈ before, isBlank c = true)
    (hcs : ∀ c ∈ cs.head?, isBlank c = false) :
    (before ++ cs).dropWhile isBlank = cs := by
  rw [List.dropWhile_append_of_pos hbefore]
  cases cs with
  | nil => rfl
  | cons c cs => exact List.dropWhile_cons_of_neg (Bool.eq_false_iff.mp (hcs c rfl))

/-- **Trimming takes away the white space around a text**, and nothing else. -/
theorem Padded.trim (h : Padded core text) (hcore : Solid core) : Text.trim text = core := by
  obtain ⟨before, after, htext, hbefore, hafter⟩ := h
  have hfront : text.toList.dropWhile isBlank = core.toList ++ after := by
    rw [htext, List.append_assoc]
    refine dropWhile_isBlank hbefore fun c hc => hcore.unbroken c ?_
    rw [List.head?_append_of_ne_nil _ hcore.toList_ne_nil] at hc
    exact List.mem_of_mem_head? hc
  have hback : (core.toList ++ after).reverse.dropWhile isBlank = core.toList.reverse := by
    rw [List.reverse_append]
    refine dropWhile_isBlank (fun c hc => hafter c (List.mem_reverse.mp hc)) fun c hc => ?_
    exact hcore.unbroken c (List.mem_reverse.mp (List.mem_of_mem_head? hc))
  rw [Text.trim, trimChars, hfront, hback, List.reverse_reverse, String.ofList_toList]

/-- Such a text is not blank. -/
theorem Padded.isAllBlank (h : Padded core text) (hcore : Solid core) :
    Text.isAllBlank text = false := by
  obtain ⟨before, after, htext, -, -⟩ := h
  obtain ⟨c, hc⟩ := List.exists_mem_of_ne_nil _ hcore.toList_ne_nil
  refine List.all_eq_false.mpr ⟨c, ?_, Bool.eq_false_iff.mp (hcore.unbroken c hc)⟩
  rw [htext]
  exact List.mem_append_left _ (List.mem_append_right _ hc)

/-! ### ASCII characters -/

/-- An ASCII character behind the space. -/
def IsGraphic (c : Char) : Prop :=
  0x21 ≤ c.toNat ∧ c.toNat < 0x80

theorem IsGraphic.isBlank {c : Char} (h : IsGraphic c) : Text.isBlank c = false := by
  obtain ⟨hge, hlt⟩ := h
  simp [Text.isBlank]
  omega

/-- The letter case does not matter. -/
theorem isGraphic_toLower_iff {c : Char} : IsGraphic c.toLower ↔ IsGraphic c := by
  rw [IsGraphic, IsGraphic, toNat_toLower]
  split <;> omega

theorem solid_of_graphic (hne : core ≠ "") (h : ∀ c ∈ core.toList, IsGraphic c) : Solid core :=
  ⟨hne, fun c hc => (h c hc).isBlank⟩

/-- A text of ASCII characters. -/
def IsAscii (cs : List Char) : Prop :=
  ∀ c ∈ cs, c.toNat < 0x80

theorem lowercaseAt_of_ascii {c : Char} (h : c.toNat < 0x80) (before after : List Char) :
    lowercaseAt before c after = [c.toLower] := by
  have hsigma : c ≠ 'Σ' := by
    rintro rfl
    exact absurd h (by decide)
  have hdotted : c ≠ 'İ' := by
    rintro rfl
    exact absurd h (by decide)
  rw [lowercaseAt, if_neg hsigma, if_neg hdotted, simpleLowercase, if_pos h]

/-- **Lower-casing ASCII characters** goes letter by letter. -/
theorem lowercase_of_ascii (h : IsAscii text.toList) :
    lowercase text = String.ofList (text.toList.map Char.toLower) := by
  have hfrom : ∀ cs, IsAscii cs → ∀ before, lowercaseFrom before cs = cs.map Char.toLower := by
    intro cs hcs
    induction cs with
    | nil => exact fun _ => rfl
    | cons c cs ih =>
      obtain ⟨hc, hrest⟩ := List.forall_mem_cons.mp hcs
      intro before
      rw [lowercaseFrom, lowercaseAt_of_ascii hc, ih hrest]
      rfl
  rw [lowercase, lowercaseChars, hfrom _ h]

end Text

/-- **A text of ASCII characters has one byte for each of them.** -/
theorem Bytes.ofText_of_ascii {s : String} (h : Text.IsAscii s.toList) :
    ofText s = s.toList.map fun c => UInt8.ofNat c.toNat := by
  have hbytes : ofText s = s.toList.flatMap String.utf8EncodeChar := by
    rw [ofText, String.toUTF8, ← String.utf8Encode_toList, List.utf8Encode,
      List.data_toByteArray]
  have hchar : ∀ c ∈ s.toList, String.utf8EncodeChar c = [UInt8.ofNat c.toNat] := by
    intro c hc
    have hle : c.val ≤ 127 := UInt32.le_iff_toNat_le.mpr (Nat.le_of_lt_succ (h c hc))
    exact String.utf8EncodeChar_eq_singleton (Char.utf8Size_eq_one_iff.mpr hle)
  rw [hbytes, List.flatMap_congr hchar]
  exact List.map_eq_flatMap.symm

end MessageRelay
