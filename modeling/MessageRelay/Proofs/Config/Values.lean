import MessageRelay.Config.Reading
import MessageRelay.Proofs.Bytes
import MessageRelay.Proofs.Config

/-!
# How the values of settings are written

A setting is a text, and a value may be written in more than one way: an address in either letter
case, a policy likewise, and all of them with white space around. A *form* says which texts write a
value, in terms of the value and not of the reader (`MessageRelay.Setting.Form`). That a reader
understands a form is `MessageRelay.Setting.Reads`: it gives the value back, and no white space is
taken for a part of it.
-/

namespace MessageRelay

namespace Setting

/-! ### Forms -/

/-- Which texts write a value. -/
abbrev Form (α : Type) : Type := α → String → Prop

/-- Decimal digits. -/
def decimal : Form Nat :=
  fun n core => core = toString n

/-- One of the words `true` and `false`. -/
def truthWord : Form Bool :=
  fun b core => core = toString b

/-- The marker `0x` and two hexadecimal digits for each byte, in any letter case. -/
def hexadecimal : Form Address :=
  fun a core => ∃ digits, core.toList = '0' :: 'x' :: digits ∧
    digits.map Char.toLower = a.bytes.hexDigits

/-- The short name of a policy, in any letter case. -/
def policyName : Form FailurePolicy :=
  fun p core => core.toList.map Char.toLower = p.text.toList

/-- **A reader understands a form**: it reads the value that was written, and what is written is not
empty and has no white space in it. -/
structure Reads {α : Type} (form : Form α) (read : String → Except ValueError α) : Prop where
  read : ∀ {a core}, form a core → read core = .ok a
  solid : ∀ {a core}, form a core → Text.Solid core

/-! ### Numbers -/

/-- Reading digits adds them to those in front, as long as the number stays below the bound. -/
theorem digits_eq_ok {bound n : Nat} {cs : List Char} (hdigits : ∀ c ∈ cs, c.isDigit = true)
    (h : Nat.ofDigitChars 10 cs n < bound) :
    digits bound n cs = .ok (Nat.ofDigitChars 10 cs n) := by
  -- the number grows from digit to digit, so it stays below the bound on the way
  have hle : ∀ (cs : List Char) (n : Nat), n ≤ Nat.ofDigitChars 10 cs n := by
    intro cs
    induction cs with
    | nil => exact fun n => Nat.le_refl n
    | cons c cs ih =>
      intro n
      rw [Nat.ofDigitChars_cons]
      exact Nat.le_trans (by omega) (ih _)
  induction cs generalizing n with
  | nil => rfl
  | cons c cs ih =>
    obtain ⟨hc, hrest⟩ := List.forall_mem_cons.mp hdigits
    rw [Nat.ofDigitChars_cons] at h ⊢
    rw [digits, if_pos hc]
    have hlt : 10 * n + (c.toNat - 48) < bound := Nat.lt_of_le_of_lt (hle cs _) h
    dsimp only
    rw [if_pos hlt]
    exact ih hrest h

/-- **Decimal digits are read back** below the bound. -/
theorem number_toString {bound n : Nat} (h : n < bound) : number bound (toString n) = .ok n := by
  have hdigits : ∀ c ∈ Nat.toDigits 10 n, c.isDigit = true := fun c hc =>
    Nat.isDigit_of_mem_toDigits (by decide) (by decide) hc
  have hread : digits bound 0 (Nat.toDigits 10 n) = .ok n := by
    have hvalue : Nat.ofDigitChars 10 (Nat.toDigits 10 n) 0 = n :=
      Nat.ofDigitChars_toDigits (by decide) (by decide)
    rw [digits_eq_ok hdigits (by rw [hvalue]; exact h), hvalue]
  have hlist : (toString n).toList = Nat.toDigits 10 n := Nat.toList_repr
  rw [number, hlist]
  -- the first character is a digit, so there is no plus sign
  cases hcs : Nat.toDigits 10 n with
  | nil => exact absurd hcs Nat.toDigits_ne_nil
  | cons c cs =>
    have hplus : c ≠ '+' := by
      rintro rfl
      have := hdigits '+' (by rw [hcs]; exact List.mem_cons_self)
      exact absurd this (by decide)
    rw [hcs] at hread
    split
    next h => cases h
    next h => exact absurd (List.cons.inj h).1 hplus
    next h => exact absurd (List.cons.inj h).1 hplus
    next => exact hread

theorem solid_toString (n : Nat) : Text.Solid (toString n) := by
  have hlist : (toString n).toList = Nat.toDigits 10 n := Nat.toList_repr
  refine Text.solid_of_graphic (fun hempty => ?_) fun c hc => ?_
  · rw [hempty] at hlist
    exact absurd hlist.symm Nat.toDigits_ne_nil
  · rw [hlist] at hc
    have hdigit : '0'.toNat ≤ c.toNat ∧ c.toNat ≤ '9'.toNat :=
      Char.isDigit_iff_toNat.mp (Nat.isDigit_of_mem_toDigits (by decide) (by decide) hc)
    exact ⟨Nat.le_trans (by decide) hdigit.1, Nat.lt_of_le_of_lt hdigit.2 (by decide)⟩

/-- **A number of any width is read from its decimal digits**: the bound is that of the width. -/
theorem reads_number {α : Type} {bound : Nat} {number : α → Nat} {ofNumber : Nat → α}
    (hlt : ∀ a, number a < bound) (hback : ∀ a, ofNumber (number a) = a) :
    Reads (fun a => decimal (number a)) fun s => (Setting.number bound s).map ofNumber where
  read := by
    rintro a core rfl
    rw [number_toString (hlt a)]
    exact congrArg Except.ok (hback a)
  solid := by
    rintro a core rfl
    exact solid_toString (number a)

theorem reads_word64 : Reads (fun n : UInt64 => decimal n.toNat) Config.word64 :=
  reads_number (fun n => n.toNat_lt) fun _ => UInt64.ofNat_toNat

theorem reads_word32 : Reads (fun n : UInt32 => decimal n.toNat) Config.word32 :=
  reads_number (fun n => n.toNat_lt) fun _ => UInt32.ofNat_toNat

theorem reads_word128 : Reads (fun n : BitVec 128 => decimal n.toNat) Config.word128 :=
  reads_number (fun n => n.isLt) fun n => BitVec.ofNat_toNat 128 n

/-! ### Words -/

theorem reads_flag : Reads truthWord flag where
  read := by
    rintro b core rfl
    cases b <;> rfl
  solid := by
    rintro b core rfl
    have hunbroken : (toString b).toList.any Text.isBlank = false := by cases b <;> rfl
    refine ⟨by cases b <;> decide, fun c hc => ?_⟩
    exact Bool.eq_false_iff.mpr (List.any_eq_false.mp hunbroken c hc)

/-- A name consists of letters, in whatever case. -/
theorem graphic_of_name {p : FailurePolicy} {core : String} (h : policyName p core) :
    ∀ c ∈ core.toList, Text.IsGraphic c := by
  have hletters : ∀ c ∈ p.text.toList, Text.IsGraphic c := by
    cases p with
    | abortRemaining | skipAndContinue => simp [FailurePolicy.text, Text.IsGraphic]
  intro c hc
  refine Text.isGraphic_toLower_iff.mp (hletters _ ?_)
  rw [← h]
  exact List.mem_map_of_mem hc

theorem solid_of_name {p : FailurePolicy} {core : String} (h : policyName p core) :
    Text.Solid core := by
  refine Text.solid_of_graphic ?_ (graphic_of_name h)
  rintro rfl
  cases p with
  | abortRemaining | skipAndContinue => cases h

/-- **A policy is read in any letter case.** -/
theorem reads_policy : Reads policyName policy where
  read := by
    intro p core hname
    have htrim : Text.trim core = core := (Text.Padded.refl core).trim (solid_of_name hname)
    have hlower : Text.lowercase core = p.text := by
      have hascii : Text.IsAscii core.toList := fun c hc => (graphic_of_name hname c hc).2
      have hmap : core.toList.map Char.toLower = p.text.toList := hname
      rw [Text.lowercase_of_ascii hascii, hmap, String.ofList_toList]
    have hread : FailurePolicy.read core = .ok p := by
      rw [FailurePolicy.read, htrim, hlower]
      cases p <;> rfl
    rw [policy, hread]
    rfl
  solid := solid_of_name

/-! ### Addresses -/

/-- **An address is read from forty hexadecimal digits** behind the marker. -/
theorem address_of_digits {digits : List Char} {a : Address} {core : String}
    (hcore : core.toList = '0' :: 'x' :: digits)
    (hdigits : Bytes.ofHexDigits? digits = some a.bytes) : address core = .ok a := by
  obtain ⟨-, hhex⟩ := (Bytes.ofHexDigits?_isSome_iff digits).mp (by rw [hdigits]; rfl)
  have hdrop : Bytes.dropMarker core.toList = digits := by rw [hcore]; rfl
  have hbytes : Bytes.ofText (String.ofList digits) = digits.map fun c => UInt8.ofNat c.toNat := by
    have hascii : Text.IsAscii (String.ofList digits).toList := by
      rw [String.toList_ofList]
      exact fun c hc => (Bytes.isGraphic_of_hexValue? (hhex c hc)).2
    rw [Bytes.ofText_of_ascii hascii, String.toList_ofList]
  have hlength : digits.length = 40 := by
    rw [Bytes.length_of_ofHexDigits? hdigits, a.length_bytes]
  have hread : Octets.ofHex? 20 core = some a := by
    rw [Octets.ofHex?, Bytes.ofHex?, hdrop, hdigits]
    exact Octets.ofBytes?_bytes a
  have hfind : (digits.map fun c => UInt8.ofNat c.toNat).zipIdx.find? (fun entry =>
      !(Bytes.hexValue? (Char.ofNat entry.1.toNat)).isSome) = none := by
    refine List.find?_eq_none.mpr fun entry hentry => ?_
    obtain ⟨c, hc, hbyte⟩ := List.mem_map.mp (List.fst_mem_of_mem_zipIdx hentry)
    have hlt : c.toNat < 0x80 := (Bytes.isGraphic_of_hexValue? (hhex c hc)).2
    have hback : Char.ofNat entry.1.toNat = c := by
      rw [← hbyte, UInt8.toNat_ofNat_of_lt' (Nat.lt_trans hlt (by decide)), Char.ofNat_toNat]
    simp only [hback, hhex c hc, Bool.not_true, Bool.false_eq_true, not_false_eq_true]
  rw [address]
  simp only [hdrop, hbytes, List.length_map, hlength, hfind, hread]
  rfl

/-- The digits of an address in any letter case are read as its bytes. -/
theorem digits_of_hexadecimal {a : Address} {core : String} (h : hexadecimal a core) :
    ∃ digits, core.toList = '0' :: 'x' :: digits ∧ Bytes.ofHexDigits? digits = some a.bytes := by
  obtain ⟨digits, hcore, hdigits⟩ := h
  refine ⟨digits, hcore, ?_⟩
  rw [← Bytes.ofHexDigits?_map_toLower, hdigits, Bytes.ofHexDigits?_hexDigits]

/-- **An address is read in any letter case.** -/
theorem reads_address : Reads hexadecimal address where
  read := by
    intro a core h
    obtain ⟨digits, hcore, hdigits⟩ := digits_of_hexadecimal h
    exact address_of_digits hcore hdigits
  solid := by
    intro a core h
    obtain ⟨digits, hcore, hdigits⟩ := digits_of_hexadecimal h
    obtain ⟨-, hhex⟩ := (Bytes.ofHexDigits?_isSome_iff digits).mp (by rw [hdigits]; rfl)
    refine Text.solid_of_graphic ?_ fun c hc => ?_
    · rintro rfl
      cases hcore
    · rw [hcore] at hc
      rcases List.mem_cons.mp hc with rfl | hc
      · exact ⟨by decide, by decide⟩
      rcases List.mem_cons.mp hc with rfl | hc
      · exact ⟨by decide, by decide⟩
      · exact Bytes.isGraphic_of_hexValue? (hhex c hc)

end Setting

end MessageRelay
