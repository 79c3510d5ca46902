import Mathlib.Data.List.Induction
import Mathlib.Tactic.IntervalCases
import MessageRelay.Proofs.Text

/-!
# Numbers written in bytes

The two directions of the number view of a byte string undo each other. Reading what was written in
`width` bytes gives the number back up to the multiples of `MessageRelay.Octets.count width`
(`MessageRelay.Bytes.toNat_ofNat`), and writing what was read gives the bytes back if the width is
their number (`MessageRelay.Bytes.ofNat_toNat`). So among the byte strings of one length a number
has exactly one numeral, and numerals of a fixed width leave no choice to whoever writes them.

The text view is read back likewise (`MessageRelay.Bytes.ofHexDigits?_hexDigits`). It does leave a
choice, that of the letter case (`MessageRelay.Bytes.ofHexDigits?_map_toLower`), but no other one:
whatever is read consists of hexadecimal digits, two for each byte
(`MessageRelay.Bytes.ofHexDigits?_isSome_iff`).
-/

namespace MessageRelay

namespace Octets

theorem count_succ (n : Nat) : count (n + 1) = count n * 256 := rfl

end Octets

namespace Bytes

/-! ### One byte at the end -/

theorem toNat_concat (bs : Bytes) (b : UInt8) : toNat (bs ++ [b]) = toNat bs * 256 + b.toNat := by
  simp [toNat, List.foldl_append]

/-- A byte string writes a number below the number of such strings. -/
theorem toNat_lt (bs : Bytes) : toNat bs < Octets.count bs.length := by
  induction bs using List.reverseRecOn with
  | nil => decide
  | append_singleton bs b ih =>
    have hb : b.toNat < 256 := b.toNat_lt
    rw [toNat_concat, List.length_append, List.length_singleton, Octets.count_succ]
    omega

/-! ### There and back -/

/-- **Reading what was written** in `width` bytes keeps the last `width` digits. -/
theorem toNat_ofNat (width v : Nat) : toNat (ofNat width v) = v % Octets.count width := by
  induction width generalizing v with
  | zero =>
    have hone : v % Octets.count 0 = 0 := Nat.mod_one v
    rw [hone]
    rfl
  | succ width ih =>
    have hdigit : (UInt8.ofNat v).toNat = v % 256 := UInt8.toNat_ofNat'
    rw [ofNat, toNat_concat, ih, hdigit, Octets.count_succ, Nat.mul_comm (Octets.count width) 256,
      Nat.mod_mul]
    omega

theorem toNat_ofNat_of_lt {width v : Nat} (h : v < Octets.count width) :
    toNat (ofNat width v) = v := by
  rw [toNat_ofNat, Nat.mod_eq_of_lt h]

/-- **Writing what was read** gives the same bytes. -/
theorem ofNat_toNat (bs : Bytes) : ofNat bs.length (toNat bs) = bs := by
  induction bs using List.reverseRecOn with
  | nil => rfl
  | append_singleton bs b ih =>
    have hb : b.toNat < 256 := b.toNat_lt
    have hfront : (toNat bs * 256 + b.toNat) / 256 = toNat bs := by omega
    have hlast : UInt8.ofNat (toNat bs * 256 + b.toNat) = b := by
      apply UInt8.toNat_inj.mp
      rw [UInt8.toNat_ofNat']
      omega
    rw [List.length_append, List.length_singleton, ofNat, toNat_concat, hfront, hlast, ih]

/-! ### Hexadecimal digits -/

/-- The value of a digit in terms of the number of the character. -/
theorem hexValue?_eq (c : Char) :
    hexValue? c =
      if 48 ≤ c.toNat ∧ c.toNat ≤ 57 then some (c.toNat - 48)
      else if 97 ≤ c.toNat ∧ c.toNat ≤ 102 then some (c.toNat - 97 + 10)
      else if 65 ≤ c.toNat ∧ c.toNat ≤ 70 then some (c.toNat - 65 + 10)
      else none := rfl

theorem hexValue?_digitChar {n : Nat} (h : n < 16) : hexValue? (Nat.digitChar n) = some n := by
  interval_cases n <;> rfl

/-- The letter case of a digit does not matter. -/
theorem hexValue?_toLower (c : Char) : hexValue? c.toLower = hexValue? c := by
  rw [hexValue?_eq, hexValue?_eq, toNat_toLower]
  split
  · grind
  · rfl

/-- All digits are ASCII characters, and none is white space. -/
theorem isGraphic_of_hexValue? {c : Char} (h : (hexValue? c).isSome = true) :
    Text.IsGraphic c := by
  rw [hexValue?_eq] at h
  rw [Text.IsGraphic]
  grind

theorem ofHexDigits?_map_toLower (cs : List Char) :
    ofHexDigits? (cs.map Char.toLower) = ofHexDigits? cs := by
  fun_induction ofHexDigits? cs with
  | case1 => rfl
  | case2 c => rfl
  | case3 hi lo rest ih =>
    rw [List.map_cons, List.map_cons, ofHexDigits?, hexValue?_toLower, hexValue?_toLower, ih]

/-- **Reading the digits that were written** gives the bytes back. -/
theorem ofHexDigits?_hexDigits (bs : Bytes) : ofHexDigits? bs.hexDigits = some bs := by
  induction bs with
  | nil => rfl
  | cons b bs ih =>
    have hb : b.toNat < 256 := b.toNat_lt
    have hhi : hexValue? (Nat.digitChar (b.toNat / 16)) = _ := hexValue?_digitChar (by omega)
    have hlo : hexValue? (Nat.digitChar (b.toNat % 16)) = _ := hexValue?_digitChar (by omega)
    show ofHexDigits? (_ :: _ :: hexDigits bs) = _
    rw [ofHexDigits?, hhi, hlo, ih]
    show some (UInt8.ofNat (16 * (b.toNat / 16) + b.toNat % 16) :: bs) = _
    rw [Nat.div_add_mod, UInt8.ofNat_toNat]

/-- What is written are digits. -/
theorem exists_digit_of_mem {bs : Bytes} {c : Char} (h : c ∈ bs.hexDigits) :
    ∃ n < 16, c = Nat.digitChar n := by
  obtain ⟨b, -, hc⟩ := List.mem_flatMap.mp h
  have hb : b.toNat < 256 := b.toNat_lt
  rcases List.mem_cons.mp hc with rfl | hc
  · exact ⟨b.toNat / 16, by omega, rfl⟩
  · exact ⟨b.toNat % 16, by omega, List.mem_singleton.mp hc⟩

/-- The digits that are written are in lower case. -/
theorem map_toLower_hexDigits (bs : Bytes) : bs.hexDigits.map Char.toLower = bs.hexDigits := by
  have hdigit : ∀ n < 16, (Nat.digitChar n).toLower = Nat.digitChar n := by decide
  refine (List.map_congr_left fun c hc => ?_).trans (List.map_id _)
  obtain ⟨n, hn, rfl⟩ := exists_digit_of_mem hc
  exact hdigit n hn

/-- **What is read as bytes**: an even number of hexadecimal digits. -/
theorem ofHexDigits?_isSome_iff (cs : List Char) :
    (ofHexDigits? cs).isSome = true ↔
      cs.length % 2 = 0 ∧ ∀ c ∈ cs, (hexValue? c).isSome = true := by
  fun_induction ofHexDigits? cs with
  | case1 => simp
  | case2 c => simp
  | case3 hi lo rest ih =>
    have hrest : (ofHexDigits? (hi :: lo :: rest)).isSome = true ↔ (hexValue? hi).isSome = true ∧
        (hexValue? lo).isSome = true ∧ (ofHexDigits? rest).isSome = true := by
      rw [ofHexDigits?]
      cases hexValue? hi <;> cases hexValue? lo <;> cases ofHexDigits? rest <;> simp
    rw [ofHexDigits?] at hrest
    rw [hrest, ih, List.forall_mem_cons, List.forall_mem_cons, List.length_cons, List.length_cons,
      Nat.add_assoc, Nat.add_mod_right]
    tauto

theorem length_of_ofHexDigits? {cs : List Char} {bs : Bytes} (h : ofHexDigits? cs = some bs) :
    cs.length = 2 * bs.length := by
  fun_induction ofHexDigits? cs generalizing bs with
  | case1 => cases h; rfl
  | case2 c => cases h
  | case3 hi lo rest ih =>
    simp only [Option.bind_eq_bind, Option.bind_eq_some_iff, Option.pure_def] at h
    obtain ⟨vh, -, vl, -, bs', hbs', hcons⟩ := h
    obtain rfl := Option.some.inj hcons
    rw [List.length_cons, List.length_cons, List.length_cons, ih hbs', Nat.mul_add]

end Bytes

/-! ### Byte strings of a fixed length -/

namespace Octets

variable {n : Nat}

theorem toNat_lt (o : Octets n) : o.toNat < count n := by
  have h := Bytes.toNat_lt o.bytes
  rwa [o.length_bytes] at h

@[simp] theorem ofNat_toNat (o : Octets n) : ofNat n o.toNat = o := by
  apply ext_bytes
  have h := Bytes.ofNat_toNat o.bytes
  rwa [o.length_bytes] at h

theorem toNat_ofNat_of_lt {v : Nat} (h : v < count n) : (ofNat n v).toNat = v :=
  Bytes.toNat_ofNat_of_lt h

/-- **Which texts write `n` bytes**: twice as many hexadecimal digits, behind the marker if there is
one. -/
theorem ofHex?_isSome_iff {s : String} :
    (ofHex? n s).isSome = true ↔
      (Bytes.dropMarker s.toList).length = 2 * n ∧
        ∀ c ∈ Bytes.dropMarker s.toList, (Bytes.hexValue? c).isSome = true := by
  rw [ofHex?, Bytes.ofHex?]
  cases h : Bytes.ofHexDigits? (Bytes.dropMarker s.toList) with
  | none =>
    have hnot := mt (Bytes.ofHexDigits?_isSome_iff (Bytes.dropMarker s.toList)).mpr (by simp [h])
    exact iff_of_false Bool.false_ne_true fun h => hnot ⟨by omega, h.2⟩
  | some bs =>
    have hlength := Bytes.length_of_ofHexDigits? h
    have hdigits := ((Bytes.ofHexDigits?_isSome_iff _).mp (by rw [h]; rfl)).2
    rw [Option.bind_some, ofBytes?]
    split
    · next hn => exact iff_of_true rfl ⟨by omega, hdigits⟩
    · next hn => exact iff_of_false Bool.false_ne_true fun h => hn (by omega)

end Octets

end MessageRelay
