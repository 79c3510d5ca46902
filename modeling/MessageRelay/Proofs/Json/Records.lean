import MessageRelay.Proofs.Json.Fields
import MessageRelay.Proofs.Json.Writing

/-!
# Records in JSON, written and read back

A writer and a reader of one type *fit* if all that is written is plain and the reader takes it back
(`MessageRelay.Json.Fits`). Then the written texts are read back, in either form, and so two
values never have one text (`MessageRelay.Json.Fits.roundTrips`).

The rest of the module is what fitting forms of records are made of: the fields of an object whose
names are all different (`MessageRelay.Json.fields?_ofMembers`), and the kinds of values that
stand in them.
-/

namespace MessageRelay

namespace Json

/-! ### Texts of values -/

section Texts

variable {α : Type}

/-- A value from its text. -/
def parse (read : Json → Option α) (text : String) : Option α :=
  (read? text).bind read

/-- Both texts of a value are read as that value. -/
structure RoundTrips (write : α → Json) (read : Json → Option α) : Prop where
  /-- The text without blanks. -/
  compact : ∀ a, parse read (write a).write = some a
  /-- The text with one element or member per line. -/
  pretty : ∀ a, parse read (write a).writePretty = some a

/-- A writer and a reader that fit each other. -/
structure Fits (write : α → Json) (read : Json → Option α) : Prop where
  /-- What is written is plain. -/
  plain : ∀ a, (write a).IsPlain
  /-- What is written is taken back. -/
  read : ∀ a, read (write a) = some a

variable {write : α → Json} {read : Json → Option α}

/-- The pretty text is read also if blanks follow. -/
theorem Fits.parse_writePretty (h : Fits write read) (a : α) (gap : String)
    (hgap : IsGap gap.toList) : parse read ((write a).writePretty ++ gap) = some a := by
  rw [parse, read?_writePretty (h.plain a) hgap, Option.bind_some, h.read]

/-- **Values of a fitting form come back from their texts.** -/
theorem Fits.roundTrips (h : Fits write read) : RoundTrips write read where
  compact a := by rw [parse, read?_write (h.plain a), Option.bind_some, h.read]
  pretty a := by
    have hread := h.parse_writePretty a "" isGap_nil
    rwa [String.append_empty] at hread

end Texts

/-! ### Fields -/

/-- If the names are all different, one member at most stands under a name. -/
theorem filter_of_nodup {members : List (String × Json)} (h : (members.map Prod.fst).Nodup)
    (name : String) :
    (members.map fun m => (some m.1, m.2)).filter (·.1 == some name) =
      ((members.lookup name).map fun value => (some name, value)).toList := by
  induction members with
  | nil => rfl
  | cons m ms ih =>
    obtain ⟨hm, hms⟩ := List.nodup_cons.mp h
    rw [List.map_cons, List.filter_cons, ih hms, List.lookup_cons]
    by_cases heq : m.1 = name
    · -- nothing else stands under this name
      have hnone : ms.lookup name = none := by
        refine List.lookup_eq_none_iff.mpr fun m' hm' => bne_iff_ne.mpr fun hname => hm ?_
        rw [heq, hname]
        exact List.mem_map_of_mem hm'
      simp [heq, hnone]
    · have hne : (name == m.1) = false := beq_false_of_ne fun h => heq h.symm
      simp [heq, hne]

/-- **The fields of a record are what its members hold**, if their names are all different. -/
theorem fields?_ofMembers {members : List (String × Json)} (h : (members.map Prod.fst).Nodup)
    (names : List String) :
    (ofMembers members).fields? names = some (names.map (members.lookup ·)) := by
  have hunique : ∀ name, unique? name (members.map fun m => (some m.1, m.2)) =
      some (members.lookup name) := by
    intro name
    rw [unique?, filter_of_nodup h]
    cases members.lookup name <;> rfl
  have hnamed : (members.map fun m => (some m.1, m.2)).all (·.1.isSome) = true := by
    rw [List.all_map]
    exact List.all_eq_true.mpr fun _ _ => rfl
  show (if (members.map fun m => (some m.1, m.2)).all (·.1.isSome) = true then
    names.mapM (unique? · (members.map fun m => (some m.1, m.2))) else none) = _
  rw [if_pos hnamed, mapM_eq_some_iff, List.map_map]
  exact List.map_congr_left fun name _ => hunique name

/-! ### Kinds of values -/

/-- A natural number is taken back below the bound. -/
theorem nat?_ofNat {bound n : Nat} (h : n < bound) : (ofNat n).nat? bound = some n := by
  have hlist : (toString n).toList = Nat.toDigits 10 n := Nat.toList_repr
  have hdigits : (Nat.toDigits 10 n).all Char.isDigit = true :=
    List.all_eq_true.mpr fun _ hc => Nat.isDigit_of_mem_toDigits (by decide) (by decide) hc
  have hvalue : (Nat.toDigits 10 n).foldl (fun n c => n * 10 + (c.toNat - '0'.toNat)) 0 = n := by
    simp only [Nat.mul_comm _ 10]
    exact Nat.ofDigitChars_toDigits (by decide) (by decide)
  simp only [ofNat, nat?, hlist, hdigits, hvalue, if_true, if_pos h]

theorem bytes?_toHex (bs : Bytes) : (string bs.toHex).bytes? = some bs := by
  have hdrop : Bytes.dropMarker bs.toHex.toList = bs.hexDigits := by
    rw [Bytes.toHex, String.toList_ofList]
    rfl
  show Bytes.ofHexDigits? (Bytes.dropMarker bs.toHex.toList) = some bs
  rw [hdrop, Bytes.ofHexDigits?_hexDigits]

theorem octets?_toHex {n : Nat} (o : Octets n) : (string o.toHex).octets? n = some o := by
  rw [octets?, Octets.toHex, bytes?_toHex]
  exact Octets.ofBytes?_bytes o

variable {α : Type} {write : α → Json} {read : Json → Option α}

theorem mapM_map_of_read (h : ∀ a, read (write a) = some a) (as : List α) :
    (as.map write).mapM read = some as := by
  rw [mapM_eq_some_iff, List.map_map]
  exact List.map_congr_left fun a _ => h a

/-- A list of values as an array. -/
theorem Fits.list (h : Fits write read) :
    Fits (fun as : List α => array (as.map write)) fun j => do (← j.elements?).mapM read where
  plain as := by
    refine isPlain_array fun e he => ?_
    obtain ⟨a, -, rfl⟩ := List.mem_map.mp he
    exact h.plain a
  read as := mapM_map_of_read h.read as

end Json

end MessageRelay
