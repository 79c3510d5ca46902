import MessageRelay.Proofs.Json.Reading

/-!
# What is written is read back

A document is *plain* if its numbers are natural ones in plain digits and its strings are all texts
(`MessageRelay.Json.IsPlain`). Either written form of a plain document spells it
(`MessageRelay.Json.spells_chars`, `MessageRelay.Json.spells_prettyChars`), so the reader gives the
document back: `MessageRelay.Json.read?_write` for the compact form and
`MessageRelay.Json.read?_writePretty` for the pretty one, which may stand in front of blanks.
-/

namespace MessageRelay

namespace Json

/-! ### Plain documents -/

mutual

/-- A document of texts and natural numbers. -/
def IsPlain : Json → Prop
  | null | bool _ | string _ => True
  | number lexeme => ∃ n : Nat, lexeme = toString n
  | brokenString => False
  | array es => ArePlain es
  | object ms => HavePlain ms

/-- Documents of texts and natural numbers. -/
def ArePlain : List Json → Prop
  | [] => True
  | e :: es => IsPlain e ∧ ArePlain es

/-- Members whose names are texts and whose values are plain. -/
def HavePlain : List (Option String × Json) → Prop
  | [] => True
  | (name, value) :: ms => name.isSome ∧ IsPlain value ∧ HavePlain ms

end

@[simp] theorem isPlain_null : null.IsPlain := trivial

@[simp] theorem isPlain_string (s : String) : (string s).IsPlain := trivial

@[simp] theorem isPlain_ofNat (n : Nat) : (ofNat n).IsPlain := ⟨n, rfl⟩

/-- An array is plain if its elements are. -/
theorem isPlain_array {es : List Json} (h : ∀ e ∈ es, e.IsPlain) : (array es).IsPlain := by
  induction es with
  | nil => trivial
  | cons e es ih =>
    exact ⟨h e List.mem_cons_self, ih fun e' he' => h e' (List.mem_cons_of_mem _ he')⟩

/-- An object with named members is plain if its values are. -/
theorem isPlain_ofMembers {members : List (String × Json)} (h : ∀ m ∈ members, m.2.IsPlain) :
    (ofMembers members).IsPlain := by
  induction members with
  | nil => trivial
  | cons m ms ih =>
    exact ⟨rfl, h m List.mem_cons_self, ih fun m' hm' => h m' (List.mem_cons_of_mem _ hm')⟩

/-! ### The two written forms -/

theorem isGap_nil : IsGap [] := fun _ hc => absurd hc List.not_mem_nil

theorem isGap_blank : IsGap [' '] := by
  rintro c hc
  rw [List.mem_singleton.mp hc]
  rfl

theorem isGap_newLine (depth : Nat) : IsGap (newLine depth) := by
  intro c hc
  rcases List.mem_cons.mp hc with rfl | hc
  · rfl
  · rw [List.eq_of_mem_replicate hc]
    rfl

/-- The compact form of an array, its last part in front of the bracket that closes it. -/
theorem chars_elements (e : Json) (es : List Json) :
    chars (.array (e :: es)) = '[' :: (e.chars ++ (elementChars es ++ [']'])) := by
  show '[' :: e.chars ++ elementChars es ++ [']'] = _
  rw [List.cons_append, List.cons_append, List.append_assoc]

/-- So it is with an object and its brace. -/
theorem chars_members (name : String) (value : Json) (ms : List (Option String × Json)) :
    chars (.object ((some name, value) :: ms)) =
      '\x7b' :: (quote name ++ ':' :: value.chars ++ (memberChars ms ++ ['\x7d'])) := by
  show '\x7b' :: quote name ++ ':' :: value.chars ++ memberChars ms ++ ['\x7d'] = _
  simp only [List.cons_append, List.append_assoc]

mutual

/-- **The compact form of a plain document spells it**, without any blanks. -/
theorem spells_chars : (j : Json) → j.IsPlain → Spells j j.chars
  | .null, _ => .null
  | .bool true, _ => .true
  | .bool false, _ => .false
  | .number _, ⟨n, hn⟩ => hn ▸ .nat n
  | .string s, _ => .string s
  | .array [], _ => .noElements isGap_nil
  | .array (e :: es), h => by
    have hes := spellsElements_chars (spells_chars e h.1) es h.2
    have hj := Spells.elements isGap_nil hes
    rwa [List.nil_append, ← chars_elements] at hj
  | .object [], _ => .noMembers isGap_nil
  | .object ((some name, value) :: ms), h => by
    have hm := SpellsMember.mk name isGap_nil isGap_nil (spells_chars value h.2.1)
    have hms := spellsMembers_chars hm ms h.2.2
    have hj := Spells.members isGap_nil hms
    rwa [List.nil_append, List.nil_append, List.nil_append, ← chars_members] at hj

/-- Further elements behind one that is spelled. -/
theorem spellsElements_chars {e : Json} {cs : List Char} (he : Spells e cs) : (es : List Json) →
    ArePlain es → SpellsElements (e :: es) (cs ++ (elementChars es ++ [']']))
  | [], _ => .last he isGap_nil
  | e' :: es, h => by
    have hes := spellsElements_chars (spells_chars e' h.1) es h.2
    simpa [elementChars] using SpellsElements.more he isGap_nil isGap_nil hes

/-- Further members behind one that is spelled. -/
theorem spellsMembers_chars {m : Option String × Json} {cs : List Char} (hm : SpellsMember m cs) :
    (ms : List (Option String × Json)) → HavePlain ms →
      SpellsMembers (m :: ms) (cs ++ (memberChars ms ++ ['\x7d']))
  | [], _ => .last hm isGap_nil
  | (some name, value) :: ms, h => by
    have hm' := SpellsMember.mk name isGap_nil isGap_nil (spells_chars value h.2.1)
    have hms := spellsMembers_chars hm' ms h.2.2
    simpa [memberChars, nameChars] using SpellsMembers.more hm isGap_nil isGap_nil hms

end

mutual

/-- **The pretty form of a plain document spells it**, at every depth. -/
theorem spells_prettyChars (depth : Nat) : (j : Json) → j.IsPlain → Spells j (j.prettyChars depth)
  | .null, h => spells_chars .null h
  | .bool b, h => spells_chars (.bool b) h
  | .number lexeme, h => spells_chars (.number lexeme) h
  | .string s, h => spells_chars (.string s) h
  | .array [], h => spells_chars (.array []) h
  | .array (e :: es), h => by
    have hes := spellsElements_prettyChars depth (spells_prettyChars (depth + 1) e h.1) es h.2
    simpa [prettyChars] using Spells.elements (isGap_newLine (depth + 1)) hes
  | .object [], h => spells_chars (.object []) h
  | .object ((some name, value) :: ms), h => by
    have hm := SpellsMember.mk name isGap_nil isGap_blank
      (spells_prettyChars (depth + 1) value h.2.1)
    have hms := spellsMembers_prettyChars depth hm ms h.2.2
    simpa [prettyChars, nameChars] using Spells.members (isGap_newLine (depth + 1)) hms

/-- Further elements behind one that is spelled, each on a line of its own. -/
theorem spellsElements_prettyChars (depth : Nat) {e : Json} {cs : List Char} (he : Spells e cs) :
    (es : List Json) → ArePlain es → SpellsElements (e :: es)
      (cs ++ (prettyElements (depth + 1) es ++ (newLine depth ++ [']'])))
  | [], _ => .last he (isGap_newLine depth)
  | e' :: es, h => by
    have hes := spellsElements_prettyChars depth (spells_prettyChars (depth + 1) e' h.1) es h.2
    simpa [prettyElements] using
      SpellsElements.more he isGap_nil (isGap_newLine (depth + 1)) hes

/-- Further members behind one that is spelled, each on a line of its own. -/
theorem spellsMembers_prettyChars (depth : Nat) {m : Option String × Json} {cs : List Char}
    (hm : SpellsMember m cs) : (ms : List (Option String × Json)) → HavePlain ms →
      SpellsMembers (m :: ms) (cs ++ (prettyMembers (depth + 1) ms ++ (newLine depth ++ ['\x7d'])))
  | [], _ => .last hm (isGap_newLine depth)
  | (some name, value) :: ms, h => by
    have hm' := SpellsMember.mk name isGap_nil isGap_blank
      (spells_prettyChars (depth + 1) value h.2.1)
    have hms := spellsMembers_prettyChars depth hm' ms h.2.2
    simpa [prettyMembers, nameChars] using
      SpellsMembers.more hm isGap_nil (isGap_newLine (depth + 1)) hms

end

/-! ### Reading what was written -/

/-- **The compact form is read back.** -/
theorem read?_write {j : Json} (h : j.IsPlain) : read? j.write = some j := by
  have hread := read?_of_spells (spells_chars j h) isGap_nil
  rwa [List.append_nil] at hread

/-- **The pretty form is read back**, also if blanks follow. -/
theorem read?_writePretty {j : Json} (h : j.IsPlain) {gap : String} (hgap : IsGap gap.toList) :
    read? (j.writePretty ++ gap) = some j := by
  have hread := read?_of_spells (spells_prettyChars 0 j h) hgap
  rwa [String.ofList_append, String.ofList_toList] at hread

end Json

end MessageRelay
