import Mathlib.Data.List.Basic
import MessageRelay.Json.Reader
import MessageRelay.Json.Writer
import MessageRelay.Proofs.Bytes

/-!
# Reading JSON

What the reader makes of a text is told by a grammar that does not mention it: a text *spells* a
document (`MessageRelay.Json.Spells`) if it is made up of the document's tokens with any blanks
around them. The grammar covers the documents whose numbers are natural ones in plain digits and
whose strings are texts. Every text that spells a document is read as that document
(`MessageRelay.Json.read?_of_spells`), so of two ways to write a document neither is lost.

The strings come first: whatever characters there are in a text, it is read as it was written
(`MessageRelay.Json.Reader.text?_quote`). A number has no end of its own, so what stands behind it
must not go on with it (`MessageRelay.Json.Reader.Stops`). The reader counts its steps, and twice
the characters are enough of them.
-/

namespace MessageRelay

namespace Json

namespace Reader

/-! ### Strings -/

/-- What a character is read as that was written in a string: itself, or its number if it is a
control character. -/
def Piece.Means : Piece → Char → Prop
  | .char c, d => c = d
  | .unit n, d => n = d.toNat ∧ n < 0x20

/-- The number of a control character is written in four digits. -/
theorem unit?_hexPair {c : Char} (h : c.toNat < 0x20) (rest : List Char) :
    ∃ hi lo, Bytes.hexPair (UInt8.ofNat c.toNat) ++ rest = hi :: lo :: rest ∧
      unit? '0' '0' hi lo = some c.toNat := by
  have hbyte : (UInt8.ofNat c.toNat).toNat = c.toNat :=
    UInt8.toNat_ofNat_of_lt' (Nat.lt_trans h (by decide))
  refine ⟨Nat.digitChar (c.toNat / 16), Nat.digitChar (c.toNat % 16), ?_, ?_⟩
  · rw [Bytes.hexPair, hbyte]
    rfl
  · have hhi := Bytes.hexValue?_digitChar (n := c.toNat / 16) (by omega)
    have hlo := Bytes.hexValue?_digitChar (n := c.toNat % 16) (by omega)
    have hzero : Bytes.hexValue? '0' = some 0 := by decide
    rw [unit?, hhi, hlo, hzero]
    show some (((0 * 16 + 0) * 16 + c.toNat / 16) * 16 + c.toNat % 16) = some c.toNat
    rw [show ((0 * 16 + 0) * 16 + c.toNat / 16) * 16 + c.toNat % 16 = c.toNat by omega]

/-- **A character of a string is read as one piece**, in whatever way it was written. -/
theorem exists_piece (c : Char) :
    ∃ piece : Piece, piece.Means c ∧ ∀ done rest,
      pieces? done (escape c ++ rest) = pieces? (piece :: done) rest := by
  by_cases hshort : c ∈ ['"', '\\', '\x08', '\x09', '\x0a', '\x0c', '\x0d']
  · -- a backslash and one letter
    refine ⟨.char c, rfl, fun done rest => ?_⟩
    simp only [List.mem_cons, List.not_mem_nil, or_false] at hshort
    obtain rfl | rfl | rfl | rfl | rfl | rfl | rfl := hshort <;> rfl
  simp only [List.mem_cons, List.not_mem_nil, or_false, not_or] at hshort
  obtain ⟨hquote, hbackslash, hb, ht, hn, hf, hr⟩ := hshort
  by_cases hcontrol : c.toNat < 0x20
  · refine ⟨.unit c.toNat, ⟨rfl, hcontrol⟩, fun done rest => ?_⟩
    obtain ⟨hi, lo, hpair, hunit⟩ := unit?_hexPair hcontrol rest
    rw [escape, if_neg hquote, if_neg hbackslash, if_neg hb, if_neg ht, if_neg hn, if_neg hf,
      if_neg hr, if_pos hcontrol]
    show pieces? done ('\\' :: 'u' :: '0' :: '0' :: (_ ++ rest)) = _
    rw [hpair, pieces?, hunit]
  · refine ⟨.char c, rfl, fun done rest => ?_⟩
    rw [escape, if_neg hquote, if_neg hbackslash, if_neg hb, if_neg ht, if_neg hn, if_neg hf,
      if_neg hr, if_neg hcontrol]
    show pieces? done (c :: rest) = _
    rw [pieces?, if_neg (by simp [hcontrol, hbackslash])]
    · exact hquote
    · exact fun _ _ _ _ _ h _ => hbackslash h
    · exact fun _ _ h _ => hbackslash h

/-- A whole string is read up to its closing quote. -/
theorem exists_pieces (cs : List Char) (done : List Piece) (rest : List Char) :
    ∃ ps, List.Forall₂ Piece.Means ps cs ∧
      pieces? done (cs.flatMap escape ++ '"' :: rest) = some (done.reverse ++ ps, rest) := by
  induction cs generalizing done with
  | nil => exact ⟨[], .nil, by rw [List.append_nil]; rfl⟩
  | cons c cs ih =>
    obtain ⟨piece, hpiece, hread⟩ := exists_piece c
    obtain ⟨ps, hps, hrest⟩ := ih (piece :: done)
    refine ⟨piece :: ps, .cons hpiece hps, ?_⟩
    rw [List.flatMap_cons, List.append_assoc, hread, hrest, List.reverse_cons, List.append_assoc]
    rfl

/-- The number of a control character is no half of a surrogate pair. -/
theorem assemble?_unit {n : Nat} (h : n < 0x20) (done : List Char) (ps : List Piece) :
    assemble? done (.unit n :: ps) = assemble? (Char.ofNat n :: done) ps := by
  have hno : ¬ (0xD800 ≤ n ∧ n < 0xE000) := by omega
  cases ps with
  | nil => exact if_neg hno
  | cons p ps =>
    cases p with
    | char c => exact if_neg hno
    | unit lo => rw [assemble?, if_neg (by omega), if_neg (by omega)]

theorem assemble?_of_means {ps : List Piece} {cs : List Char} (h : List.Forall₂ Piece.Means ps cs)
    (done : List Char) : assemble? done ps = some (done.reverse ++ cs) := by
  induction h generalizing done with
  | nil => rw [List.append_nil]; rfl
  | @cons piece c ps cs hpiece _ ih =>
    have hstep : assemble? done (piece :: ps) = assemble? (c :: done) ps := by
      cases piece with
      | char d =>
        obtain rfl : d = c := hpiece
        rw [assemble?]
      | unit n =>
        obtain ⟨rfl, hlt⟩ := hpiece
        rw [assemble?_unit hlt, Char.ofNat_toNat]
    rw [hstep, ih, List.reverse_cons, List.append_assoc]
    rfl

/-- **A string is read as it was written**, whatever its characters are. -/
theorem text?_quote (s : String) (rest : List Char) :
    text? (s.toList.flatMap escape ++ '"' :: rest) = some (some s, rest) := by
  obtain ⟨ps, hps, hread⟩ := exists_pieces s.toList [] rest
  rw [text?, hread]
  show some ((assemble? [] ps).map String.ofList, rest) = some (some s, rest)
  rw [assemble?_of_means hps]
  show some (some (String.ofList s.toList), rest) = some (some s, rest)
  rw [String.ofList_toList]

/-! ### Numbers -/

/-- What does not go on with a number. -/
def Stops (rest : List Char) : Prop :=
  ∀ c ∈ rest.head?, c.isDigit = false ∧ c ≠ '.' ∧ c ≠ 'e' ∧ c ≠ 'E'

/-- Only the digits of zero start with a zero. -/
theorem ne_zero_of_head {n : Nat} (h : 0 < n) : ∀ c ∈ (Nat.toDigits 10 n).head?, c ≠ '0' := by
  induction n using Nat.strongRecOn with
  | ind n ih =>
    rw [Nat.toDigits_eq_if (by decide)]
    split
    next hlt =>
      intro c hc
      obtain rfl : n.digitChar = c := Option.some.inj hc
      interval_cases n <;> decide
    next hge =>
      have hdigits : Nat.toDigits 10 (n / 10) ≠ [] := Nat.toDigits_ne_nil
      rw [List.head?_append_of_ne_nil _ hdigits]
      exact ih (n / 10) (by omega) (by omega)

theorem digits?_append {ds rest : List Char} (hne : ds ≠ []) (hds : ∀ c ∈ ds, c.isDigit = true)
    (hrest : Stops rest) : digits? (ds ++ rest) = some (ds, rest) := by
  have htake : (ds ++ rest).takeWhile Char.isDigit = ds := by
    rw [List.takeWhile_append_of_pos hds]
    cases rest with
    | nil => exact List.append_nil ds
    | cons c cs =>
      rw [List.takeWhile_cons_of_neg (Bool.eq_false_iff.mp (hrest c rfl).1), List.append_nil]
  have hdrop : (ds ++ rest).dropWhile Char.isDigit = rest := by
    rw [List.dropWhile_append_of_pos hds]
    cases rest with
    | nil => rfl
    | cons c cs => exact List.dropWhile_cons_of_neg (Bool.eq_false_iff.mp (hrest c rfl).1)
  rw [digits?, htake, hdrop]
  cases ds with
  | nil => exact absurd rfl hne
  | cons c cs => rfl

theorem isDigit_of_mem {n : Nat} : ∀ c ∈ Nat.toDigits 10 n, c.isDigit = true := fun _ hc =>
  Nat.isDigit_of_mem_toDigits (by decide) (by decide) hc

/-- A natural number starts with a digit. -/
theorem exists_digit (n : Nat) : ∃ c ds, Nat.toDigits 10 n = c :: ds ∧ c.isDigit = true := by
  cases hds : Nat.toDigits 10 n with
  | nil => exact absurd hds Nat.toDigits_ne_nil
  | cons c ds => exact ⟨c, ds, rfl, isDigit_of_mem (n := n) c (hds ▸ List.mem_cons_self)⟩

theorem isBlank_of_isDigit {c : Char} (h : c.isDigit = true) : isBlank c = false := by
  rw [Bool.eq_false_iff]
  intro hblank
  simp only [isBlank, Bool.or_eq_true, decide_eq_true_eq] at hblank
  obtain ((rfl | rfl) | rfl) | rfl := hblank <;> exact absurd h (by decide)

theorem integerPart?_toDigits (n : Nat) {rest : List Char} (hrest : Stops rest) :
    integerPart? (Nat.toDigits 10 n ++ rest) = some (Nat.toDigits 10 n, rest) := by
  rcases Nat.eq_zero_or_pos n with rfl | hpos
  · rw [Nat.toDigits_zero]
    show integerPart? ('0' :: rest) = some (['0'], rest)
    have hno : rest.head?.any Char.isDigit = false := by
      cases hhead : rest.head? with
      | none => rfl
      | some c => exact (hrest c hhead).1
    rw [integerPart?, hno]
    rfl
  · have hread := digits?_append Nat.toDigits_ne_nil (isDigit_of_mem (n := n)) hrest
    cases hds : Nat.toDigits 10 n with
    | nil => exact absurd hds Nat.toDigits_ne_nil
    | cons c cs =>
      rw [hds] at hread
      have hc : c ≠ '0' := ne_zero_of_head hpos c (by rw [hds]; rfl)
      rw [List.cons_append] at hread ⊢
      rw [integerPart?]
      · exact hread
      · exact fun _ h => hc (List.cons.inj h).1

theorem fractionPart?_of_stops {rest : List Char} (hrest : Stops rest) :
    fractionPart? rest = some ([], rest) := by
  cases rest with
  | nil => rfl
  | cons c cs =>
    rw [fractionPart?]
    exact fun _ h => (hrest c rfl).2.1 (List.cons.inj h).1

theorem exponentPart?_of_stops {rest : List Char} (hrest : Stops rest) :
    exponentPart? rest = some ([], rest) := by
  cases rest with
  | nil => rfl
  | cons c cs =>
    have hno : ¬ (c = 'e' ∨ c = 'E') := not_or.mpr (hrest c rfl).2.2
    exact if_neg hno

/-- **A natural number is read as it was written.** -/
theorem lexeme?_toString (n : Nat) {rest : List Char} (hrest : Stops rest) :
    lexeme? ((toString n).toList ++ rest) = some (toString n, rest) := by
  have hlist : (toString n).toList = Nat.toDigits 10 n := Nat.toList_repr
  have hwhole := integerPart?_toDigits n hrest
  have hminus : ∀ cs, Nat.toDigits 10 n ++ rest ≠ '-' :: cs := by
    intro cs hcs
    obtain ⟨c, ds, hds, hdigit⟩ := exists_digit n
    rw [hds] at hcs
    obtain rfl := (List.cons.inj hcs).1
    exact absurd hdigit (by decide)
  rw [hlist, lexeme?]
  · simp only [hwhole, fractionPart?_of_stops hrest, exponentPart?_of_stops hrest,
      Option.bind_eq_bind, Option.bind_some, List.nil_append, List.append_nil, Option.pure_def,
      Nat.toString_eq_ofList_toDigits]
  · exact hminus

end Reader

/-! ### Documents -/

/-- Blanks, or nothing. -/
def IsGap (cs : List Char) : Prop :=
  ∀ c ∈ cs, Reader.isBlank c = true

mutual

/-- **A text spells a document.** There may be blanks around every token inside it. The numbers are
natural ones, and all strings are texts. -/
inductive Spells : Json → List Char → Prop where
  | null : Spells .null "null".toList
  | true : Spells (.bool true) "true".toList
  | false : Spells (.bool false) "false".toList
  | nat (n : Nat) : Spells (.ofNat n) (toString n).toList
  | string (s : String) : Spells (.string s) (quote s)
  | noElements {gap} : IsGap gap → Spells (.array []) ('[' :: (gap ++ [']']))
  | elements {es gap cs} : IsGap gap → SpellsElements es cs →
    Spells (.array es) ('[' :: (gap ++ cs))
  | noMembers {gap} : IsGap gap → Spells (.object []) ('\x7b' :: (gap ++ ['\x7d']))
  | members {ms gap cs} : IsGap gap → SpellsMembers ms cs →
    Spells (.object ms) ('\x7b' :: (gap ++ cs))

/-- A text spells the elements of an array up to its closing bracket. -/
inductive SpellsElements : List Json → List Char → Prop where
  | last {e cs gap} : Spells e cs → IsGap gap → SpellsElements [e] (cs ++ (gap ++ [']']))
  | more {e es cs gap gap' ds} : Spells e cs → IsGap gap → IsGap gap' → SpellsElements es ds →
    SpellsElements (e :: es) (cs ++ (gap ++ ',' :: (gap' ++ ds)))

/-- A text spells one member of an object. -/
inductive SpellsMember : Option String × Json → List Char → Prop where
  | mk (name : String) {v gap gap' cs} : IsGap gap → IsGap gap' → Spells v cs →
    SpellsMember (some name, v) (quote name ++ (gap ++ ':' :: (gap' ++ cs)))

/-- A text spells the members of an object up to its closing brace. -/
inductive SpellsMembers : List (Option String × Json) → List Char → Prop where
  | last {m cs gap} : SpellsMember m cs → IsGap gap → SpellsMembers [m] (cs ++ (gap ++ ['\x7d']))
  | more {m ms cs gap gap' ds} : SpellsMember m cs → IsGap gap → IsGap gap' → SpellsMembers ms ds →
    SpellsMembers (m :: ms) (cs ++ (gap ++ ',' :: (gap' ++ ds)))

end

namespace Reader

theorem stops_cons {c : Char} (h : c ∈ [',', ']', '\x7d']) (rest : List Char) :
    Stops (c :: rest) := by
  rintro d ⟨⟩
  simp only [List.mem_cons, List.not_mem_nil, or_false] at h
  obtain rfl | rfl | rfl := h <;> decide

theorem stops_gap {gap rest : List Char} (hgap : IsGap gap) (hrest : Stops rest) :
    Stops (gap ++ rest) := by
  cases gap with
  | nil => exact hrest
  | cons c cs =>
    rintro d ⟨⟩
    have hblank := hgap c List.mem_cons_self
    simp only [isBlank, Bool.or_eq_true, decide_eq_true_eq] at hblank
    obtain ((rfl | rfl) | rfl) | rfl := hblank <;> decide

theorem skipBlanks_gap {gap rest : List Char} (hgap : IsGap gap)
    (hrest : ∀ c ∈ rest.head?, isBlank c = false) : skipBlanks (gap ++ rest) = rest := by
  rw [skipBlanks, List.dropWhile_append_of_pos hgap]
  cases rest with
  | nil => rfl
  | cons c cs => exact List.dropWhile_cons_of_neg (Bool.eq_false_iff.mp (hrest c rfl))

/-- A spelling starts with a character that is no blank and closes no bracket. -/
theorem exists_head {j : Json} {cs : List Char} (h : Spells j cs) :
    ∃ c ds, cs = c :: ds ∧ isBlank c = false ∧ c ≠ ']' := by
  cases h with
  | null => exact ⟨'n', _, rfl, by decide, by decide⟩
  | true => exact ⟨'t', _, rfl, by decide, by decide⟩
  | false => exact ⟨'f', _, rfl, by decide, by decide⟩
  | nat n =>
    obtain ⟨c, ds, hds, hdigit⟩ := exists_digit n
    refine ⟨c, ds, Nat.toList_repr.trans hds, isBlank_of_isDigit hdigit, ?_⟩
    rintro rfl
    exact absurd hdigit (by decide)
  | string s => exact ⟨'"', _, rfl, by decide, by decide⟩
  | noElements => exact ⟨'[', _, rfl, by decide, by decide⟩
  | elements => exact ⟨'[', _, rfl, by decide, by decide⟩
  | noMembers => exact ⟨'\x7b', _, rfl, by decide, by decide⟩
  | members => exact ⟨'\x7b', _, rfl, by decide, by decide⟩

theorem exists_head_elements {es : List Json} {cs : List Char} (h : SpellsElements es cs) :
    ∃ c ds, cs = c :: ds ∧ isBlank c = false ∧ c ≠ ']' := by
  cases h with
  | last h =>
    obtain ⟨c, ds, rfl, hc⟩ := exists_head h
    exact ⟨c, _, rfl, hc⟩
  | more h =>
    obtain ⟨c, ds, rfl, hc⟩ := exists_head h
    exact ⟨c, _, rfl, hc⟩

theorem exists_quote_members {ms : List (Option String × Json)} {cs : List Char}
    (h : SpellsMembers ms cs) : ∃ ds, cs = '"' :: ds := by
  cases h with
  | last h => cases h with | mk => exact ⟨_, rfl⟩
  | more h => cases h with | mk => exact ⟨_, rfl⟩

theorem skipBlanks_cons {c : Char} (h : isBlank c = false) {gap : List Char} (hgap : IsGap gap)
    (rest : List Char) : skipBlanks (gap ++ c :: rest) = c :: rest :=
  skipBlanks_gap hgap (by rintro _ ⟨⟩; exact h)

/-! ### One step of the reader -/

variable {steps : Nat} {gap rest : List Char}

theorem value?_of_natural (n : Nat) (hgap : IsGap gap) (hrest : Stops rest) :
    value? (steps + 1) (gap ++ ((toString n).toList ++ rest)) = some (ofNat n, rest) := by
  obtain ⟨c, ds, hds, hc⟩ := exists_digit n
  have hlist : (toString n).toList = c :: ds := Nat.toList_repr.trans hds
  have hread := lexeme?_toString n hrest
  rw [hlist, List.cons_append] at hread ⊢
  have hdigit : ∀ {d cs}, c :: (ds ++ rest) = d :: cs → d.isDigit = true :=
    fun h => (List.cons.inj h).1 ▸ hc
  rw [value?, skipBlanks_cons (isBlank_of_isDigit hc) hgap]
  split
  next h => exact absurd (hdigit h) (by decide)
  next h => exact absurd (hdigit h) (by decide)
  next h => exact absurd (hdigit h) (by decide)
  next h => exact absurd (hdigit h) (by decide)
  next h => exact absurd (hdigit h) (by decide)
  next h => exact absurd (hdigit h) (by decide)
  next =>
    rw [hread]
    rfl

theorem value?_of_string (s : String) (hgap : IsGap gap) :
    value? (steps + 1) (gap ++ (quote s ++ rest)) = some (string s, rest) := by
  have hquote : quote s ++ rest = '"' :: (s.toList.flatMap escape ++ '"' :: rest) := by
    simp [quote]
  rw [value?, hquote, skipBlanks_cons (by decide) hgap]
  show (text? (s.toList.flatMap escape ++ '"' :: rest)).map _ = _
  rw [text?_quote]
  rfl

/-- Behind an opening bracket stands a closing one or an element. -/
theorem value?_bracket (hgap : IsGap gap) (cs : List Char) :
    value? (steps + 1) (gap ++ '[' :: cs) = match skipBlanks cs with
      | ']' :: rest => some (array [], rest)
      | rest => (elements? steps rest).map fun (es, rest) => (array es, rest) := by
  rw [value?, skipBlanks_cons (by decide) hgap]
  rfl

theorem value?_of_elements {es : List Json} {inner cs : List Char} (hgap : IsGap gap)
    (hinner : IsGap inner) (hcs : SpellsElements es cs)
    (h : elements? steps (cs ++ rest) = some (es, rest)) :
    value? (steps + 1) (gap ++ '[' :: (inner ++ (cs ++ rest))) = some (array es, rest) := by
  obtain ⟨c, ds, rfl, hblank, hclose⟩ := exists_head_elements hcs
  rw [List.cons_append] at h ⊢
  rw [value?_bracket hgap, skipBlanks_cons hblank hinner]
  split
  next heq => exact absurd (List.cons.inj heq).1 hclose
  next =>
    rw [h]
    rfl

/-- Behind an opening brace stands a closing one or a member. -/
theorem value?_brace (hgap : IsGap gap) (cs : List Char) :
    value? (steps + 1) (gap ++ '\x7b' :: cs) = match skipBlanks cs with
      | '\x7d' :: rest => some (object [], rest)
      | rest => (members? steps rest).map fun (ms, rest) => (object ms, rest) := by
  rw [value?, skipBlanks_cons (by decide) hgap]
  rfl

theorem value?_of_members {ms : List (Option String × Json)} {inner cs : List Char}
    (hgap : IsGap gap) (hinner : IsGap inner) (hcs : SpellsMembers ms cs)
    (h : members? steps (cs ++ rest) = some (ms, rest)) :
    value? (steps + 1) (gap ++ '\x7b' :: (inner ++ (cs ++ rest))) = some (object ms, rest) := by
  obtain ⟨ds, rfl⟩ := exists_quote_members hcs
  rw [List.cons_append] at h ⊢
  rw [value?_brace hgap, skipBlanks_cons (by decide) hinner]
  show (members? steps ('"' :: (ds ++ rest))).map _ = _
  rw [h]
  rfl

theorem elements?_step {e : Json} {cs : List Char} (h : value? steps cs = some (e, rest)) :
    elements? (steps + 1) cs = match skipBlanks rest with
      | ',' :: rest => (elements? steps rest).map fun (es, rest) => (e :: es, rest)
      | ']' :: rest => some ([e], rest)
      | _ => none := by
  rw [elements?, h]
  rfl

/-- How a member is read. -/
def ReadsMember (steps : Nat) (cs : List Char) (m : Option String × Json) (rest : List Char) :
    Prop :=
  ∃ front tail inner, cs = '"' :: front ∧ text? front = some (m.1, tail) ∧
    skipBlanks tail = ':' :: inner ∧ value? steps inner = some (m.2, rest)

theorem members?_step {m : Option String × Json} {cs : List Char} (hgap : IsGap gap)
    (h : ReadsMember steps cs m rest) :
    members? (steps + 1) (gap ++ cs) = match skipBlanks rest with
      | ',' :: rest => (members? steps rest).map fun (ms, rest) => (m :: ms, rest)
      | '\x7d' :: rest => some ([m], rest)
      | _ => none := by
  obtain ⟨front, tail, inner, rfl, htext, hcolon, hvalue⟩ := h
  rw [members?, skipBlanks_cons (by decide) hgap]
  show (text? front).bind _ = _
  rw [htext, Option.bind_some]
  simp only [hcolon]
  show (value? steps inner).bind _ = _
  rw [hvalue]
  rfl

/-- One step is left if there is a character to read. -/
theorem exists_steps {steps length : Nat} (hlength : 0 < length) (h : 2 * length ≤ steps) :
    ∃ left, steps = left + 1 ∧ 2 * length ≤ left + 1 :=
  ⟨steps - 1, by omega, by omega⟩

theorem length_pos {j : Json} {cs : List Char} (h : Spells j cs) : 0 < cs.length := by
  obtain ⟨c, ds, rfl, -⟩ := exists_head h
  exact Nat.succ_pos _

/-! ### All steps of the reader -/

mutual

/-- **A document is read from every text that spells it**, whatever stands behind it, as long as no
number goes on there. Twice the characters are steps enough. -/
theorem value?_of_spells {j : Json} {cs : List Char} : Spells j cs →
    ∀ {gap rest : List Char} {steps : Nat}, IsGap gap → Stops rest → 2 * cs.length ≤ steps →
      value? steps (gap ++ (cs ++ rest)) = some (j, rest)
  | .null, gap, rest, steps, hgap, _, hsteps => by
    obtain ⟨left, rfl, -⟩ := exists_steps (by decide) hsteps
    show value? (left + 1) (gap ++ 'n' :: ("ull".toList ++ rest)) = _
    rw [value?, skipBlanks_cons (by decide) hgap]
    rfl
  | .true, gap, rest, steps, hgap, _, hsteps => by
    obtain ⟨left, rfl, -⟩ := exists_steps (by decide) hsteps
    show value? (left + 1) (gap ++ 't' :: ("rue".toList ++ rest)) = _
    rw [value?, skipBlanks_cons (by decide) hgap]
    rfl
  | .false, gap, rest, steps, hgap, _, hsteps => by
    obtain ⟨left, rfl, -⟩ := exists_steps (by decide) hsteps
    show value? (left + 1) (gap ++ 'f' :: ("alse".toList ++ rest)) = _
    rw [value?, skipBlanks_cons (by decide) hgap]
    rfl
  | .nat n, gap, rest, steps, hgap, hstops, hsteps => by
    obtain ⟨left, rfl, -⟩ := exists_steps (length_pos (.nat n)) hsteps
    exact value?_of_natural n hgap hstops
  | .string s, gap, rest, steps, hgap, _, hsteps => by
    obtain ⟨left, rfl, -⟩ := exists_steps (length_pos (.string s)) hsteps
    exact value?_of_string s hgap
  | @Spells.noElements inner hinner, gap, rest, steps, hgap, _, hsteps => by
    obtain ⟨left, rfl, -⟩ := exists_steps (length_pos (.noElements hinner)) hsteps
    rw [List.cons_append, List.append_assoc, List.singleton_append, value?_bracket hgap,
      skipBlanks_cons (by decide) hinner]
    rfl
  | @Spells.elements es inner cs hinner h, gap, rest, steps, hgap, _, hsteps => by
    obtain ⟨left, rfl, hleft⟩ := exists_steps (length_pos (.elements hinner h)) hsteps
    rw [List.length_cons, List.length_append] at hleft
    rw [List.cons_append, List.append_assoc]
    have hread : elements? left ([] ++ (cs ++ rest)) = some (es, rest) :=
      elements?_of_spells h nofun (by omega)
    exact value?_of_elements hgap hinner h hread
  | @Spells.noMembers inner hinner, gap, rest, steps, hgap, _, hsteps => by
    obtain ⟨left, rfl, -⟩ := exists_steps (length_pos (.noMembers hinner)) hsteps
    rw [List.cons_append, List.append_assoc, List.singleton_append, value?_brace hgap,
      skipBlanks_cons (by decide) hinner]
    rfl
  | @Spells.members ms inner cs hinner h, gap, rest, steps, hgap, _, hsteps => by
    obtain ⟨left, rfl, hleft⟩ := exists_steps (length_pos (.members hinner h)) hsteps
    rw [List.length_cons, List.length_append] at hleft
    rw [List.cons_append, List.append_assoc]
    have hread : members? left ([] ++ (cs ++ rest)) = some (ms, rest) :=
      members?_of_spells h nofun (by omega)
    exact value?_of_members hgap hinner h hread

theorem elements?_of_spells {es : List Json} {cs : List Char} : SpellsElements es cs →
    ∀ {gap rest : List Char} {steps : Nat}, IsGap gap → 2 * cs.length ≤ steps →
      elements? steps (gap ++ (cs ++ rest)) = some (es, rest)
  | @SpellsElements.last e cs inner h hinner, gap, rest, steps, hgap, hsteps => by
    rw [List.length_append, List.length_append, List.length_singleton] at hsteps
    have hpos := length_pos h
    obtain ⟨left, rfl, hleft⟩ := exists_steps (Nat.add_pos_left hpos _) hsteps
    have hread : value? left (gap ++ (cs ++ (inner ++ ']' :: rest))) =
        some (e, inner ++ ']' :: rest) :=
      value?_of_spells h hgap (stops_gap hinner (stops_cons (by decide) rest)) (by omega)
    rw [List.append_assoc, List.append_assoc, List.singleton_append, elements?_step hread,
      skipBlanks_cons (by decide) hinner]
    rfl
  | @SpellsElements.more e es cs inner outer ds h hinner houter hmore, gap, rest, steps, hgap,
      hsteps => by
    rw [List.length_append, List.length_append, List.length_cons, List.length_append] at hsteps
    have hpos := length_pos h
    obtain ⟨left, rfl, hleft⟩ := exists_steps (Nat.add_pos_left hpos _) hsteps
    have hread : value? left (gap ++ (cs ++ (inner ++ ',' :: (outer ++ (ds ++ rest))))) =
        some (e, inner ++ ',' :: (outer ++ (ds ++ rest))) :=
      value?_of_spells h hgap (stops_gap hinner (stops_cons (by decide) _)) (by omega)
    rw [List.append_assoc, List.append_assoc, List.cons_append, List.append_assoc,
      elements?_step hread, skipBlanks_cons (by decide) hinner]
    show (elements? left (outer ++ (ds ++ rest))).map _ = _
    rw [elements?_of_spells hmore houter (by omega)]
    rfl

theorem readsMember_of_spells {m : Option String × Json} {cs : List Char} : SpellsMember m cs →
    ∀ {rest : List Char} {steps : Nat}, Stops rest → 2 * cs.length ≤ steps →
      ReadsMember steps (cs ++ rest) m rest
  | @SpellsMember.mk name v inner outer cs hinner houter h, rest, steps, hstops, hsteps => by
    rw [List.length_append, List.length_append, List.length_cons, List.length_append] at hsteps
    refine ⟨name.toList.flatMap escape ++ '"' :: (inner ++ ':' :: (outer ++ (cs ++ rest))),
      inner ++ ':' :: (outer ++ (cs ++ rest)), outer ++ (cs ++ rest), ?_, text?_quote name _,
      skipBlanks_cons (by decide) hinner _, value?_of_spells h houter hstops (by omega)⟩
    simp [quote]

theorem members?_of_spells {ms : List (Option String × Json)} {cs : List Char} :
    SpellsMembers ms cs →
    ∀ {gap rest : List Char} {steps : Nat}, IsGap gap → 2 * cs.length ≤ steps →
      members? steps (gap ++ (cs ++ rest)) = some (ms, rest)
  | @SpellsMembers.last m cs inner h hinner, gap, rest, steps, hgap, hsteps => by
    rw [List.length_append, List.length_append, List.length_singleton] at hsteps
    have hpos : 0 < cs.length + (inner.length + 1) := by omega
    obtain ⟨left, rfl, hleft⟩ := exists_steps hpos hsteps
    have hread : ReadsMember left (cs ++ (inner ++ '\x7d' :: rest)) m (inner ++ '\x7d' :: rest) :=
      readsMember_of_spells h (stops_gap hinner (stops_cons (by decide) rest)) (by omega)
    rw [List.append_assoc, List.append_assoc, List.singleton_append, members?_step hgap hread,
      skipBlanks_cons (by decide) hinner]
    rfl
  | @SpellsMembers.more m ms cs inner outer ds h hinner houter hmore, gap, rest, steps, hgap,
      hsteps => by
    rw [List.length_append, List.length_append, List.length_cons, List.length_append] at hsteps
    have hpos : 0 < cs.length + (inner.length + (outer.length + ds.length + 1)) := by omega
    obtain ⟨left, rfl, hleft⟩ := exists_steps hpos hsteps
    have hread : ReadsMember left (cs ++ (inner ++ ',' :: (outer ++ (ds ++ rest)))) m
        (inner ++ ',' :: (outer ++ (ds ++ rest))) :=
      readsMember_of_spells h (stops_gap hinner (stops_cons (by decide) _)) (by omega)
    rw [List.append_assoc, List.append_assoc, List.cons_append, List.append_assoc,
      members?_step hgap hread, skipBlanks_cons (by decide) hinner]
    show (members? left (outer ++ (ds ++ rest))).map _ = _
    rw [members?_of_spells hmore houter (by omega)]
    rfl

end

end Reader

/-- **A text that spells a document is read as that document**, whatever blanks stand behind it. -/
theorem read?_of_spells {j : Json} {cs gap : List Char} (h : Spells j cs) (hgap : IsGap gap) :
    read? (String.ofList (cs ++ gap)) = some j := by
  have hstops : Reader.Stops gap := List.append_nil gap ▸ Reader.stops_gap hgap nofun
  have hskip : Reader.skipBlanks (gap ++ []) = [] := Reader.skipBlanks_gap hgap nofun
  rw [List.append_nil] at hskip
  have hread : Reader.value? (2 * (cs ++ gap).length + 2) ([] ++ (cs ++ gap)) = some (j, gap) := by
    refine Reader.value?_of_spells h nofun hstops ?_
    rw [List.length_append]
    omega
  rw [List.nil_append] at hread
  rw [read?, String.toList_ofList]
  show (Reader.value? (2 * (cs ++ gap).length + 2) (cs ++ gap)).bind _ = _
  rw [hread]
  show (if (Reader.skipBlanks gap).isEmpty then some j else none) = some j
  rw [hskip]
  rfl

end Json

end MessageRelay
