import MessageRelay.Proofs.Text

/-!
# Lower case up to the form of sigma

Lower-casing is not made character by character: what becomes of a capital sigma depends on the
letters next to it. But that is all that depends on them. If the two small sigmas count as one
character, the lower-case form of a text is put together from the forms of its characters
(`MessageRelay.Text.foldedChars_eq`), so a part of a text has its form in that of the whole.

Words without a sigma do not see the difference: they occur in the lower-case form of a text if and
only if they occur in the form with one sigma (`MessageRelay.Text.infix_lowercaseChars_iff`).
-/

namespace MessageRelay

namespace Text

/-! ### One sigma -/

/-- The character, the sigma of the end of a word written as any other small sigma. -/
def plainSigma (c : Char) : Char :=
  if c = 'ς' then 'σ' else c

/-- What a character becomes, whatever stands next to it. -/
def foldedChar (c : Char) : List Char :=
  (lowercaseAt [] c []).map plainSigma

/-- The lower-case form of a text with one small sigma. -/
def foldedChars (cs : List Char) : List Char :=
  (lowercaseChars cs).map plainSigma

theorem map_plainSigma_lowercaseAt (before : List Char) (c : Char) (after : List Char) :
    (lowercaseAt before c after).map plainSigma = foldedChar c := by
  by_cases hsigma : c = 'Σ'
  · -- either small sigma becomes the same one
    have hone : ∀ b : Bool, [if b then 'ς' else 'σ'].map plainSigma = ['σ'] := by decide
    rw [foldedChar, lowercaseAt, if_pos hsigma, lowercaseAt, if_pos hsigma, hone, hone]
  · rw [foldedChar, lowercaseAt, if_neg hsigma, lowercaseAt, if_neg hsigma]

/-- **With one small sigma a text is lower-cased character by character.** -/
theorem foldedChars_eq (cs : List Char) : foldedChars cs = cs.flatMap foldedChar := by
  have hfrom : ∀ before, (lowercaseFrom before cs).map plainSigma = cs.flatMap foldedChar := by
    induction cs with
    | nil => exact fun _ => rfl
    | cons c cs ih =>
      intro before
      rw [lowercaseFrom, List.map_append, map_plainSigma_lowercaseAt, ih, List.flatMap_cons]
  exact hfrom []

theorem foldedChars_append (cs ds : List Char) :
    foldedChars (cs ++ ds) = foldedChars cs ++ foldedChars ds := by
  rw [foldedChars_eq, foldedChars_eq, foldedChars_eq, List.flatMap_append]

/-! ### ASCII letters -/

/-- Two texts differ at most in the case of ASCII letters. -/
def SameLetters (s t : String) : Prop :=
  s.toList.map Char.toLower = t.toList.map Char.toLower

theorem toLower_of_not_ascii {c : Char} (h : ¬ c.toNat < 0x80) : c.toLower = c := by
  refine Char.toNat_inj.mp ?_
  rw [toNat_toLower, if_neg (by omega)]

theorem toLower_toLower (c : Char) : c.toLower.toLower = c.toLower := by
  refine Char.toNat_inj.mp ?_
  rw [toNat_toLower, toNat_toLower]
  grind

/-- The case of an ASCII letter makes no difference. -/
theorem foldedChar_toLower (c : Char) : foldedChar c.toLower = foldedChar c := by
  by_cases h : c.toNat < 0x80
  · have hlower : c.toLower.toNat < 0x80 := by
      rw [toNat_toLower]
      split <;> omega
    rw [foldedChar, foldedChar, lowercaseAt_of_ascii h, lowercaseAt_of_ascii hlower,
      toLower_toLower]
  · rw [toLower_of_not_ascii h]

/-- **The case of ASCII letters makes no difference.** -/
theorem SameLetters.foldedChars_eq {s t : String} (h : SameLetters s t) :
    foldedChars s.toList = foldedChars t.toList := by
  have hlower : ∀ cs : List Char, foldedChars (cs.map Char.toLower) = foldedChars cs := by
    intro cs
    rw [Text.foldedChars_eq, Text.foldedChars_eq, List.flatMap_map]
    exact congrArg (fun f => cs.flatMap f) (funext foldedChar_toLower)
  rw [← hlower s.toList, h, hlower]

/-! ### Words -/

/-- **A word of ASCII characters** occurs in the lower-case form of a text if and only if it occurs
in the form with one small sigma. -/
theorem infix_lowercaseChars_iff {word cs : List Char} (hword : IsAscii word) :
    word <:+: lowercaseChars cs ↔ word <:+: foldedChars cs := by
  -- both sigmas lie beyond ASCII, so what becomes a character of the word was that character
  have hkeep : ∀ c, plainSigma c ∈ word → plainSigma c = c := by
    intro c hc
    by_cases hfinal : c = 'ς'
    · rw [plainSigma, if_pos hfinal] at hc
      exact absurd (hword 'σ' hc) (by decide)
    · rw [plainSigma, if_neg hfinal]
  have hself : ∀ {ds : List Char}, ds.map plainSigma = word → ds = word := by
    intro ds hds
    rw [← hds]
    refine ((List.map_congr_left fun c hc => ?_).trans (List.map_id ds)).symm
    exact hkeep c (hds ▸ List.mem_map_of_mem hc)
  constructor
  · intro h
    have hmap : word.map plainSigma = word := by
      refine (List.map_congr_left fun c hc => ?_).trans (List.map_id word)
      rw [plainSigma, if_neg]
      · rfl
      · rintro rfl
        exact absurd (hword 'ς' hc) (by decide)
    rw [foldedChars, ← hmap]
    exact h.map plainSigma
  · rintro ⟨front, back, heq⟩
    obtain ⟨cs₁, cs₂, hsplit, hfront, -⟩ := List.map_eq_append_iff.mp heq.symm
    obtain ⟨ds₁, ds₂, rfl, -, hds⟩ := List.map_eq_append_iff.mp hfront
    exact ⟨ds₁, cs₂, by rw [hsplit, hself hds]⟩

end Text

end MessageRelay
