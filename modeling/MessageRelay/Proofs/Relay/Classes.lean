import MessageRelay.Proofs.Relay.Retried
import MessageRelay.Proofs.Text.Folding
import MessageRelay.Rpc

/-!
# Errors inside other texts

What a node says about an error reaches the relay inside longer texts: the client puts a code in
front of it and data behind it. The class of an error survives that. Classes are ordered by what
they forbid, permanent errors first, and a text has at least the class of each of its parts
(`MessageRelay.ErrorClass.ofText_monotone`). So what is permanent stays permanent, and no wrapping
makes an error look as if it might clear that would not.

This would be plain if texts were lower-cased character by character. They are not, but the words
that mark the classes are ASCII, and to those the difference is invisible
(`MessageRelay.Text.infix_lowercaseChars_iff`).
-/

namespace MessageRelay

namespace ErrorClass

variable {c d : ErrorClass} {s t : String}

/-! ### The order of the classes -/

/-- How much a class counts. -/
def rank : ErrorClass → Nat
  | permanent => 4
  | underpriced => 3
  | nonceConflict => 2
  | transient => 1
  | unknown => 0

instance : LE ErrorClass := ⟨fun c d => c.rank ≤ d.rank⟩

instance (c d : ErrorClass) : Decidable (c ≤ d) := inferInstanceAs (Decidable (c.rank ≤ d.rank))

/-- The classes above a class are those that count more. -/
theorem not_le_iff_mem_above : ¬ c ≤ d ↔ c ∈ d.above := by
  cases c <;> cases d <;> decide

theorem unknown_le (c : ErrorClass) : unknown ≤ c := Nat.zero_le c.rank

theorem eq_unknown_of_le (h : c ≤ unknown) : c = unknown := by
  cases c with
  | unknown => rfl
  | transient | underpriced | nonceConflict | permanent => exact absurd h (by decide)

theorem eq_permanent_of_le (h : permanent ≤ c) : c = permanent := by
  cases c with
  | permanent => rfl
  | transient | underpriced | nonceConflict | unknown => exact absurd h (by decide)

/-! ### Words -/

/-- The words are ASCII. -/
theorem isAscii_of_mem_markers {word : String} (h : word ∈ c.markers) :
    Text.IsAscii word.toList := by
  have hall : c.markers.all (fun word => word.toList.all (·.toNat < 0x80)) = true := by
    cases c <;> decide
  intro char hchar
  exact of_decide_eq_true (List.all_eq_true.mp (List.all_eq_true.mp hall word h) char hchar)

/-- What a text mentions can be seen from its form with one small sigma. -/
theorem mentions_iff_folded :
    c.Mentions s ↔ ∃ word ∈ c.markers, word.toList <:+: Text.foldedChars s.toList := by
  constructor
  · rintro ⟨word, hword, hinfix⟩
    exact ⟨word, hword, (Text.infix_lowercaseChars_iff (isAscii_of_mem_markers hword)).mp hinfix⟩
  · rintro ⟨word, hword, hinfix⟩
    exact ⟨word, hword, (Text.infix_lowercaseChars_iff (isAscii_of_mem_markers hword)).mpr hinfix⟩

/-- **A text mentions what a part of it mentions.** -/
theorem Mentions.wrapped (h : c.Mentions s) (front back : String) :
    c.Mentions (front ++ s ++ back) := by
  obtain ⟨word, hword, hinfix⟩ := mentions_iff_folded.mp h
  refine mentions_iff_folded.mpr ⟨word, hword, ?_⟩
  rw [String.toList_append, String.toList_append, Text.foldedChars_append, Text.foldedChars_append]
  exact hinfix.trans (List.infix_append _ _ _)

/-- The case of ASCII letters does not matter. -/
theorem mentions_congr (h : Text.SameLetters s t) : c.Mentions s ↔ c.Mentions t := by
  rw [mentions_iff_folded, mentions_iff_folded, h.foldedChars_eq]

/-! ### Classes -/

/-- **A text is at least of a class** if it mentions a word of that class or of one above. -/
theorem le_ofText_iff : c ≤ ofText s ↔ c = unknown ∨ ∃ d, c ≤ d ∧ d.Mentions s := by
  obtain ⟨hown, habove⟩ := ofText_eq_iff.mp (rfl : ofText s = ofText s)
  constructor
  · intro hle
    by_cases hunknown : c = unknown
    · exact Or.inl hunknown
    · exact Or.inr ⟨ofText s, hle, hown fun heq => hunknown (eq_unknown_of_le (heq ▸ hle))⟩
  · rintro (rfl | ⟨d, hle, hmentions⟩)
    · exact unknown_le _
    · have hd : d ≤ ofText s := by
        by_contra hnot
        exact habove d (not_le_iff_mem_above.mp hnot) hmentions
      exact Nat.le_trans hle hd

/-- Of texts one of which mentions all that the other does, it has at least the class. -/
theorem ofText_le_of_mentions (h : ∀ c : ErrorClass, c.Mentions s → c.Mentions t) :
    ofText s ≤ ofText t := by
  rcases le_ofText_iff.mp (Nat.le_refl (ofText s).rank) with hunknown | ⟨d, hle, hmentions⟩
  · rw [hunknown]
    exact unknown_le _
  · exact le_ofText_iff.mpr (Or.inr ⟨d, hle, h d hmentions⟩)

theorem ofText_le_wrapped (front s back : String) : ofText s ≤ ofText (front ++ s ++ back) :=
  ofText_le_of_mentions fun _ h => h.wrapped front back

/-- **The class of a text is at least that of each of its parts**, and the case of ASCII letters
does not matter. So what is permanent stays permanent inside other texts, no error becomes one that
is retried, and what a node says about an error is worth the same in the words of the client. -/
theorem ofText_monotone :
    (∀ front s back, ofText s ≤ ofText (front ++ s ++ back)) ∧
    (∀ s t, Text.SameLetters s t → ofText s = ofText t) ∧
    (∀ front s back, permanent.Mentions s → ofText (front ++ s ++ back) = permanent) ∧
    (∀ front s back, (ofText s).isRetryable = false →
      (ofText (front ++ s ++ back)).isRetryable = false) ∧
    ∀ report : Rpc.ErrorReport, ofText report.message ≤ of (.rpc report.text) := by
  refine ⟨ofText_le_wrapped, ?letters, ?permanent, ?retried, ?report⟩
  case letters =>
    intro s t h
    symm
    rw [ofText_eq_iff]
    obtain ⟨hown, habove⟩ := ofText_eq_iff.mp (rfl : ofText s = ofText s)
    exact ⟨fun hne => (mentions_congr h).mp (hown hne),
      fun d hd hmentions => habove d hd ((mentions_congr h).mpr hmentions)⟩
  case permanent =>
    intro front s back h
    have hle : permanent ≤ permanent := Nat.le_refl _
    exact eq_permanent_of_le (le_ofText_iff.mpr (Or.inr ⟨permanent, hle, h.wrapped front back⟩))
  case retried =>
    intro front s back h
    have hpermanent : ofText s = permanent :=
      not_not.mp fun hne => absurd (isRetryable_iff.mpr hne) (Bool.eq_false_iff.mp h)
    have hle := ofText_le_wrapped front s back
    rw [hpermanent] at hle
    rw [eq_permanent_of_le hle]
    rfl
  case report =>
    intro report
    exact ofText_le_wrapped _ _ _

/-- A word in mixed case between two capital sigmas, of which the second one ends a word. -/
theorem ofText_monotone_reverted :
    Text.SameLetters "reverted" "ReVERTED" ∧ ofText "reverted" = ofText "ReVERTED" ∧
      permanent.Mentions "ReVERTED" ∧ (ofText "ReVERTED").isRetryable = false ∧
      ofText ("Σ: " ++ "ReVERTED" ++ "ΑΣ") = permanent ∧
      (ofText ("Σ: " ++ "ReVERTED" ++ "ΑΣ")).isRetryable = false := by
  obtain ⟨-, hletters, hpermanent, hretried, -⟩ := ofText_monotone
  have hclass : ofText "ReVERTED" = permanent := by decide
  have hmentions : permanent.Mentions "ReVERTED" := (ofText_eq_iff.mp hclass).1 (by decide)
  have hsame : Text.SameLetters "reverted" "ReVERTED" := by
    rw [Text.SameLetters]
    decide
  have hstuck : (ofText "ReVERTED").isRetryable = false := by rw [hclass]; rfl
  exact ⟨hsame, hletters _ _ hsame, hmentions, hstuck, hpermanent _ _ _ hmentions,
    hretried _ _ _ hstuck⟩

end ErrorClass

end MessageRelay
