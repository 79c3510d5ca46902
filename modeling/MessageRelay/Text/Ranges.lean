/-!
# Tables of code points

A property of characters is a set of code points, and the sets of the character database are few
ranges (`MessageRelay.Text.Ranges`). In the tables of this library a range is written as its first
and its last code point, `first-last` in hexadecimal, or as one code point, and blanks and line ends
stand between two of them. The readers here are for those tables alone: they take every digit as it
comes.
-/

namespace MessageRelay

namespace Text

/-! ### Reading tables -/

/-- The number that hexadecimal digits write. -/
def hexNumber (cs : List Char) : Nat :=
  cs.foldl (fun n c => 16 * n + (c.toNat - (if c.isDigit then 48 else 87))) 0

/-- The parts of a list between the elements that separate them, empty ones included. -/
def splitAt {α : Type} (separates : α → Bool) (cs : List α) : List (List α) :=
  cs.foldr (fun c parts =>
    if separates c then [] :: parts
    else match parts with
      | part :: parts => (c :: part) :: parts
      | [] => [[c]]) [[]]

/-- The words of a table. -/
def words (s : String) : List (List Char) :=
  (splitAt (fun c => c == ' ' || c == '\n') s.toList).filter (!·.isEmpty)

/-! ### Ranges -/

/-- Ranges of code points, both ends included. -/
abbrev Ranges := List (Nat × Nat)

namespace Ranges

/-- Reads one range. -/
def ofWord (word : List Char) : Nat × Nat :=
  match splitAt (· == '-') word with
  | [first, last] => (hexNumber first, hexNumber last)
  | _ => (hexNumber word, hexNumber word)

/-- Reads ranges from their table. -/
def ofTable (table : String) : Ranges :=
  (words table).map ofWord

/-- Whether a code point lies in one of the ranges. -/
def contains (ranges : Ranges) (n : Nat) : Bool :=
  ranges.any fun (first, last) => first ≤ n && n ≤ last

end Ranges

end Text

end MessageRelay
