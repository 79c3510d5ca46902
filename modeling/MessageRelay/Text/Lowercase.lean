import MessageRelay.Text.LetterCase

/-!
# Lower case

The full lower-case form of a text (`MessageRelay.Text.lowercase`). It is not made letter by letter
in two places: the dotted capital `İ` becomes two characters, and the capital `Σ` becomes `ς` at the
end of a word and `σ` elsewhere. A sigma ends a word when a letter stands before it and none behind
it, characters that are passed over between letters not counted
(`MessageRelay.Text.isFinal`).
-/

namespace MessageRelay

namespace Text

/-- Whether the first character that is not passed over has a case. -/
def meetsLetter (cs : List Char) : Bool :=
  (cs.dropWhile isCaseIgnorable).head?.any isCased

/-- Whether a letter between these characters ends a word. The characters in front of it are given
nearest first. -/
def isFinal (before after : List Char) : Bool :=
  meetsLetter before && !meetsLetter after

/-- The lower-case form of one character, given its neighbours, those in front nearest first. -/
def lowercaseAt (before : List Char) (c : Char) (after : List Char) : List Char :=
  if c = 'Σ' then [if isFinal before after then 'ς' else 'σ']
  else if c = 'İ' then ['i', '\u0307']
  else [simpleLowercase c]

/-- The lower-case form of the characters behind those in front, nearest first. -/
def lowercaseFrom (before : List Char) : List Char → List Char
  | [] => []
  | c :: after => lowercaseAt before c after ++ lowercaseFrom (c :: before) after

/-- The lower-case form of a list of characters. -/
def lowercaseChars (cs : List Char) : List Char :=
  lowercaseFrom [] cs

/-- The lower-case form of a text. -/
def lowercase (s : String) : String :=
  String.ofList (lowercaseChars s.toList)

end Text

end MessageRelay
