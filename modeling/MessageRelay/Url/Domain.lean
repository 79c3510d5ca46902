import MessageRelay.Text.Composition
import MessageRelay.Text.Direction
import MessageRelay.Text.Joining
import MessageRelay.Url.Domain.Mapping
import MessageRelay.Url.Punycode

/-!
# Domain names

The form of a domain name that is sent over the network (`MessageRelay.Url.Domain.toAscii?`), as
Unicode Technical Standard 46 has it, without transitional processing and without limits on hyphens
and lengths: the name is mapped and composed, split into labels at its points, each label is
checked, and one with characters beyond ASCII is written in Punycode behind `xn--`. A label that
comes in that form is read first and has to be one that could have been written so.

A label does not start with a mark (`MessageRelay.Url.Domain.startsWithMark`), it has joiners only
where they change how letters join (`MessageRelay.Url.Domain.joinersFit`), and in a name that has
letters written from right to left no label mixes directions
(`MessageRelay.Url.Domain.directionsFit`).
-/

namespace MessageRelay

namespace Url.Domain

open Text

/-! ### Conditions on labels -/

/-- Whether a label starts with a mark. -/
def startsWithMark (label : List Char) : Bool :=
  label.head?.any isMark

/-- Whether the characters in front, nearest first, have a letter that joins what is behind it. -/
def joinsBehind (before : List Char) : Bool :=
  let letter := (before.dropWhile (Joining.of · = .transparent)).head?
  letter.any fun c => Joining.of c = .left ∨ Joining.of c = .dual

/-- Whether the characters behind have a letter that joins what is in front of it. -/
def joinsInFront (after : List Char) : Bool :=
  let letter := (after.dropWhile (Joining.of · = .transparent)).head?
  letter.any fun c => Joining.of c = .right ∨ Joining.of c = .dual

/-- Whether each joiner behind the characters in front, nearest first, follows a virama or is a
non-joiner between letters that would join. -/
def joinersFit (before : List Char) : List Char → Bool
  | [] => true
  | c :: after =>
    (if c = '\u200d' then before.head?.any isVirama
     else if c = '\u200c' then
       before.head?.any isVirama || (joinsBehind before && joinsInFront after)
     else true)
    && joinersFit (c :: before) after

/-- Whether a label is written from right to left at least in part. -/
def isRightToLeft (label : List Char) : Bool :=
  label.any fun c => Direction.of c ∈ [.rightToLeft, .arabicLetter, .arabicNumber]

/-- Whether a label keeps to one direction. -/
def directionsFit (label : List Char) : Bool :=
  let ds := label.map Direction.of
  let last := (ds.reverse.dropWhile (· = .mark)).head?
  let common : List Direction :=
    [.europeanNumber, .numberSign, .numberSeparator, .numberUnit, .neutral, .boundary, .mark]
  match ds with
  | [] => true
  | .leftToRight :: _ =>
    ds.all (fun d => d ∈ Direction.leftToRight :: common)
      && last.any fun d => d ∈ [.leftToRight, .europeanNumber]
  | first :: _ =>
    (first = .rightToLeft || first = .arabicLetter)
      && ds.all (fun d => d ∈ [.rightToLeft, .arabicLetter, .arabicNumber] ++ common)
      && last.any (fun d => d ∈ [.rightToLeft, .arabicLetter, .europeanNumber, .arabicNumber])
      && !(ds.contains .europeanNumber && ds.contains .arabicNumber)

/-- Whether a character of ASCII has no place in the host of a URL. -/
def isForbidden (c : Char) : Bool :=
  c.toNat ≤ 0x20 || c.toNat == 0x7f || "%#/:<>?@[\\]^|".toList.contains c

/-! ### Labels -/

/-- The longest label that is written in Punycode, in characters. -/
def maxEncoded : Nat := 1000

/-- The longest Punycode that is read, in characters. -/
def maxDecoded : Nat := 2000

/-- What a label says: a label in Punycode is read, and has to hold a character beyond ASCII and
nothing that the mapping would change. -/
def meaning? (label : List Char) : Option (List Char) :=
  match label with
  | 'x' :: 'n' :: '-' :: '-' :: encoded => do
    if maxDecoded < encoded.length then none
    else
      let text ← Punycode.decode? encoded
      if text.any (0x80 ≤ ·.toNat) && text.all isPlain && compose text == text then some text
      else none
  | _ => some label

/-- The ASCII form of a label. -/
def encode? (text : List Char) : Option (List Char) :=
  if text.all (·.toNat < 0x80) then some text
  else if maxEncoded < text.length then none
  else some ("xn--".toList ++ Punycode.encode text)

/-! ### Names -/

/-- The labels of a name, mapped and composed, in what they say. -/
def labels? (name : List Char) : Option (List (List Char)) := do
  let mapped ← name.mapM mapped?
  (splitAt (· == '.') (compose mapped.flatten)).mapM meaning?

/-- The form of a domain name that is sent over the network. -/
def toAscii? (name : List Char) : Option (List Char) := do
  let labels ← labels? name
  let fits := fun label => !startsWithMark label && joinersFit [] label && !label.any isForbidden
  if labels.all fits && (!labels.any isRightToLeft || labels.all directionsFit) then
    let encoded ← labels.mapM encode?
    some (encoded.intersperse ['.']).flatten
  else none

end Url.Domain

end MessageRelay
