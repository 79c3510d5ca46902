import MessageRelay.Json

/-!
# Reading JSON

A reader takes a document off the front of a list of characters and gives back what is left. The
grammar is the strict one: no comments, no trailing commas, no leading zeros, no control
characters inside strings. `MessageRelay.Json.read?` reads a whole text, blanks around the
document included.

The readers of values are bounded by a number of steps. Twice the number of characters is always
enough, since between two steps that take no character there is one that does.
-/

namespace MessageRelay

namespace Json

namespace Reader

/-- Blanks between tokens. -/
def isBlank (c : Char) : Bool :=
  c = ' ' || c = '\n' || c = '\t' || c = '\r'

/-- What stands behind the blanks. -/
def skipBlanks (cs : List Char) : List Char :=
  cs.dropWhile isBlank

/-! ### Strings -/

/-- A piece of a string: a character that stands for itself, or a unit written in hexadecimal. -/
inductive Piece where
  | char (c : Char)
  | unit (value : Nat)

/-- The value of four hexadecimal digits. -/
def unit? (a b c d : Char) : Option Nat := do
  let a ← Bytes.hexValue? a
  let b ← Bytes.hexValue? b
  let c ← Bytes.hexValue? c
  let d ← Bytes.hexValue? d
  pure (((a * 16 + b) * 16 + c) * 16 + d)

/-- The character that a backslash and one letter stand for. -/
def shortEscape? (c : Char) : Option Char :=
  match c with
  | '"' => some '"'
  | '\\' => some '\\'
  | '/' => some '/'
  | 'b' => some '\x08'
  | 'f' => some '\x0c'
  | 'n' => some '\n'
  | 'r' => some '\r'
  | 't' => some '\t'
  | _ => none

/-- The pieces up to the closing quote, and what stands behind it. The pieces already read are
given in reverse. -/
def pieces? (done : List Piece) : List Char → Option (List Piece × List Char)
  | [] => none
  | '"' :: rest => some (done.reverse, rest)
  | '\\' :: 'u' :: a :: b :: c :: d :: rest =>
    match unit? a b c d with
    | some n => pieces? (.unit n :: done) rest
    | none => none
  | '\\' :: c :: rest =>
    match shortEscape? c with
    | some c => pieces? (.char c :: done) rest
    | none => none
  | c :: rest => if c.toNat < 0x20 || c = '\\' then none else pieces? (.char c :: done) rest

/-- The text of the pieces. Two units that form a surrogate pair are one character; half a pair
gives no text. The characters already found are given in reverse. -/
def assemble? (done : List Char) : List Piece → Option (List Char)
  | [] => some done.reverse
  | .char c :: rest => assemble? (c :: done) rest
  | .unit hi :: .unit lo :: rest =>
    if 0xD800 ≤ hi ∧ hi < 0xDC00 then
      if 0xDC00 ≤ lo ∧ lo < 0xE000 then
        assemble? (Char.ofNat (0x10000 + (hi - 0xD800) * 0x400 + (lo - 0xDC00)) :: done) rest
      else none
    else if 0xDC00 ≤ hi ∧ hi < 0xE000 then none
    else assemble? (Char.ofNat hi :: done) (.unit lo :: rest)
  | .unit n :: rest =>
    if 0xD800 ≤ n ∧ n < 0xE000 then none else assemble? (Char.ofNat n :: done) rest

/-- A string behind its opening quote; its text is absent when the string is broken. -/
def text? (cs : List Char) : Option (Option String × List Char) :=
  (pieces? [] cs).map fun (ps, rest) => ((assemble? [] ps).map String.ofList, rest)

/-! ### Numbers -/

/-- A nonempty run of digits and what stands behind it. -/
def digits? (cs : List Char) : Option (List Char × List Char) :=
  let run := cs.takeWhile Char.isDigit
  if run.isEmpty then none else some (run, cs.dropWhile Char.isDigit)

/-- The part of a number before the point: zero alone, or digits that start with another one. -/
def integerPart? : List Char → Option (List Char × List Char)
  | '0' :: rest => if (rest.head?.any Char.isDigit) then none else some (['0'], rest)
  | cs => digits? cs

/-- The point and the digits behind it, if there is a point. -/
def fractionPart? : List Char → Option (List Char × List Char)
  | '.' :: rest => (digits? rest).map fun (run, rest) => ('.' :: run, rest)
  | cs => some ([], cs)

/-- The exponent, if there is one. -/
def exponentPart? : List Char → Option (List Char × List Char)
  | c :: rest =>
    if c = 'e' ∨ c = 'E' then
      let (sign, rest) := match rest with
        | '+' :: rest => (['+'], rest)
        | '-' :: rest => (['-'], rest)
        | rest => ([], rest)
      (digits? rest).map fun (run, rest) => (c :: sign ++ run, rest)
    else some ([], c :: rest)
  | [] => some ([], [])

/-- A number, as it is written. -/
def lexeme? (cs : List Char) : Option (String × List Char) := do
  let (sign, cs) := match cs with
    | '-' :: rest => (['-'], rest)
    | cs => ([], cs)
  let (whole, cs) ← integerPart? cs
  let (fraction, cs) ← fractionPart? cs
  let (exponent, cs) ← exponentPart? cs
  pure (String.ofList (sign ++ whole ++ fraction ++ exponent), cs)

/-! ### Documents -/

/-- What stands behind a literal, if the literal stands in front. -/
def literal? (word : String) (cs : List Char) : Option (List Char) :=
  if word.toList.isPrefixOf cs then some (cs.drop word.length) else none

mutual

/-- A document, blanks in front of it allowed. -/
def value? : (steps : Nat) → List Char → Option (Json × List Char)
  | 0, _ => none
  | steps + 1, cs =>
    match skipBlanks cs with
    | 'n' :: rest => (literal? "ull" rest).map (null, ·)
    | 't' :: rest => (literal? "rue" rest).map (bool true, ·)
    | 'f' :: rest => (literal? "alse" rest).map (bool false, ·)
    | '"' :: rest => (text? rest).map fun
      | (some s, rest) => (string s, rest)
      | (none, rest) => (brokenString, rest)
    | '[' :: rest =>
      match skipBlanks rest with
      | ']' :: rest => some (array [], rest)
      | rest => (elements? steps rest).map fun (es, rest) => (array es, rest)
    | '\x7b' :: rest =>
      match skipBlanks rest with
      | '\x7d' :: rest => some (object [], rest)
      | rest => (members? steps rest).map fun (ms, rest) => (object ms, rest)
    | cs => (lexeme? cs).map fun (s, rest) => (number s, rest)

/-- The elements of an array up to its closing bracket. -/
def elements? : (steps : Nat) → List Char → Option (List Json × List Char)
  | 0, _ => none
  | steps + 1, cs =>
    (value? steps cs).bind fun (e, rest) =>
      match skipBlanks rest with
      | ',' :: rest => (elements? steps rest).map fun (es, rest) => (e :: es, rest)
      | ']' :: rest => some ([e], rest)
      | _ => none

/-- The members of an object up to its closing brace. -/
def members? : (steps : Nat) → List Char → Option (List (Option String × Json) × List Char)
  | 0, _ => none
  | steps + 1, cs =>
    match skipBlanks cs with
    | '"' :: rest =>
      (text? rest).bind fun (name, rest) =>
        match skipBlanks rest with
        | ':' :: rest =>
          (value? steps rest).bind fun (v, rest) =>
            match skipBlanks rest with
            | ',' :: rest => (members? steps rest).map fun (ms, rest) => ((name, v) :: ms, rest)
            | '\x7d' :: rest => some ([(name, v)], rest)
            | _ => none
        | _ => none
    | _ => none

end

end Reader

/-- Reads a whole text as one document. -/
def read? (s : String) : Option Json :=
  let cs := s.toList
  (Reader.value? (2 * cs.length + 2) cs).bind fun (j, rest) =>
    if (Reader.skipBlanks rest).isEmpty then some j else none

end Json

end MessageRelay
