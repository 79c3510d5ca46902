import MessageRelay.Json

/-!
# Writing JSON

The compact form (`MessageRelay.Json.write`) has no blanks. The pretty form
(`MessageRelay.Json.writePretty`) puts each element and each member on a line of its own, two
blanks further in than the bracket around it, and one blank behind the colon; an empty array is
`[]` and an empty object is two braces. Both write strings in one way: the quote, the backslash
and the control characters are escaped, all else stands as it is
(`MessageRelay.Json.escape`).
-/

namespace MessageRelay

namespace Json

/-! ### Strings -/

/-- A character inside a string. -/
def escape (c : Char) : List Char :=
  if c = '"' then ['\\', '"']
  else if c = '\\' then ['\\', '\\']
  else if c = '\x08' then ['\\', 'b']
  else if c = '\x09' then ['\\', 't']
  else if c = '\x0a' then ['\\', 'n']
  else if c = '\x0c' then ['\\', 'f']
  else if c = '\x0d' then ['\\', 'r']
  else if c.toNat < 0x20 then '\\' :: 'u' :: '0' :: '0' :: Bytes.hexPair (UInt8.ofNat c.toNat)
  else [c]

/-- A string in quotes. -/
def quote (s : String) : List Char :=
  '"' :: s.toList.flatMap escape ++ ['"']

/-- The name of a member. A broken name is written as the replacement character. -/
def nameChars (name : Option String) : List Char :=
  quote (name.getD "\ufffd")

/-! ### The compact form -/

mutual

/-- The characters of a document. -/
def chars : Json → List Char
  | null => "null".toList
  | bool true => "true".toList
  | bool false => "false".toList
  | number lexeme => lexeme.toList
  | string s => quote s
  | brokenString => quote "\ufffd"
  | array [] => ['[', ']']
  | array (e :: es) => '[' :: chars e ++ elementChars es ++ [']']
  | object [] => ['\x7b', '\x7d']
  | object ((name, value) :: ms) =>
    '\x7b' :: nameChars name ++ ':' :: chars value ++ memberChars ms ++ ['\x7d']

/-- The characters of further elements, each behind its comma. -/
def elementChars : List Json → List Char
  | [] => []
  | e :: es => ',' :: chars e ++ elementChars es

/-- The characters of further members, each behind its comma. -/
def memberChars : List (Option String × Json) → List Char
  | [] => []
  | (name, value) :: ms => ',' :: nameChars name ++ ':' :: chars value ++ memberChars ms

end

/-- A document without blanks. -/
def write (j : Json) : String :=
  String.ofList j.chars

/-! ### The pretty form -/

/-- The start of a line `depth` levels in. -/
def newLine (depth : Nat) : List Char :=
  '\n' :: List.replicate (2 * depth) ' '

mutual

/-- The characters of a document whose first character stands `depth` levels in. -/
def prettyChars (depth : Nat) : Json → List Char
  | array (e :: es) =>
    '[' :: newLine (depth + 1) ++ prettyChars (depth + 1) e ++ prettyElements (depth + 1) es
      ++ newLine depth ++ [']']
  | object ((name, value) :: ms) =>
    '\x7b' :: newLine (depth + 1) ++ nameChars name ++ ':' :: ' ' :: prettyChars (depth + 1) value
      ++ prettyMembers (depth + 1) ms ++ newLine depth ++ ['\x7d']
  | j => chars j

/-- The characters of further elements, each on a line of its own. -/
def prettyElements (depth : Nat) : List Json → List Char
  | [] => []
  | e :: es => ',' :: newLine depth ++ prettyChars depth e ++ prettyElements depth es

/-- The characters of further members, each on a line of its own. -/
def prettyMembers (depth : Nat) : List (Option String × Json) → List Char
  | [] => []
  | (name, value) :: ms =>
    ',' :: newLine depth ++ nameChars name ++ ':' :: ' ' :: prettyChars depth value
      ++ prettyMembers depth ms

end

/-- A document with one element or member per line. -/
def writePretty (j : Json) : String :=
  String.ofList (j.prettyChars 0)

end Json

end MessageRelay
