import MessageRelay.Bytes

/-!
# JSON documents

A document (`MessageRelay.Json`) keeps what its text says and no more: numbers as they are
written, so that `1`, `1.0` and `1e0` stay apart, and the members of an object in order, repeated
names included. A string may hold an escape that is half of a surrogate pair without its other
half. Such a string denotes no text, yet it may stand where nobody reads it, so it has a
constructor of its own.

The reader is `MessageRelay.Json.read?`, the writers are `MessageRelay.Json.write` and
`MessageRelay.Json.writePretty`.
-/

namespace MessageRelay

/-- A JSON document. -/
inductive Json where
  /-- The literal `null`. -/
  | null
  /-- The literals `true` and `false`. -/
  | bool (value : Bool)
  /-- A number, as it is written. -/
  | number (lexeme : String)
  /-- A string. -/
  | string (text : String)
  /-- A string with half a surrogate pair in it. -/
  | brokenString
  /-- A sequence. -/
  | array (elements : List Json)
  /-- Names and values, in order; a name is absent when it is a broken string. -/
  | object (members : List (Option String × Json))
deriving Inhabited, BEq

namespace Json

/-! ### Making documents -/

/-- An object with the given members. -/
def ofMembers (members : List (String × Json)) : Json :=
  object (members.map fun (name, value) => (some name, value))

/-- A natural number. -/
def ofNat (n : Nat) : Json :=
  number (toString n)

/-- `null` for an absent value. -/
def ofOption {α : Type} (f : α → Json) : Option α → Json
  | none => null
  | some a => f a

/-! ### Looking into documents -/

/-- The natural number that a document writes in plain digits, if it lies below a bound. A sign,
a point or an exponent makes a number another kind of number. -/
def nat? (bound : Nat) : Json → Option Nat
  | number lexeme =>
    let digits := lexeme.toList
    if digits.all Char.isDigit then
      let n := digits.foldl (fun n c => n * 10 + (c.toNat - '0'.toNat)) 0
      if n < bound then some n else none
    else none
  | _ => none

/-- The integer that a document writes in plain digits, if it lies from minus a bound up to the
bound, the upper end excluded. A negative zero is no integer. -/
def int? (bound : Nat) : Json → Option Int
  | number lexeme =>
    match lexeme.toList with
    | '-' :: digits =>
      match nat? (bound + 1) (number (String.ofList digits)) with
      | some (n + 1) => some (Int.negSucc n)
      | _ => none
    | _ => (nat? bound (number lexeme)).map Int.ofNat
  | _ => none

/-- The binary floating-point number of 64 bits nearest to the number that a document writes. -/
def float? : Json → Option Float
  | number lexeme =>
    let (mantissa, exponent) := lexeme.toList.span fun c => c != 'e' && c != 'E'
    let value := fun (cs : List Char) =>
      (cs.filter Char.isDigit).foldl (fun n c => n * 10 + (c.toNat - '0'.toNat)) 0
    let places := ((mantissa.dropWhile (· != '.')).filter Char.isDigit).length
    let size := value exponent
    let scale : Int := (if exponent.contains '-' then -(size : Int) else size) - places
    let x := Float.ofScientific (value mantissa) (scale < 0) scale.natAbs
    some (if mantissa.head? == some '-' then -x else x)
  | _ => none

/-- The text of a string. -/
def text? : Json → Option String
  | string s => some s
  | _ => none

/-- The elements of an array. -/
def elements? : Json → Option (List Json)
  | array es => some es
  | _ => none

/-- The members of an object all of whose names are text. -/
def members? : Json → Option (List (String × Json))
  | object ms => ms.mapM fun (name, value) => name.map (·, value)
  | _ => none

end Json

end MessageRelay
