import MessageRelay.Json

/-!
# Records in JSON

A record is read from an object, whose members may stand in any order beside others that are passed
over, or from an array that holds all fields in their order (`MessageRelay.Json.fields?`). A field
that occurs twice is refused.

A value that has to be kept before its kind is known must be one that can be kept: its numbers lie
in the range of binary floating point and its strings are text (`MessageRelay.Json.isStorable`).
-/

namespace MessageRelay

namespace Json

/-! ### Records -/

/-- The only value under a name: absent if there is none, refused if there are several. -/
def unique? (name : String) (members : List (Option String × Json)) : Option (Option Json) :=
  match members.filter (·.1 == some name) with
  | [] => some none
  | [(_, value)] => some (some value)
  | _ => none

/-- The values of the named fields, in the order of the names. -/
def fields? (names : List String) : Json → Option (List (Option Json))
  | object members =>
    if members.all (·.1.isSome) then names.mapM (unique? · members) else none
  | array elements =>
    if elements.length = names.length then some (elements.map some) else none
  | _ => none

/-- The value of a field that may be absent or `null`. -/
def optional? {α : Type} (read : Json → Option α) : Option Json → Option (Option α)
  | none | some null => some none
  | some j => (read j).map some

/-- A byte string in hexadecimal, or as an array of bytes. -/
def bytes? : Json → Option Bytes
  | string s => Bytes.ofHex? s
  | array es => es.mapM fun e => (e.nat? 256).map UInt8.ofNat
  | _ => none

/-- A byte string of a fixed length. -/
def octets? (n : Nat) (j : Json) : Option (Octets n) :=
  (bytes? j).bind (Octets.ofBytes? n)

/-! ### Values that can be kept -/

/-- Whether a number, as it is written, lies in the range of binary floating point with 64 bits:
whether it rounds to something below two to the power of 1024. -/
def isFinite (lexeme : String) : Bool :=
  let (mantissa, exponent) := lexeme.toList.span fun c => c != 'e' && c != 'E'
  let digits := mantissa.filter Char.isDigit
  let places := ((mantissa.dropWhile (· != '.')).filter Char.isDigit).length
  let significand := digits.foldl (fun n c => n * 10 + (c.toNat - '0'.toNat)) 0
  let size := (exponent.filter Char.isDigit).foldl (fun n c => n * 10 + (c.toNat - '0'.toNat)) 0
  let scale : Int := (if exponent.contains '-' then -(size : Int) else size) - places
  if significand = 0 then true
  else if scale + digits.length < 300 then true
  else if 400 < scale then false
  else
    let limit := (1 <<< 1024) - (1 <<< 970)
    if 0 ≤ scale then significand * Nat.pow 10 scale.toNat < limit
    else significand < limit * Nat.pow 10 (-scale).toNat

mutual

/-- Whether a document can be kept before its kind is known. -/
def isStorable : Json → Bool
  | null | bool _ | string _ => true
  | number lexeme => isFinite lexeme
  | brokenString => false
  | array es => areStorable es
  | object ms => haveStorable ms

/-- Whether all elements can be kept. -/
def areStorable : List Json → Bool
  | [] => true
  | e :: es => isStorable e && areStorable es

/-- Whether all members can be kept. -/
def haveStorable : List (Option String × Json) → Bool
  | [] => true
  | (name, value) :: ms => name.isSome && isStorable value && haveStorable ms

end

end Json

end MessageRelay
