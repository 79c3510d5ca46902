import MessageRelay.Bytes
import MessageRelay.Policy

/-!
# Values of settings

How the text of a setting is read: as a number (`MessageRelay.Setting.number`), as a truth value
(`MessageRelay.Setting.flag`), as an address (`MessageRelay.Setting.address`) or as a failure policy
(`MessageRelay.Setting.policy`), and what can be wrong with it.
-/

namespace MessageRelay

/-- What is wrong with the text of a setting. -/
inductive ValueError where
  /-- It is no number. -/
  | notNumber
  /-- It is a number beyond the setting's range. -/
  | tooLarge
  /-- It is no truth value. -/
  | notFlag
  /-- It names no failure policy; the name is given. -/
  | unknownPolicy (text : String)
  /-- The digits do not come in pairs. -/
  | oddDigits
  /-- There are too few digits, or too many. -/
  | wrongLength
  /-- A byte is no digit; its place is counted from zero, behind the marker. -/
  | badDigit (byte : UInt8) (position : Nat)
deriving DecidableEq, Inhabited

namespace ValueError

/-- A byte as a character in single quotes, where those that are not seen are written as numbers. -/
def quotedByte (b : UInt8) : String :=
  let n := b.toNat
  let c := Char.ofNat n
  let inner :=
    if n = 0 then "\\0"
    else if c = '\t' then "\\t"
    else if c = '\n' then "\\n"
    else if c = '\r' then "\\r"
    else if c = '\'' then "\\'"
    else if c = '\\' then "\\\\"
    else if n < 0x20 || (0x7f ≤ n && n ≤ 0xa0) || n == 0xad then
      "\\u\x7b" ++ String.ofList (Nat.toDigits 16 n) ++ "\x7d"
    else c.toString
  "'" ++ inner ++ "'"

/-- The fault in words. -/
def message : ValueError → String
  | notNumber => "invalid digit found in string"
  | tooLarge => "number too large to fit in target type"
  | notFlag => "provided string was not `true` or `false`"
  | unknownPolicy text => FailurePolicy.unknownMessage text
  | oddDigits => "odd number of digits"
  | wrongLength => "invalid string length"
  | badDigit b position =>
    "invalid character " ++ quotedByte b ++ " at position " ++ toString position

end ValueError

namespace Setting

/-- Reads the digits of a number below a bound, behind digits that write `n`. -/
def digits (bound n : Nat) : List Char → Except ValueError Nat
  | [] => .ok n
  | c :: cs =>
    if c.isDigit then
      let n := 10 * n + (c.toNat - 48)
      if n < bound then digits bound n cs else .error .tooLarge
    else .error .notNumber

/-- Reads a number below a bound, written in decimal digits; a plus sign may stand in front. -/
def number (bound : Nat) (s : String) : Except ValueError Nat :=
  match s.toList with
  | [] | ['+'] => .error .notNumber
  | '+' :: cs | cs => digits bound 0 cs

/-- Reads a truth value. -/
def flag (s : String) : Except ValueError Bool :=
  if s = "true" then .ok true
  else if s = "false" then .ok false
  else .error .notFlag

/-- Reads an address from its hexadecimal form; the marker `0x` may be missing. -/
def address (s : String) : Except ValueError Address :=
  let bytes := Bytes.ofText (String.ofList (Bytes.dropMarker s.toList))
  let isDigit := fun (b : UInt8) => (Bytes.hexValue? (Char.ofNat b.toNat)).isSome
  if bytes.length % 2 = 1 then .error .oddDigits
  else if bytes.length ≠ 40 then .error .wrongLength
  else
    match bytes.zipIdx.find? fun (b, _) => !isDigit b with
    | some (b, position) => .error (.badDigit b position)
    | none =>
      match Octets.ofHex? 20 s with
      | some a => .ok a
      | none => .error .wrongLength

/-- Reads a failure policy. -/
def policy (s : String) : Except ValueError FailurePolicy :=
  (FailurePolicy.read s).mapError .unknownPolicy

end Setting

end MessageRelay
