import MessageRelay.Json
import MessageRelay.Text.Ranges

/-!
# Quantities

Numbers as nodes write them: in hexadecimal behind `0x`, in octal behind `0o`, in binary behind
`0b`, else in decimal, where underscores are passed over and the digits may be missing
(`MessageRelay.Rpc.quantity?`).
-/

namespace MessageRelay

namespace Rpc

/-- The base of a number, and its digits. -/
def splitBase : List Char → Nat × List Char
  | '0' :: 'x' :: cs | '0' :: 'X' :: cs => (16, cs)
  | '0' :: 'o' :: cs | '0' :: 'O' :: cs => (8, cs)
  | '0' :: 'b' :: cs | '0' :: 'B' :: cs => (2, cs)
  | cs => (10, cs)

/-- The value of a digit: numerals, then letters of either case. -/
def digitValue? (c : Char) : Option Nat :=
  if c.isDigit then some (c.toNat - 48)
  else if c.isLower then some (c.toNat - 87)
  else if c.isUpper then some (c.toNat - 55)
  else none

/-- The number that a text writes. -/
def number? (s : String) : Option Nat :=
  let (base, digits) := splitBase s.toList
  (digits.filter (· != '_')).foldlM (fun n c => do
    let v ← digitValue? c
    if v < base then some (n * base + v) else none) 0

/-- The number below a bound that a document writes, as a text or in plain digits. -/
def quantity? (bound : Nat) : Json → Option Nat
  | .string s => (number? s).filter (· < bound)
  | j => j.nat? bound

/-- A number of 64 bits. -/
def word64? (j : Json) : Option UInt64 :=
  (quantity? UInt64.size j).map UInt64.ofNat

end Rpc

end MessageRelay
