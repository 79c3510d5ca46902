/-!
# Punycode

Text in the small alphabet of host names (RFC 3492). The ASCII characters come first, then a hyphen,
then the others in ascending order, each as the distance from the one before in a number system
whose digits grow with their place (`MessageRelay.Url.Punycode.encode`,
`MessageRelay.Url.Punycode.decode?`).

The distance counts pairs of a code point and a position: between a code point `n` at position `i`
and the next one lie the remaining positions for `n`, then all positions for each code point in
between. The base is thirty-six; at each place there is a threshold, and a digit below it ends the
number.
-/

namespace MessageRelay

namespace Url.Punycode

/-! ### Digits and thresholds -/

/-- The digit of a value below thirty-six: a letter, and from twenty-six on a numeral. -/
def digit (value : Nat) : Char :=
  Char.ofNat (if value < 26 then 97 + value else 22 + value)

/-- The value of a digit. -/
def value? (c : Char) : Option Nat :=
  if c.isDigit then some (c.toNat - 22)
  else if c.isLower then some (c.toNat - 97)
  else if c.isUpper then some (c.toNat - 65)
  else none

/-- The threshold at a place, counted from one, for a bias. -/
def threshold (bias place : Nat) : Nat :=
  min 26 (max 1 (36 * place - bias))

/-- How often a distance is divided by thirty-five until it is at most four hundred and
fifty-five, and what is left of it. -/
def shrink (distance : Nat) : Nat × Nat :=
  if 455 < distance then
    let (times, rest) := shrink (distance / 35)
    (times + 1, rest)
  else (0, distance)
termination_by distance
decreasing_by omega

/-- The bias behind a distance, when so many characters have been written. -/
def adapt (distance written : Nat) (isFirst : Bool) : Nat :=
  let distance := if isFirst then distance / 700 else distance / 2
  let (times, rest) := shrink (distance + distance / written)
  36 * times + 36 * rest / (rest + 38)

/-! ### Writing -/

/-- The digits of a number from a place on. -/
def digits (bias : Nat) (place n : Nat) : List Char :=
  let t := threshold bias place
  if n < t then [digit n]
  else digit (t + (n - t) % (36 - t)) :: digits bias (place + 1) ((n - t) / (36 - t))
termination_by n
decreasing_by
  have : 1 ≤ threshold bias place := by unfold threshold; omega
  have : (n - threshold bias place) / (36 - threshold bias place) ≤ n - threshold bias place :=
    Nat.div_le_self _ _
  omega

/-- What has been written so far, and where the next distance starts. -/
structure Writer where
  /-- The digits so far, last first. -/
  output : List Char := []
  /-- The distance from the last character that was written. -/
  distance : Nat := 0
  /-- The bias for the next number. -/
  bias : Nat := 72
  /-- How many characters have been written. -/
  written : Nat

/-- Passes a character of the text while the occurrences of a code point are written. -/
def Writer.pass (ascii n : Nat) (w : Writer) (c : Char) : Writer :=
  if c.toNat < n then { w with distance := w.distance + 1 }
  else if c.toNat = n then
    { output := (digits w.bias 1 w.distance).reverse ++ w.output
      distance := 0
      bias := adapt w.distance (w.written + 1) (w.written == ascii)
      written := w.written + 1 }
  else w

/-- Writes the occurrences of code points that are given in ascending order; the last one before
them was `previous`. -/
def Writer.run (text : List Char) (ascii : Nat) : (previous : Nat) → List Nat → Writer → Writer
  | _, [], w => w
  | previous, n :: ns, w =>
    let start := { w with distance := w.distance + (n - previous) * (w.written + 1) }
    let w := text.foldl (Writer.pass ascii n) start
    Writer.run text ascii (n + 1) ns { w with distance := w.distance + 1 }

/-- The encoded form of a text. -/
def encode (text : List Char) : List Char :=
  let ascii := text.filter (·.toNat < 0x80)
  let others := (((text.map (·.toNat)).filter (0x80 ≤ ·)).mergeSort).eraseReps
  let w := Writer.run text ascii.length 0x80 others { written := ascii.length }
  (if ascii.isEmpty then [] else ascii ++ ['-']) ++ w.output.reverse

/-! ### Reading -/

/-- Reads a number from a place on whose digits there weigh `weight`, added to what was read
before, and gives it with the characters behind it. -/
def number? (bias : Nat) : (place weight sum : Nat) → List Char → Option (Nat × List Char)
  | _, _, _, [] => none
  | place, weight, sum, c :: cs => do
    let v ← value? c
    let sum := sum + v * weight
    if UInt32.size ≤ sum then none
    else
      let t := threshold bias place
      if v < t then some (sum, cs) else number? bias (place + 1) (weight * (36 - t)) sum cs

/-- Reads characters and inserts them into the text, as many as there are; `fuel` bounds them. The
last one read was `n`, and the next one is counted from position `i` on. -/
def insertAll? : (fuel n i bias : Nat) → (text : List Char) → (isFirst : Bool) →
    List Char → Option (List Char)
  | _, _, _, _, text, _, [] => some text
  | 0, _, _, _, _, _, _ => none
  | fuel + 1, n, i, bias, text, isFirst, cs => do
    let (distance, rest) ← number? bias 1 1 0 cs
    let size := text.length + 1
    let n := n + (i + distance) / size
    let position := (i + distance) % size
    if h : n.isValidChar then
      insertAll? fuel n (position + 1) (adapt distance size isFirst)
        (text.take position ++ [Char.ofNatAux n h] ++ text.drop position) false rest
    else none

/-- The text of an encoded form. -/
def decode? (cs : List Char) : Option (List Char) :=
  let behind := (cs.reverse.takeWhile (· != '-')).reverse
  let ascii := if cs.contains '-' then cs.take (cs.length - behind.length - 1) else []
  let encoded := if cs.contains '-' then behind else cs
  if ascii.all (·.toNat < 0x80) then
    insertAll? encoded.length 0x80 0 72 ascii true encoded
  else none

end Url.Punycode

end MessageRelay
