import MessageRelay.Binary

/-!
# The shortest decimal of a binary number

A positive binary number `m * 2 ^ q` with a significand of 53 bits stands for the interval of all
numbers that round to it. Among the decimals in that interval the shortest has the fewest digits,
and of several with equally many digits it is the nearest to the number itself
(`MessageRelay.Decimal.shortest`). For a given number of digits only the two decimals next to the
number can lie in the interval if any does, so those two are tried, for one digit, two digits and so
on; seventeen digits are always enough.

The written form (`MessageRelay.Decimal.text`) is positional: never an exponent, and no point
without a digit behind it.
-/

namespace MessageRelay

namespace Decimal

/-- A decimal: `digits * 10 ^ scale`. -/
structure Scaled where
  /-- All digits as one number. -/
  digits : Nat
  /-- The place of the last digit. -/
  scale : Int
deriving DecidableEq, Inhabited

/-- Compares `a * 10 ^ s` with `b`. -/
def timesPowerLe (a : Nat) (s : Int) (b : Nat) : Bool :=
  if 0 ≤ s then a * Nat.pow 10 s.toNat ≤ b else a ≤ b * Nat.pow 10 (-s).toNat

/-- Compares `b` with `a * 10 ^ s`. -/
def leTimesPower (b a : Nat) (s : Int) : Bool :=
  if 0 ≤ s then b ≤ a * Nat.pow 10 s.toNat else b * Nat.pow 10 (-s).toNat ≤ a

/-- How many places below the point the first digit of a number below one stands, at least. -/
def leadingPlaces (num den : Nat) : (steps : Nat) → Nat
  | 0 => 0
  | steps + 1 => if den ≤ num * 10 then 0 else leadingPlaces (num * 10) den steps + 1

/-- The power of ten just above `num / den`. -/
def magnitude (num den : Nat) : Int :=
  if den ≤ num then (toString (num / den)).length
  else -(leadingPlaces num den 400 : Int)

/-- Of the decimals with the given number of digits the one in the interval nearest to
`m * 2 ^ q`, if there is one. The interval reaches halfway to the number above, and halfway to the
number below, which is half as far off below a power of two. Its ends belong to it exactly when `m`
is even. -/
def candidate? (m : Nat) (q : Int) (count : Nat) : Option Scaled :=
  let unit := 1 <<< q.toNat
  let den := 1 <<< (-q).toNat
  let num := m * unit
  let below := if m = Binary.leadingBit ∧ -1074 < q then unit else 2 * unit
  let scale := magnitude num den - count
  let down :=
    if 0 ≤ scale then num / (den * Nat.pow 10 scale.toNat)
    else num * Nat.pow 10 (-scale).toNat / den
  let inside (c : Nat) : Bool :=
    let c := 4 * c * den
    let low := 4 * num - below
    let high := 4 * num + 2 * unit
    if m % 2 = 0 then leTimesPower low c scale && timesPowerLe c scale high
    else !timesPowerLe c scale low && !leTimesPower high c scale
  let upIsNearer := timesPowerLe ((2 * down + 1) * den) scale (2 * num)
  match inside down, inside (down + 1) with
  | true, true => some ⟨if upIsNearer then down + 1 else down, scale⟩
  | true, false => some ⟨down, scale⟩
  | false, true => some ⟨down + 1, scale⟩
  | false, false => none

/-- The shortest decimal that stands for `m * 2 ^ q`. -/
def shortest (m : Nat) (q : Int) : Scaled :=
  ((List.range 17).findSome? fun n => candidate? m q (n + 1)).getD ⟨0, 0⟩

/-- A decimal in positional notation. -/
def text (d : Scaled) : String :=
  let digits := (toString d.digits).toList
  if 0 ≤ d.scale then String.ofList (digits ++ List.replicate d.scale.toNat '0')
  else
    let places := (-d.scale).toNat
    let padded := List.replicate (places + 1 - digits.length) '0' ++ digits
    let whole := padded.take (padded.length - places)
    let fraction := (padded.drop (padded.length - places)).reverse.dropWhile (· == '0') |>.reverse
    String.ofList (if fraction.isEmpty then whole else whole ++ '.' :: fraction)

/-- A binary floating-point number of 64 bits in its shortest positional form. -/
def ofFloat (x : Float) : String :=
  let b := Binary.ofFloat x
  let sign := if b.isNegative then "-" else ""
  if b.exponent = 2047 then (if b.fraction = 0 then sign ++ "inf" else "NaN")
  else if b.exponent = 0 ∧ b.fraction = 0 then sign ++ "0"
  else
    let m := if b.exponent = 0 then b.fraction else b.significand
    let q : Int := (if b.exponent = 0 then 1 else b.exponent : Nat) - 1075
    sign ++ text (shortest m q)

/-! ### Counting in binary floating point -/

/-- A natural number rounded to 53 significant bits, a half to the even neighbour. -/
def round53 (n : Nat) : Nat :=
  let excess := n.log2 - 52
  let unit := 1 <<< excess
  let q := n / unit
  let twice := 2 * (n % unit)
  (if twice < unit then q else if unit < twice then q + 1 else q + q % 2) * unit

/-- Up to 53 bits nothing is rounded. -/
theorem round53_of_lt {n : Nat} (h : n < 2 * Binary.leadingBit) : round53 n = n := by
  have hlog : n.log2 - 52 = 0 := by
    by_cases hn : n = 0
    · subst hn; rfl
    · have := (Nat.log2_lt (k := 53) hn).2 h
      omega
  simp [round53, hlog, Nat.mod_one]

/-- The shortest form of a natural number that has been rounded to 53 significant bits. -/
def ofCount (n : Nat) : String :=
  if n < 2 * Binary.leadingBit then toString n
  else
    let excess := n.log2 - 52
    text (shortest (n >>> excess) excess)

end Decimal

end MessageRelay
