import MessageRelay.Bytes
import MessageRelay.Text.Ranges

/-!
# Addresses in hosts

A host may be a number: four bytes in the older protocol (`MessageRelay.Url.IpAddress.readFour?`),
eight groups of two bytes in the newer one (`MessageRelay.Url.IpAddress.readSix?`). The older ones
may be written in many ways and have one written form, four decimal numbers with points between
them; the newer ones are written in groups with colons between them, the longest run of zero groups
left out.
-/

namespace MessageRelay

namespace Url.IpAddress

open Text

/-- The number that digits of a base write. -/
def digits? (base : Nat) (cs : List Char) : Option Nat :=
  cs.foldlM (fun n c => do
    let v ← Bytes.hexValue? c
    if v < base then some (n * base + v) else none) 0

/-- The decimal form of a number. -/
def decimal (n : Nat) : List Char :=
  Nat.toDigits 10 n

/-! ### The older protocol -/

/-- The number that a part of an address writes: hexadecimal behind `0x`, octal behind `0`, else
decimal. The digits behind `0x` may be missing. -/
def part? : List Char → Option Nat
  | [] => none
  | '0' :: 'x' :: cs | '0' :: 'X' :: cs => digits? 16 cs
  | ['0'] => some 0
  | '0' :: cs => digits? 8 cs
  | cs => digits? 10 cs

/-- Whether a host reads as a number: its last part does, an empty part at the end apart. -/
def endsInNumber (host : List Char) : Bool :=
  let parts := (splitAt (· == '.') host).reverse
  let last := match parts with
    | [] :: rest => rest.head?
    | parts => parts.head?
  last.any fun cs => !cs.isEmpty && (cs.all Char.isDigit || (part? cs).isSome)

/-- The number of an address with the given parts: the last part fills all bytes that the others
leave. -/
def fill? (parts : List Nat) : Option Nat :=
  match parts.reverse with
  | [] => none
  | last :: front =>
    let room := Octets.count (4 - front.length)
    if 3 < front.length || front.any (255 < ·) || room ≤ last then none
    else some (Bytes.toNat (front.reverse.map UInt8.ofNat) * room + last)

/-- The number of an address of four bytes. -/
def readFour? (host : List Char) : Option Nat :=
  let parts := splitAt (· == '.') host
  let parts := if parts.getLast? = some [] then parts.dropLast else parts
  (parts.mapM part?).bind fill?

/-- The written form of an address of four bytes. -/
def writeFour (n : Nat) : List Char :=
  (((Bytes.ofNat 4 n).map fun b => decimal b.toNat).intersperse ['.']).flatten

/-! ### The newer protocol -/

/-- One group: up to four hexadecimal digits. -/
def group? (cs : List Char) : Option Nat :=
  if cs.isEmpty || 4 < cs.length then none else digits? 16 cs

/-- One byte in decimal, without needless zeros. -/
def byte? (cs : List Char) : Option Nat :=
  if cs.isEmpty || (cs.head? == some '0' && cs != ['0']) then none
  else (digits? 10 cs).filter (· < 256)

/-- Two groups written as an address of four bytes. -/
def dotted? (cs : List Char) : Option (List Nat) :=
  match (splitAt (· == '.') cs).mapM byte? with
  | some [a, b, c, d] => some [256 * a + b, 256 * c + d]
  | _ => none

/-- Groups with colons between them. The last one may be dotted, if that is allowed. -/
def groups? (mayBeDotted : Bool) (cs : List Char) : Option (List Nat) :=
  match (splitAt (· == ':') cs).reverse with
  | [] => none
  | last :: front => do
    let front ← front.reverse.mapM group?
    let last ←
      if mayBeDotted && last.contains '.' then dotted? last else (group? last).map ([·])
    pure (front ++ last)

/-- What stands in front of the first two colons in a row, and what behind them. -/
def splitGap : List Char → Option (List Char × List Char)
  | ':' :: ':' :: cs => some ([], cs)
  | c :: cs => (splitGap cs).map fun (front, behind) => (c :: front, behind)
  | [] => none

/-- The groups of an address of eight groups. Two colons in a row stand for as many zero groups as
are missing, for one at least. -/
def readSix? (cs : List Char) : Option (List Nat) :=
  match splitGap cs with
  | none => (groups? true cs).filter (·.length = 8)
  | some (front, behind) => do
    let front ← if front.isEmpty then some [] else groups? false front
    let behind ← if behind.isEmpty then some [] else groups? true behind
    let missing := 8 - (front.length + behind.length)
    if missing = 0 then none else some (front ++ List.replicate missing 0 ++ behind)

/-- How many zero groups stand in front. -/
def zeros (groups : List Nat) : Nat :=
  (groups.takeWhile (· = 0)).length

/-- The length of the longest run of zero groups. -/
def longestZeros : List Nat → Nat
  | [] => 0
  | g :: gs => max (zeros (g :: gs)) (longestZeros gs)

/-- The groups in front of the first run of so many zero groups, and the groups behind it. -/
def cutZeros (run : Nat) : List Nat → List Nat × List Nat
  | [] => ([], [])
  | g :: gs =>
    if zeros (g :: gs) = run then ([], (g :: gs).drop run)
    else
      let (front, behind) := cutZeros run gs
      (g :: front, behind)

/-- Groups with colons between them. -/
def writeGroups (groups : List Nat) : List Char :=
  ((groups.map (Nat.toDigits 16)).intersperse [':']).flatten

/-- The written form of an address of eight groups. -/
def writeSix (groups : List Nat) : List Char :=
  let run := longestZeros groups
  if run < 2 then writeGroups groups
  else
    let (front, behind) := cutZeros run groups
    writeGroups front ++ [':', ':'] ++ writeGroups behind

end Url.IpAddress

end MessageRelay
