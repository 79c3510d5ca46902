/-!
# Byte strings and their hexadecimal form

A byte string is a list of bytes (`MessageRelay.Bytes`), and a byte string of a fixed length is
`MessageRelay.Octets n`: addresses have twenty bytes, hashes thirty-two.

Two views of a byte string are used throughout. The *number* view reads it as a big-endian
numeral: `MessageRelay.Bytes.toNat` one way, `MessageRelay.Bytes.ofNat` with a width the other.
The *text* view writes two lower-case digits per byte behind `0x`
(`MessageRelay.Bytes.toHex`); reading it back accepts either letter case and a missing `0x`
(`MessageRelay.Bytes.ofHex?`).
-/

namespace MessageRelay

/-- A byte string. -/
abbrev Bytes := List UInt8

namespace Bytes

/-! ### The number view -/

/-- The last `width` base-256 digits of `v`, most significant first. -/
def ofNat : (width v : Nat) → Bytes
  | 0, _ => []
  | width + 1, v => ofNat width (v / 256) ++ [UInt8.ofNat v]

/-- The number that the bytes write in base 256, most significant first. -/
def toNat (bs : Bytes) : Nat :=
  bs.foldl (fun n b => n * 256 + b.toNat) 0

@[simp] theorem length_ofNat (width v : Nat) : (ofNat width v).length = width := by
  induction width generalizing v with
  | zero => rfl
  | succ width ih => simp [ofNat, ih]

/-! ### The text view -/

/-- The two digits of one byte, high half first. -/
def hexPair (b : UInt8) : List Char :=
  [Nat.digitChar (b.toNat / 16), Nat.digitChar (b.toNat % 16)]

/-- The digits of a byte string, without a marker in front. -/
def hexDigits (bs : Bytes) : List Char :=
  bs.flatMap hexPair

/-- The usual written form: `0x` and two lower-case digits per byte. -/
def toHex (bs : Bytes) : String :=
  String.ofList ('0' :: 'x' :: bs.hexDigits)

/-- The value of one hexadecimal digit, in either letter case. -/
def hexValue? (c : Char) : Option Nat :=
  if '0' ≤ c ∧ c ≤ '9' then some (c.toNat - '0'.toNat)
  else if 'a' ≤ c ∧ c ≤ 'f' then some (c.toNat - 'a'.toNat + 10)
  else if 'A' ≤ c ∧ c ≤ 'F' then some (c.toNat - 'A'.toNat + 10)
  else none

/-- Reads digits two at a time. An odd digit at the end is refused. -/
def ofHexDigits? : List Char → Option Bytes
  | [] => some []
  | [_] => none
  | hi :: lo :: rest => do
    let h ← hexValue? hi
    let l ← hexValue? lo
    let bs ← ofHexDigits? rest
    pure (UInt8.ofNat (16 * h + l) :: bs)

/-- The digits behind the marker `0x`, which may be missing or have a capital letter. -/
def dropMarker : List Char → List Char
  | '0' :: 'x' :: rest | '0' :: 'X' :: rest => rest
  | cs => cs

/-- Reads a byte string from its written form. -/
def ofHex? (s : String) : Option Bytes :=
  ofHexDigits? (dropMarker s.toList)

/-- The bytes of a text in the encoding of the network. -/
def ofText (s : String) : Bytes :=
  s.toUTF8.data.toList

/-- The text that bytes encode, if they do. -/
def text? (bs : Bytes) : Option String :=
  String.fromUTF8? (ByteArray.mk bs.toArray)

/-- Orders byte strings as dictionaries order words. -/
def lexLt : Bytes → Bytes → Bool
  | _, [] => false
  | [], _ :: _ => true
  | a :: as, b :: bs => a < b || (a == b && lexLt as bs)

end Bytes

/-! ### Byte strings of a fixed length -/

/-- A byte string of length `n`. -/
structure Octets (n : Nat) where
  /-- The bytes, in order. -/
  bytes : Bytes
  /-- There are `n` of them. -/
  length_bytes : bytes.length = n
deriving DecidableEq

/-- The account or contract address of a ledger. -/
abbrev Address := Octets 20

/-- A transaction hash, an event topic or another 256-bit digest. -/
abbrev Hash := Octets 32

namespace Octets

variable {n : Nat}

/-- The bytes, when there are `n` of them. -/
def ofBytes? (n : Nat) (bs : Bytes) : Option (Octets n) :=
  if h : bs.length = n then some ⟨bs, h⟩ else none

/-- The last `n` base-256 digits of a number. -/
def ofNat (n v : Nat) : Octets n :=
  ⟨Bytes.ofNat n v, Bytes.length_ofNat n v⟩

/-- How many byte strings of length `n` there are. -/
def count (n : Nat) : Nat :=
  Nat.pow 256 n

/-- The same byte `n` times over. -/
def replicate (n : Nat) (b : UInt8) : Octets n :=
  ⟨List.replicate n b, List.length_replicate⟩

/-- All bytes zero. -/
def zero (n : Nat) : Octets n :=
  replicate n 0

instance : Inhabited (Octets n) := ⟨zero n⟩

/-- Reads exactly `n` bytes from their hexadecimal form. -/
def ofHex? (n : Nat) (s : String) : Option (Octets n) :=
  (Bytes.ofHex? s).bind (ofBytes? n)

/-- The number written by the bytes. -/
def toNat (o : Octets n) : Nat :=
  Bytes.toNat o.bytes

/-- The lower-case hexadecimal form. -/
def toHex (o : Octets n) : String :=
  o.bytes.toHex

theorem ext_bytes {a b : Octets n} (h : a.bytes = b.bytes) : a = b := by
  cases a; cases b; cases h; rfl

@[simp] theorem ofBytes?_bytes (o : Octets n) : ofBytes? n o.bytes = some o := by
  simp [ofBytes?, o.length_bytes]

end Octets

end MessageRelay
