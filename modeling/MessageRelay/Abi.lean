import MessageRelay.Bytes

/-!
# The contract encoding

Contracts exchange lists of fields. Each field has its place in the *head* of the encoding: a number
or an address stands there itself, as one word of 32 bytes. Bytes, of which there may be any number,
stand in the *tail* behind the head, their length in front of them and zeros up to a whole number of
words behind them, and their place in the head is taken by a word that says how far behind the
beginning of the encoding they stand (`MessageRelay.Abi.place`).

A structure is a list of fields of its own. If one of them stands in the tail, so does the
structure, as a whole (`MessageRelay.Abi.structPart`).

Reading is strict (`MessageRelay.Abi.decode?`): what the head says is followed, and the bytes have
to be what encodes the fields that were found there. So a number that is too wide for its field,
bytes that stand elsewhere, a padding byte that is not zero, a missing byte and a byte too many are
all refused.
-/

namespace MessageRelay

namespace Abi

/-- A number as one word. -/
def word (v : Nat) : Bytes :=
  Bytes.ofNat 32 v

/-- The zeros behind `size` bytes that fill the last word. -/
def padding (size : Nat) : Bytes :=
  List.replicate ((32 - size % 32) % 32) 0

/-! ### Head and tail -/

/-- Something that has a place in a head. -/
structure Part where
  /-- Its encoding. -/
  bytes : Bytes
  /-- Whether it stands in the tail. -/
  inTail : Bool

/-- How much of the head it takes. -/
def Part.headSize (p : Part) : Nat :=
  if p.inTail then 32 else p.bytes.length

/-- The head, where the first part in the tail stands at `offset`. -/
def heads : (offset : Nat) → List Part → Bytes
  | _, [] => []
  | offset, p :: ps =>
    if p.inTail then word offset ++ heads (offset + p.bytes.length) ps
    else p.bytes ++ heads offset ps

/-- The tail. -/
def tails : List Part → Bytes
  | [] => []
  | p :: ps => if p.inTail then p.bytes ++ tails ps else tails ps

/-- How long the head is. -/
def headSize : List Part → Nat
  | [] => 0
  | p :: ps => p.headSize + headSize ps

/-- All parts in their places: the tail begins where the head is over. -/
def place (ps : List Part) : Bytes :=
  heads (headSize ps) ps ++ tails ps

/-! ### Fields -/

/-- The types of the fields of messages. -/
inductive FieldType where
  | address
  | uint64
  | uint32
  | uint8
  | bytes
deriving DecidableEq

namespace FieldType

/-- The values of a type. -/
def Value : FieldType → Type
  | address => Address
  | uint64 => UInt64
  | uint32 => UInt32
  | uint8 => UInt8
  | bytes => Bytes

/-- The name of a type. -/
def name : FieldType → String
  | address => "address"
  | uint64 => "uint64"
  | uint32 => "uint32"
  | uint8 => "uint8"
  | bytes => "bytes"

/-- Whether the values of a type stand in the tail. -/
def isDynamic : FieldType → Bool
  | bytes => true
  | address | uint64 | uint32 | uint8 => false

/-- The encoding of a value. -/
def encode : (t : FieldType) → t.Value → Bytes
  | address, (a : Address) => word a.toNat
  | uint64, (n : UInt64) => word n.toNat
  | uint32, (n : UInt32) => word n.toNat
  | uint8, (n : UInt8) => word n.toNat
  | bytes, (bs : Bytes) => word bs.length ++ (bs ++ padding bs.length)

end FieldType

/-- Values of some types, one of each, in the order of the types. -/
def Fields : List FieldType → Type
  | [] => Unit
  | t :: ts => t.Value × Fields ts

/-- Fields with their places in the head. -/
def parts : (ts : List FieldType) → Fields ts → List Part
  | [], _ => []
  | t :: ts, (v, fields) => ⟨t.encode v, t.isDynamic⟩ :: parts ts fields

/-- The encoding of a list of fields. -/
def encode (ts : List FieldType) (fields : Fields ts) : Bytes :=
  place (parts ts fields)

/-- A list of types in parentheses. -/
def typeName (ts : List FieldType) : String :=
  "(" ++ String.intercalate "," (ts.map FieldType.name) ++ ")"

/-! ### Structures -/

/-- A structure with such fields, as a part of something else. -/
def structPart (ts : List FieldType) (fields : Fields ts) : Part :=
  ⟨encode ts fields, ts.any FieldType.isDynamic⟩

/-- The encoding of a structure that stands alone. -/
def encodeStruct (ts : List FieldType) (fields : Fields ts) : Bytes :=
  place [structPart ts fields]

/-! ### Reading -/

/-- One word off the front, as a number, and the rest. -/
def readWord? (bs : Bytes) : Option (Nat × Bytes) :=
  let front := bs.take 32
  if front.length = 32 then some (Bytes.toNat front, bs.drop 32) else none

/-- One word off the front whose number lies below a bound. -/
def readBelow? (bound : Nat) (bs : Bytes) : Option (Nat × Bytes) :=
  (readWord? bs).bind fun (v, rest) => if v < bound then some (v, rest) else none

/-- A length and that many bytes off the front. -/
def readBytes? (bs : Bytes) : Option Bytes :=
  (readWord? bs).bind fun (size, rest) => if size ≤ rest.length then some (rest.take size) else none

/-- The field whose place is at the front of what is left of a head, and the rest of that. What
stands in the tail is looked up in the whole encoding. -/
def FieldType.read? (whole : Bytes) : (t : FieldType) → (head : Bytes) → Option (t.Value × Bytes)
  | address, head => do
    let (v, rest) ← readBelow? (Octets.count 20) head
    some (Octets.ofNat 20 v, rest)
  | uint64, head => do
    let (v, rest) ← readBelow? UInt64.size head
    some (UInt64.ofNat v, rest)
  | uint32, head => do
    let (v, rest) ← readBelow? UInt32.size head
    some (UInt32.ofNat v, rest)
  | uint8, head => do
    let (v, rest) ← readBelow? UInt8.size head
    some (UInt8.ofNat v, rest)
  | bytes, head => do
    let (offset, rest) ← readWord? head
    some (← readBytes? (whole.drop offset), rest)

/-- The fields whose places are in what is left of a head. -/
def readFields? (whole : Bytes) : (ts : List FieldType) → (head : Bytes) → Option (Fields ts)
  | [], _ => some ()
  | t :: ts, head => do
    let (v, rest) ← t.read? whole head
    some (v, ← readFields? whole ts rest)

/-- Reads fields from exactly the bytes that encode them. -/
def decode? (ts : List FieldType) (bs : Bytes) : Option (Fields ts) := do
  let fields ← readFields? bs ts bs
  guard (encode ts fields = bs)
  some fields

/-- Where the members of a structure that stands alone begin. -/
def structOffset? (ts : List FieldType) (bs : Bytes) : Option Nat :=
  if ts.any FieldType.isDynamic then (readWord? bs).map Prod.fst else some 0

/-- Reads a structure from exactly the bytes that encode it. -/
def decodeStruct? (ts : List FieldType) (bs : Bytes) : Option (Fields ts) := do
  let offset ← structOffset? ts bs
  let fields ← readFields? (bs.drop offset) ts (bs.drop offset)
  guard (encodeStruct ts fields = bs)
  some fields

end Abi

end MessageRelay
