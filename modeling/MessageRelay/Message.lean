import MessageRelay.Keccak

/-!
# Messages and their keys

A message (`MessageRelay.Message`) is published by a sender on the source ledger and relayed to
the destination ledger. Its sender and its sequence number form its key
(`MessageRelay.MessageKey`), under which it is polled, relayed and reported. The key is written
as `sender/sequence`, the sender in its checksummed form (`MessageRelay.Address.checksummed`).
-/

namespace MessageRelay

/-! ### The written form of an address -/

/-- An address with its checksum: a digit that is a letter is a capital exactly when the digit of
the same position in the digest of the lower-case digits is at least eight. -/
def Address.checksummed (a : Address) : String :=
  let digits := a.bytes.hexDigits
  let digest := (keccak256 (digits.map fun c => UInt8.ofNat c.toNat)).bytes.hexDigits
  String.ofList ('0' :: 'x' ::
    List.zipWith (fun d h => if '8' ≤ h then d.toUpper else d) digits digest)

/-! ### Messages -/

/-- The identity of a message: who published it, and which of the sender's messages it is. -/
structure MessageKey where
  /-- The publisher's address on the source ledger. -/
  sender : Address
  /-- The publisher's running number for the message. -/
  sequence : UInt64
deriving DecidableEq, Inhabited

/-- A published message. -/
structure Message where
  /-- The publisher's address on the source ledger. -/
  sender : Address
  /-- The publisher's running number for the message. -/
  sequence : UInt64
  /-- A number that the source ledger assigns; a sender may have many messages with one nonce. -/
  nonce : UInt32
  /-- The application's category for the message. -/
  topic : UInt32
  /-- What the message says; only its receiver reads it. -/
  payload : Bytes
  /-- The finality that the publisher asks for. -/
  consistencyLevel : UInt8
deriving DecidableEq, Inhabited

namespace Message

/-- The identity of the message. -/
def key (m : Message) : MessageKey :=
  ⟨m.sender, m.sequence⟩

end Message

namespace MessageKey

/-- The written form of a key. -/
def text (k : MessageKey) : String :=
  k.sender.checksummed ++ "/" ++ toString k.sequence.toNat

/-- Keys are ordered by sender, then by sequence number. -/
def le (a b : MessageKey) : Bool :=
  a.sender.bytes.lexLt b.sender.bytes
    || (a.sender == b.sender && a.sequence.toNat ≤ b.sequence.toNat)

/-- A list of keys in ascending order. -/
def sort (keys : List MessageKey) : List MessageKey :=
  keys.mergeSort le

end MessageKey

end MessageRelay
