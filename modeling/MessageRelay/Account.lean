import MessageRelay.Account.Curve
import MessageRelay.Keccak

/-!
# Accounts

A private key is a number (`MessageRelay.PrivateKey`), and the account that it signs for is the end
of the digest of its multiple of the curve's generator (`MessageRelay.PrivateKey.address`).
-/

namespace MessageRelay

/-- A private key. -/
structure PrivateKey where
  /-- The number that is the key. -/
  number : Nat
  /-- It is not zero. -/
  pos : 0 < number
  /-- It is below the order of the curve's generator. -/
  lt : number < Account.Curve.order

namespace PrivateKey

/-- The key that a number is, if it is one. -/
def ofNat? (n : Nat) : Option PrivateKey :=
  if h : 0 < n ∧ n < Account.Curve.order then some ⟨n, h.1, h.2⟩ else none

/-- Reads a key from thirty-two bytes in hexadecimal. -/
def ofText? (s : String) : Option PrivateKey :=
  (Octets.ofHex? 32 s).bind fun o => ofNat? o.toNat

/-- The account that the key signs for. -/
def address (k : PrivateKey) : Address :=
  match (Account.Curve.Point.multiple 256 k.number .generator).affine? with
  | none => default
  | some (x, y) => Octets.ofNat 20 (keccak256 (Bytes.ofNat 32 x ++ Bytes.ofNat 32 y)).toNat

end PrivateKey

end MessageRelay
