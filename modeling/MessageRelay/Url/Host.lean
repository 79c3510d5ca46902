import MessageRelay.Url.Domain
import MessageRelay.Url.IpAddress

/-!
# Hosts

The host of a URL is a domain name or an address (`MessageRelay.Url.Host`). How it is read depends
on the scheme: where the scheme is one of the web's own, percent signs are resolved, a domain name
is brought into the form of the network, and a name that ends in a number is an address
(`MessageRelay.Url.Host.read`); elsewhere it is kept as it stands
(`MessageRelay.Url.Host.readOpaque`).
-/

namespace MessageRelay

/-- Why a text is no URL. -/
inductive UrlError where
  /-- It has no scheme. -/
  | relative
  /-- The host is missing where there must be one. -/
  | emptyHost
  /-- The port is no number, or too large. -/
  | invalidPort
  /-- The host ends in a number but is no address of four bytes. -/
  | invalidFour
  /-- What stands in brackets is no address of eight groups. -/
  | invalidSix
  /-- The host is no domain name. -/
  | invalidDomain
  /-- The host has a character that no host may have. -/
  | invalidCharacter
deriving DecidableEq, Inhabited

/-- The error in words. -/
def UrlError.message : UrlError → String
  | relative => "relative URL without a base"
  | emptyHost => "empty host"
  | invalidPort => "invalid port number"
  | invalidFour => "invalid IPv4 address"
  | invalidSix => "invalid IPv6 address"
  | invalidDomain => "invalid international domain name"
  | invalidCharacter => "invalid domain character"

namespace Url

/-- The host of a URL. -/
inductive Host where
  /-- A name. -/
  | domain (name : List Char)
  /-- An address of four bytes. -/
  | four (number : Nat)
  /-- An address of eight groups. -/
  | six (groups : List Nat)
deriving DecidableEq, Inhabited

namespace Host

/-- The written form of a host. -/
def chars : Host → List Char
  | domain name => name
  | four n => IpAddress.writeFour n
  | six groups => '[' :: IpAddress.writeSix groups ++ [']']

/-! ### Percent signs -/

/-- The bytes of a text, with a byte for each percent sign and two hexadecimal digits behind it. -/
def percentDecode : List UInt8 → Bytes
  | [] => []
  | b :: bs =>
    match bs with
    | hi :: lo :: rest =>
      let digit := fun (d : UInt8) => Bytes.hexValue? (Char.ofNat d.toNat)
      match b == 37, digit hi, digit lo with
      | true, some h, some l => UInt8.ofNat (16 * h + l) :: percentDecode rest
      | _, _, _ => b :: percentDecode (hi :: lo :: rest)
    | short => b :: percentDecode short

/-- The text in which percent signs are resolved, if the bytes are those of a text. -/
def resolve? (cs : List Char) : Option (List Char) :=
  if cs.contains '%' then
    (Bytes.text? (percentDecode (Bytes.ofText (String.ofList cs)))).map String.toList
  else some cs

/-- The text with a percent sign and two capital digits for each byte of a control character and of
a character beyond ASCII. -/
def escape (cs : List Char) : List Char :=
  cs.flatMap fun c =>
    if 0x20 ≤ c.toNat && c.toNat < 0x7f then [c]
    else
      (Bytes.ofText (String.ofList [c])).flatMap fun b => '%' :: (Bytes.hexPair b).map Char.toUpper

/-! ### Reading -/

/-- Reads an address in brackets; the bracket in front has been read. -/
def readBracketed (cs : List Char) : Except UrlError Host :=
  match cs.reverse with
  | ']' :: inner =>
    match IpAddress.readSix? inner.reverse with
    | some groups => .ok (six groups)
    | none => .error .invalidSix
  | _ => .error .invalidSix

/-- Reads a domain name or an address of four bytes. -/
def readName (cs : List Char) : Except UrlError Host :=
  match (resolve? cs).bind Domain.toAscii? with
  | none => .error .invalidDomain
  | some [] => .error .emptyHost
  | some name =>
    if IpAddress.endsInNumber name then
      match IpAddress.readFour? name with
      | some n => .ok (four n)
      | none => .error .invalidFour
    else .ok (domain name)

/-- Reads a host of one of the web's own schemes. -/
def read : List Char → Except UrlError Host
  | '[' :: cs => readBracketed cs
  | cs => readName cs

/-- Whether a character has no place in a host that is kept as it stands. -/
def isForbidden (c : Char) : Bool :=
  "\x00\t\n\r #/:<>?@[\\]^|".toList.contains c

/-- Reads a host that is kept as it stands. -/
def readOpaque : List Char → Except UrlError Host
  | '[' :: cs => readBracketed cs
  | cs => if cs.any isForbidden then .error .invalidCharacter else .ok (domain (escape cs))

end Host

end Url

end MessageRelay
