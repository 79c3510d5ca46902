/-!
# The curve of account keys

The points of the curve `y² = x³ + 7` over the integers modulo a prime, with the group law and the
generator of Standards for Efficient Cryptography 2, curve secp256k1. A point is kept as three
coordinates, of which `(x, y, z)` stands for `(x / z², y / z³)` and those with `z = 0` for the
neutral element (`MessageRelay.Account.Curve.Point`), so that only one division is needed, when the
coordinates are asked for (`MessageRelay.Account.Curve.Point.affine?`).
-/

namespace MessageRelay

namespace Account.Curve

/-- The prime modulo which coordinates are taken. -/
def prime : Nat :=
  0xfffffffffffffffffffffffffffffffffffffffffffffffffffffffefffffc2f

/-- The number of points that the generator generates. -/
def order : Nat :=
  0xfffffffffffffffffffffffffffffffebaaedce6af48a03bbfd25e8cd0364141

/-- A point of the curve. -/
structure Point where
  x : Nat
  y : Nat
  z : Nat
deriving DecidableEq, Inhabited

/-- The difference of two numbers below the prime. -/
def sub (a b : Nat) : Nat :=
  (a + prime - b) % prime

/-- A power modulo the prime, by squaring; `digits` bounds the binary digits of the exponent. -/
def power : (digits base exponent : Nat) → Nat
  | 0, _, _ => 1
  | digits + 1, base, exponent =>
    let rest := power digits (base * base % prime) (exponent / 2)
    if exponent % 2 = 1 then base * rest % prime else rest

/-- The inverse of a number that is not zero. -/
def inverse (a : Nat) : Nat :=
  power 256 a (prime - 2)

namespace Point

/-- The neutral element. -/
def zero : Point :=
  ⟨1, 1, 0⟩

/-- The generator. -/
def generator : Point :=
  ⟨0x79be667ef9dcbbac55a06295ce870b07029bfcdb2dce28d959f2815b16f81798,
   0x483ada7726a3c4655da4fbfc0e1108a8fd17b448a68554199c47d08ffb10d4b8, 1⟩

/-- A point added to itself. -/
def double (p : Point) : Point :=
  let a := p.x * p.x % prime
  let b := p.y * p.y % prime
  let c := b * b % prime
  let s := 4 * p.x * b % prime
  let m := 3 * a % prime
  let x := sub (m * m % prime) (2 * s % prime)
  ⟨x, sub (m * sub s x % prime) (8 * c % prime), 2 * p.y * p.z % prime⟩

/-- The sum of two points. -/
def add (p q : Point) : Point :=
  if p.z = 0 then q
  else if q.z = 0 then p
  else
    let pz := p.z * p.z % prime
    let qz := q.z * q.z % prime
    let u := p.x * qz % prime
    let v := q.x * pz % prime
    let s := p.y * q.z % prime * qz % prime
    let t := q.y * p.z % prime * pz % prime
    if u = v then
      if s = t then p.double else zero
    else
      let h := sub v u
      let r := sub t s
      let h2 := h * h % prime
      let h3 := h * h2 % prime
      let w := u * h2 % prime
      let x := sub (sub (r * r % prime) h3) (2 * w % prime)
      ⟨x, sub (r * sub w x % prime) (s * h3 % prime), p.z * q.z % prime * h % prime⟩

/-- A multiple of a point; `digits` bounds the binary digits of the factor. -/
def multiple : (digits factor : Nat) → Point → Point
  | 0, _, _ => zero
  | digits + 1, factor, p =>
    let rest := multiple digits (factor / 2) p.double
    if factor % 2 = 1 then p.add rest else rest

/-- The coordinates of a point other than the neutral element. -/
def affine? (p : Point) : Option (Nat × Nat) :=
  if p.z = 0 then none
  else
    let i := inverse p.z
    let i2 := i * i % prime
    some (p.x * i2 % prime, p.y * i2 % prime * i % prime)

end Point

end Account.Curve

end MessageRelay
