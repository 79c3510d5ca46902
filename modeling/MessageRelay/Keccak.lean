import MessageRelay.Bytes

/-!
# Keccak-256

The sponge with a state of 25 words of 64 bits, a rate of 136 bytes and a digest of 32 bytes,
whose padding starts with the byte `0x01`. The state is one vector with the word of column `x`
and row `y` at index `x + 5 * y`; a round is the composition of the five steps θ, ρ, π, χ, ι
(`MessageRelay.Keccak.round`), and hashing is a fold of the permutation over the blocks of the
padded text (`MessageRelay.keccak256`).
-/

namespace MessageRelay

namespace Keccak

/-- The sponge's state. -/
abbrev State := Vector UInt64 25

/-- Left rotation of a word. -/
def rotateLeft (w : UInt64) (k : Nat) : UInt64 :=
  if k % 64 = 0 then w
  else w <<< UInt64.ofNat (k % 64) ||| w >>> UInt64.ofNat (64 - k % 64)

/-- The word of column `x` and row `y`, both taken modulo five. -/
def State.lane (s : State) (x y : Nat) : UInt64 :=
  s.get (Fin.ofNat 25 (x % 5 + 5 * (y % 5)))

/-- A state given word by word, column first. -/
def State.build (f : Nat → Nat → UInt64) : State :=
  Vector.ofFn fun i => f (i.val % 5) (i.val / 5)

/-- How far step ρ rotates the word at index `x + 5 * y`. -/
def rotations : Vector Nat 25 :=
  #v[0, 1, 62, 28, 27, 36, 44, 6, 55, 20, 3, 10, 43, 25, 39, 41, 45, 15, 21, 8, 18, 2, 61, 56, 14]

/-- The constants that step ι adds, one per round. -/
def roundConstants : List UInt64 :=
  [0x0000000000000001, 0x0000000000008082, 0x800000000000808A, 0x8000000080008000,
   0x000000000000808B, 0x0000000080000001, 0x8000000080008081, 0x8000000000008009,
   0x000000000000008A, 0x0000000000000088, 0x0000000080008009, 0x000000008000000A,
   0x000000008000808B, 0x800000000000008B, 0x8000000000008089, 0x8000000000008003,
   0x8000000000008002, 0x8000000000000080, 0x000000000000800A, 0x800000008000000A,
   0x8000000080008081, 0x8000000000008080, 0x0000000080000001, 0x8000000080008008]

/-- Step θ: each word takes the parities of two neighbouring columns. -/
def theta (s : State) : State :=
  let parity : Vector UInt64 5 := Vector.ofFn fun x =>
    s.lane x 0 ^^^ s.lane x 1 ^^^ s.lane x 2 ^^^ s.lane x 3 ^^^ s.lane x 4
  let mix : Vector UInt64 5 := Vector.ofFn fun x =>
    parity.get (Fin.ofNat 5 (x.val + 4)) ^^^ rotateLeft (parity.get (Fin.ofNat 5 (x.val + 1))) 1
  State.build fun x y => s.lane x y ^^^ mix.get (Fin.ofNat 5 x)

/-- Steps ρ and π: each word is rotated and moved. The word that arrives in column `x` and row `y`
comes from column `x + 3 * y` and row `x`. -/
def rhoPi (s : State) : State :=
  State.build fun x y =>
    rotateLeft (s.lane (x + 3 * y) x) (rotations.get (Fin.ofNat 25 ((x + 3 * y) % 5 + 5 * x)))

/-- Step χ: the only step that is not linear, along each row. -/
def chi (s : State) : State :=
  State.build fun x y => s.lane x y ^^^ (~~~ s.lane (x + 1) y &&& s.lane (x + 2) y)

/-- Step ι: the constant of the round goes into the first word. -/
def iota (constant : UInt64) (s : State) : State :=
  s.set 0 (s.get 0 ^^^ constant)

/-- One round. -/
def round (s : State) (constant : UInt64) : State :=
  iota constant (chi (rhoPi (theta s)))

/-- The permutation: twenty-four rounds. -/
def permute (s : State) : State :=
  roundConstants.foldl round s

/-- Bytes in a block. -/
def rate : Nat := 136

/-- Eight bytes as a word, least significant first. -/
def wordOfBytes (bs : Bytes) : UInt64 :=
  bs.foldr (fun b w => w <<< 8 ||| b.toUInt64) 0

/-- A word as eight bytes, least significant first. -/
def bytesOfWord (w : UInt64) : Bytes :=
  (List.range 8).map fun i => (w >>> UInt64.ofNat (8 * i)).toUInt8

/-- Fills the text up to a whole number of blocks: a byte `0x01`, zeros, and the top bit of the
last byte. -/
def pad (text : Bytes) : Bytes :=
  let gap := rate - text.length % rate
  if gap = 1 then text ++ [0x81]
  else text ++ 0x01 :: List.replicate (gap - 2) 0 ++ [0x80]

/-- Adds one block to the state and permutes it. -/
def absorb (s : State) (block : Bytes) : State :=
  permute <| State.build fun x y =>
    let i := x + 5 * y
    if i < rate / 8 then s.lane x y ^^^ wordOfBytes ((block.drop (8 * i)).take 8) else s.lane x y

/-- Absorbs the first `count` blocks of the padded text. -/
def absorbAll : (count : Nat) → State → Bytes → State
  | 0, s, _ => s
  | count + 1, s, text => absorbAll count (absorb s (text.take rate)) (text.drop rate)

/-- The first `n` bytes of the state. -/
def squeeze (s : State) (n : Nat) : Bytes :=
  (s.toList.flatMap bytesOfWord).take n

theorem length_bytesOfWord (w : UInt64) : (bytesOfWord w).length = 8 := by
  simp [bytesOfWord]

theorem length_squeeze (s : State) {n : Nat} (h : n ≤ 200) : (squeeze s n).length = n := by
  have : (s.toList.flatMap bytesOfWord).length = 200 := by
    rw [List.length_flatMap]
    have : s.toList.map (fun w => (bytesOfWord w).length) = List.replicate 25 8 := by
      rw [List.eq_replicate_iff]
      refine ⟨by simp, fun k hk => ?_⟩
      obtain ⟨w, -, rfl⟩ := List.mem_map.1 hk
      exact length_bytesOfWord w
    rw [this]
    rfl
  simp [squeeze, this, h]

end Keccak

/-- The Keccak-256 digest of a byte string. -/
def keccak256 (text : Bytes) : Hash :=
  let padded := Keccak.pad text
  let final := Keccak.absorbAll (padded.length / Keccak.rate) (Vector.replicate 25 0) padded
  ⟨Keccak.squeeze final 32, Keccak.length_squeeze final (by decide)⟩

/-- The digest of a text's UTF-8 bytes. -/
def keccak256Text (text : String) : Hash :=
  keccak256 (Bytes.ofText text)

end MessageRelay
