import MessageRelay.Binary

/-!
# Durations

A duration counts nanoseconds. Timers count whole milliseconds and never go off early: what is to
last for a duration lasts for the least number of milliseconds that is no shorter
(`MessageRelay.Duration.millisUp`).

Seconds as binary floating point come in two directions:
`MessageRelay.Duration.toSeconds` and `MessageRelay.Duration.ofSeconds?`, which rounds to the
nearest nanosecond, a half to the even one, and has no answer below zero, from two to the power
of 64 seconds on, and for what is not a number.
-/

namespace MessageRelay

/-- A length of time. -/
structure Duration where
  /-- The length in nanoseconds. -/
  nanos : Nat
deriving DecidableEq, Inhabited

namespace Duration

/-- Nanoseconds in a second. -/
def nanosPerSecond : Nat := 1000000000

/-- Nanoseconds in a millisecond. -/
def nanosPerMilli : Nat := 1000000

/-- No time. -/
def zero : Duration := ⟨0⟩

/-- Whole milliseconds. -/
def ofMillis (ms : Nat) : Duration :=
  ⟨nanosPerMilli * ms⟩

/-- Whole seconds. -/
def ofSecs (secs : Nat) : Duration :=
  ⟨secs * nanosPerSecond⟩

/-- The longest duration: 64 bits of seconds and all nanoseconds of a further second but none of
the next. -/
def max : Duration :=
  ⟨UInt64.size * nanosPerSecond - 1⟩

/-- The whole seconds. -/
def secs (d : Duration) : Nat :=
  d.nanos / nanosPerSecond

/-- The nanoseconds beyond the whole seconds. -/
def subsecNanos (d : Duration) : Nat :=
  d.nanos % nanosPerSecond

/-- The least number of whole milliseconds that is no shorter. -/
def millisUp (d : Duration) : Nat :=
  d.nanos / nanosPerMilli + min 1 (d.nanos % nanosPerMilli)

/-! ### Order and sums -/

@[ext] theorem ext {a b : Duration} (h : a.nanos = b.nanos) : a = b := by
  cases a
  cases b
  exact congrArg mk h

instance : LT Duration := ⟨fun a b => a.nanos < b.nanos⟩

instance : LE Duration := ⟨fun a b => a.nanos ≤ b.nanos⟩

instance (a b : Duration) : Decidable (a < b) :=
  inferInstanceAs (Decidable (a.nanos < b.nanos))

instance (a b : Duration) : Decidable (a ≤ b) :=
  inferInstanceAs (Decidable (a.nanos ≤ b.nanos))

instance : Min Duration := minOfLe

instance : Add Duration := ⟨fun a b => ⟨a.nanos + b.nanos⟩⟩

theorem lt_iff {a b : Duration} : a < b ↔ a.nanos < b.nanos := Iff.rfl

theorem le_iff {a b : Duration} : a ≤ b ↔ a.nanos ≤ b.nanos := Iff.rfl

@[simp] theorem nanos_zero : zero.nanos = 0 := rfl

@[simp] theorem nanos_add (a b : Duration) : (a + b).nanos = a.nanos + b.nanos := rfl

theorem eq_zero_iff {d : Duration} : d = zero ↔ d.nanos = 0 := by
  rw [Duration.ext_iff, nanos_zero]

theorem nanos_pos {d : Duration} (h : d ≠ zero) : 0 < d.nanos :=
  Nat.pos_of_ne_zero (mt eq_zero_iff.mpr h)

theorem nanos_min (a b : Duration) : (min a b).nanos = min a.nanos b.nanos := by
  show (if a ≤ b then a else b).nanos = _
  simp only [le_iff]
  split <;> omega

theorem min_eq_left {a b : Duration} (h : a ≤ b) : min a b = a :=
  Duration.ext ((nanos_min a b).trans (Nat.min_eq_left h))

theorem min_eq_right {a b : Duration} (h : b ≤ a) : min a b = b :=
  Duration.ext ((nanos_min a b).trans (Nat.min_eq_right h))

/-! ### Rounding up -/

@[simp] theorem millisUp_zero : zero.millisUp = 0 := rfl

@[simp] theorem millisUp_ofMillis (ms : Nat) : (ofMillis ms).millisUp = ms := by
  simp only [millisUp, ofMillis, nanosPerMilli]
  omega

/-- Rounded up, a duration is the least number of milliseconds that is no shorter. -/
theorem millisUp_le_iff {d : Duration} {ms : Nat} :
    d.millisUp ≤ ms ↔ d.nanos ≤ nanosPerMilli * ms := by
  simp only [millisUp, nanosPerMilli]
  omega

theorem le_ofMillis_iff {d : Duration} {ms : Nat} : d ≤ ofMillis ms ↔ d.millisUp ≤ ms :=
  millisUp_le_iff.symm

theorem millisUp_mono {a b : Duration} (h : a ≤ b) : a.millisUp ≤ b.millisUp :=
  millisUp_le_iff.mpr (Nat.le_trans h (millisUp_le_iff.mp (Nat.le_refl _)))

theorem nanos_lt_of_millisUp_lt {d : Duration} {ms : Nat} (h : d.millisUp < ms) :
    d.nanos < nanosPerMilli * ms := by
  simp only [millisUp, nanosPerMilli] at h ⊢
  omega

theorem ofMillis_eq_zero_iff {ms : Nat} : ofMillis ms = zero ↔ ms = 0 := by
  simp only [eq_zero_iff, ofMillis, nanosPerMilli]
  omega

theorem ofMillis_add (a b : Nat) : ofMillis (a + b) = ofMillis a + ofMillis b :=
  Duration.ext (Nat.mul_add _ a b)

theorem ofMillis_le_iff {a b : Nat} : ofMillis a ≤ ofMillis b ↔ a ≤ b := by
  rw [le_ofMillis_iff, millisUp_ofMillis]

theorem ofMillis_lt_iff {a b : Nat} : ofMillis a < ofMillis b ↔ a < b := by
  simp only [lt_iff, ofMillis, nanosPerMilli]
  omega

/-! ### Floating-point seconds -/

/-- The length in seconds, as the sum of the rounded seconds and the rounded rest. -/
def toSeconds (d : Duration) : Float :=
  d.secs.toUInt64.toFloat + d.subsecNanos.toUInt64.toFloat / 1000000000.0

/-- A quotient rounded to the nearest whole number, a half to the even one. -/
def divNearest (num den : Nat) : Nat :=
  let q := num / den
  let twice := 2 * (num % den)
  if twice < den then q else if den < twice then q + 1 else q + q % 2

/-- A number of seconds as a duration. -/
def ofSeconds? (x : Float) : Option Duration :=
  if x < 0 then none
  else
    let b := Binary.ofFloat x
    if 1023 + 64 ≤ b.exponent then none
    else if b.exponent = 0 then some ⟨0⟩
    else if 1075 ≤ b.exponent then
      some ⟨(b.significand <<< (b.exponent - 1075)) * nanosPerSecond⟩
    else some ⟨divNearest (b.significand * nanosPerSecond) (1 <<< (1075 - b.exponent))⟩

end Duration

end MessageRelay
