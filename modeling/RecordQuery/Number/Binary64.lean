/-!
# Binary floating-point numbers

A number is its word of 64 bits: sign, exponent field, fraction. Order is read off the word: on the
words of numbers the signed magnitude `rank` grows with the value, and the two zeros share a rank.
Ratios of integers are rounded exactly, to the nearest number and to the even one of two equally
near.
-/

namespace RecordQuery

structure Binary64 where
  bits : UInt64
deriving DecidableEq, Inhabited

namespace Binary64

def isNegative (x : Binary64) : Bool := 1 <<< 63 ≤ x.bits.toNat

def magnitude (x : Binary64) : Nat := x.bits.toNat % (1 <<< 63)

/-- The magnitude of the infinities; larger ones belong to no number. -/
def infinityMagnitude : Nat := 2047 <<< 52

def isNaN (x : Binary64) : Bool := infinityMagnitude < x.magnitude

def isInfinite (x : Binary64) : Bool := x.magnitude == infinityMagnitude

def ofMagnitude (negative : Bool) (magnitude : Nat) : Binary64 :=
  ⟨UInt64.ofNat (magnitude + if negative then 1 <<< 63 else 0)⟩

def nan : Binary64 := ofMagnitude false (infinityMagnitude + 1 <<< 51)

def infinity (negative : Bool) : Binary64 := ofMagnitude negative infinityMagnitude

def zero (negative : Bool) : Binary64 := ofMagnitude negative 0

def rank (x : Binary64) : Int := if x.isNegative then -(x.magnitude : Int) else x.magnitude

def compare? (x y : Binary64) : Option Ordering :=
  if x.isNaN || y.isNaN then none else some (compare x.rank y.rank)

theorem compare?_eq_none_iff {x y : Binary64} :
    compare? x y = none ↔ x.isNaN = true ∨ y.isNaN = true := by
  cases hx : x.isNaN <;> cases hy : y.isNaN <;> simp [compare?, hx, hy]

theorem compare?_eq_some_iff {x y : Binary64} {o : Ordering} :
    compare? x y = some o ↔ x.isNaN = false ∧ y.isNaN = false ∧ compare x.rank y.rank = o := by
  cases hx : x.isNaN <;> cases hy : y.isNaN <;> simp [compare?, hx, hy]

/-- Significand and exponent of a finite number's absolute value, `m * 2 ^ e`. -/
def significand (x : Binary64) : Nat × Int :=
  let field : Nat := x.magnitude / (1 <<< 52)
  let fraction := x.magnitude % (1 <<< 52)
  if field = 0 then (fraction, -1074) else (1 <<< 52 + fraction, (field : Int) - 1075)

/-- The quotient `num / (den * 2 ^ e)` as a pair of natural numbers. -/
def scaled (num den : Nat) (e : Int) : Nat × Nat :=
  (num <<< (-e).toNat, den <<< e.toNat)

def divideToEven (num den : Nat) : Nat :=
  let quotient := num / den
  match compare (2 * (num % den)) den with
  | .lt => quotient
  | .eq => quotient + quotient % 2
  | .gt => quotient + 1

/-- The multiple `m * 2 ^ e` nearest to a ratio among those of `precision` binary digits, where `e`
is not below `least`. -/
def roundTo (precision : Nat) (least : Int) (num den : Nat) : Nat × Int :=
  let low : Int := (num.log2 : Int) - den.log2 - precision
  let (n, d) := scaled num den low
  let e := max least (if n / d < 1 <<< precision then low else low + 1)
  let (n, d) := scaled num den e
  (divideToEven n d, e)

/-- The number nearest to `num / den`. -/
def ofRatio (negative : Bool) (num den : Nat) : Binary64 :=
  if num = 0 then zero negative else
    let (m, e) := roundTo 53 (-1074) num den
    ofMagnitude negative (min infinityMagnitude ((e + 1074).toNat <<< 52 + m))

/-- The number nearest to the product of two finite numbers. -/
def mul (x y : Binary64) : Binary64 :=
  let (m, e) := x.significand
  let (n, f) := y.significand
  let (num, den) := scaled (m * n) 1 (-(e + f))
  ofRatio (x.isNegative != y.isNegative) num den

def ofInt (n : Int) : Binary64 := ofRatio (n < 0) n.natAbs 1

/-- The number nearest to `digits * 10 ^ exponent`. Far outside the range of the format the power
of ten is not computed. -/
def ofDecimalWith (round : Nat → Nat → Binary64) (negative : Bool) (digits : Nat) (exponent : Int) :
    Binary64 :=
  let size : Int := (Nat.toDigits 10 digits).length + exponent
  if digits = 0 ∨ size < -330 then zero negative
  else if 310 < size then infinity negative
  else round (digits * Nat.pow 10 exponent.toNat) (Nat.pow 10 (-exponent).toNat)

def ofDecimal (negative : Bool) (digits : Nat) (exponent : Int) : Binary64 :=
  ofDecimalWith (ofRatio negative) negative digits exponent

/-- The nearest number of the 32-bit format, which all are 64-bit numbers too. -/
def ofRatioSingle (negative : Bool) (num den : Nat) : Binary64 :=
  let (m, e) := roundTo 24 (-149) num den
  if 1 <<< 128 ≤ m <<< e.toNat then infinity negative
  else ofRatio negative (m <<< e.toNat) (1 <<< (-e).toNat)

def ofDecimalSingle (negative : Bool) (digits : Nat) (exponent : Int) : Binary64 :=
  ofDecimalWith (ofRatioSingle negative) negative digits exponent

end Binary64

end RecordQuery
