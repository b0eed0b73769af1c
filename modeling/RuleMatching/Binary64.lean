/-!
Floating point numbers in the 64-bit binary format, as their bit patterns.  A finite number is a
whole significand times a power of two, and `ofRatio` rounds a quotient of natural numbers to the
nearest number of the format, in exact arithmetic.
-/

set_option autoImplicit false
set_option relaxedAutoImplicit false

namespace RuleMatching

/-- A floating point number, given by its 64 bits. -/
structure Binary64 where
  bits : UInt64
  deriving DecidableEq, Repr

namespace Binary64

def signUnit : Nat := 9223372036854775808

/-- What the last bit of the exponent counts: one more than the greatest fraction. -/
def exponentUnit : Nat := 4503599627370496

def isNegative (x : Binary64) : Bool := signUnit ≤ x.bits.toNat

def exponentField (x : Binary64) : Nat := x.bits.toNat / exponentUnit % 2048

def fractionField (x : Binary64) : Nat := x.bits.toNat % exponentUnit

def isNaN (x : Binary64) : Bool := x.exponentField == 2047 && x.fractionField != 0

/-- Whether the bits stand for one of the two infinities. -/
def isInfinite (x : Binary64) : Bool := x.exponentField == 2047 && x.fractionField == 0

/-- The whole number that, times two to the power of `exponent`, is the size of a finite number. -/
def significand (x : Binary64) : Nat :=
  if x.exponentField = 0 then x.fractionField else x.fractionField + exponentUnit

/-- The power of two that goes with `significand`. -/
def exponent (x : Binary64) : Int :=
  if x.exponentField = 0 then -1074 else (x.exponentField : Int) - 1075

/-- Whether a number is one of the two zeros. -/
def isZero (x : Binary64) : Bool := x.bits.toNat % signUnit == 0

/-- Equality of numbers: the two zeros are equal, and what is no number equals nothing. -/
def equals (x y : Binary64) : Bool :=
  !x.isNaN && !y.isNaN && (x.bits == y.bits || (x.isZero && y.isZero))

/-- The number with the given sign whose remaining bits are `magnitude`. -/
def ofFields (negative : Bool) (magnitude : Nat) : Binary64 :=
  ⟨UInt64.ofNat (magnitude + if negative then signUnit else 0)⟩

def infinityMagnitude : Nat := 2047 * exponentUnit

def infinity (negative : Bool) : Binary64 := ofFields negative infinityMagnitude

def nan (negative : Bool) : Binary64 := ofFields negative (infinityMagnitude + exponentUnit / 2)

/-- The number of the format with the other sign. -/
def negate (x : Binary64) : Binary64 := ofFields (!x.isNegative) (x.bits.toNat % signUnit)

/-- A quotient rounded to the nearest whole number, a half to the even neighbour. -/
def roundQuotient (num den : Nat) : Nat :=
  let q := num / den
  let r := num % den
  if 2 * r < den then q
  else if den < 2 * r then q + 1
  else if q % 2 = 0 then q else q + 1

/-- The greatest `e` with `2 ^ e ≤ num / den`, for positive arguments. -/
def binaryExponent (num den : Nat) : Int :=
  let e : Int := (num.log2 : Int) - den.log2
  let reaches := if 0 ≤ e then den * Nat.pow 2 e.toNat ≤ num else den ≤ num * Nat.pow 2 (-e).toNat
  if reaches then e else e - 1

/-- The number nearest to `num / den`, of two equally near the one with the even significand.  A
quotient beyond the greatest number rounds to infinity. -/
def ofRatio (negative : Bool) (num den : Nat) : Binary64 :=
  if num = 0 then ofFields negative 0 else
  let q := max (binaryExponent num den - 52) (-1074)
  let m := if 0 ≤ q then roundQuotient num (den * Nat.pow 2 q.toNat)
    else roundQuotient (num * Nat.pow 2 (-q).toNat) den
  let magnitude := (q + 1074).toNat * exponentUnit + m
  if infinityMagnitude ≤ magnitude then infinity negative else ofFields negative magnitude

/-- The size of a finite number as a quotient of natural numbers. -/
def ratio (x : Binary64) : Nat × Nat :=
  if 0 ≤ x.exponent then (x.significand * Nat.pow 2 x.exponent.toNat, 1)
  else (x.significand, Nat.pow 2 (-x.exponent).toNat)

/-- The number nearest to `digits * 10 ^ power`. -/
def ofDecimal (negative : Bool) (digits : Nat) (power : Int) : Binary64 :=
  let size := ((Nat.toDigits 10 digits).length : Int) + power
  if digits = 0 then ofFields negative 0
  else if 400 < size then infinity negative
  else if size < -400 then ofFields negative 0
  else if 0 ≤ power then ofRatio negative (digits * Nat.pow 10 power.toNat) 1
  else ofRatio negative digits (Nat.pow 10 (-power).toNat)

/-- The product of the sizes of two finite numbers, rounded. -/
def timesSize (x y : Binary64) : Binary64 :=
  ofRatio false (x.ratio.1 * y.ratio.1) (x.ratio.2 * y.ratio.2)

/-- The quotient of the sizes of two finite numbers, rounded. -/
def overSize (x y : Binary64) : Binary64 :=
  ofRatio false (x.ratio.1 * y.ratio.2) (x.ratio.2 * y.ratio.1)

end Binary64

end RuleMatching
