import RuleMatching.Binary64
import RuleMatching.Text.Numeral

/-!
The text of a floating point number: the fewest decimal digits that read back as the number,
written positionally, never with an exponent.  Of two such digit strings the nearer is taken, and
of two equally near the upper.
-/

set_option autoImplicit false
set_option relaxedAutoImplicit false

namespace RuleMatching.Binary64

/-- A positive number written as a whole number times a power of ten. -/
structure Decimal where
  digits : Nat
  power : Int
  deriving DecidableEq, Repr

/-- The numbers between these bounds round to one number of the format: the number is `4 * unit`
of some unit of size `num / den`, the bounds are whole multiples of the unit too, and they belong
to the interval when `closed`. -/
structure RoundingInterval where
  low : Nat
  value : Nat
  high : Nat
  num : Nat
  den : Nat
  closed : Bool

/-- The numbers that round to the positive finite number `x`. -/
def roundingInterval (x : Binary64) : RoundingInterval :=
  let m := x.significand
  let lowGap := if x.fractionField = 0 ∧ 1 < x.exponentField then 1 else 2
  let q := x.exponent - 2
  { low := 4 * m - lowGap
    value := 4 * m
    high := 4 * m + 2
    num := if 0 ≤ q then Nat.pow 2 q.toNat else 1
    den := if 0 ≤ q then 1 else Nat.pow 2 (-q).toNat
    closed := m % 2 == 0 }

/-- How many times `num` has to grow tenfold to reach `den`. -/
def tenfolds : Nat → Nat → Nat → Nat
  | 0, _, _ => 0
  | fuel + 1, num, den => if den ≤ num then 0 else tenfolds fuel (num * 10) den + 1

/-- The least `k` with `num / den < 10 ^ k`, for positive arguments. -/
def decimalExponent (num den : Nat) : Int :=
  if den ≤ num then ((Numeral.digits (num / den)).length : Int)
  else 1 - (tenfolds 400 num den : Int)

/-- Whether `digits * 10 ^ power` lies in the interval. -/
def RoundingInterval.holds (r : RoundingInterval) (d : Decimal) : Bool :=
  let up := if 0 ≤ d.power then Nat.pow 10 d.power.toNat else 1
  let down := if 0 ≤ d.power then 1 else Nat.pow 10 (-d.power).toNat
  let point := d.digits * up * r.den
  let low := r.low * r.num * down
  let high := r.high * r.num * down
  if r.closed then low ≤ point && point ≤ high else low < point && point < high

/-- The point of the grid of multiples of `10 ^ power` in the interval that is nearest to its
number. -/
def RoundingInterval.gridPoint? (r : RoundingInterval) (power : Int) : Option Decimal :=
  let up := if 0 ≤ power then Nat.pow 10 power.toNat else 1
  let down := if 0 ≤ power then 1 else Nat.pow 10 (-power).toNat
  let value := r.value * r.num * down
  let unit := up * r.den
  let below : Decimal := ⟨value / unit, power⟩
  let above : Decimal := ⟨value / unit + 1, power⟩
  match r.holds below, r.holds above with
  | false, false => none
  | true, false => some below
  | false, true => some above
  | true, true => if unit ≤ 2 * (value % unit) then some above else some below

/-- The first hit on the grids for `n`, `n + 1`, … digits, where all numbers have `k` digits before
the point. -/
def RoundingInterval.firstHit (r : RoundingInterval) (k : Int) : Nat → Nat → Decimal
  | 0, n => (r.gridPoint? (k - n)).getD ⟨0, 0⟩
  | fuel + 1, n =>
      match r.gridPoint? (k - n) with
      | some d => d
      | none => r.firstHit k fuel (n + 1)

/-- The shortest decimal that rounds to the positive finite number `x`. -/
def shortest (x : Binary64) : Decimal :=
  let r := x.roundingInterval
  r.firstHit (decimalExponent (r.value * r.num) r.den) 17 1

/-- A number in positional notation, without needless zeros behind the point. -/
def Decimal.text (d : Decimal) : String :=
  let ds := Numeral.digits d.digits
  if 0 ≤ d.power then String.ofList (ds ++ List.replicate d.power.toNat '0')
  else
    let places := (-d.power).toNat
    let filled := List.replicate (places + 1 - ds.length) '0' ++ ds
    let whole := filled.take (filled.length - places)
    let behind := ((filled.drop (filled.length - places)).reverse.dropWhile (· = '0')).reverse
    if behind.isEmpty then String.ofList whole
    else String.ofList (whole ++ '.' :: behind)

def text (x : Binary64) : String :=
  if x.isNaN then "NaN"
  else
    let size := if x.isInfinite then "inf" else if x.isZero then "0" else x.shortest.text
    if x.isNegative then "-" ++ size else size

end RuleMatching.Binary64
