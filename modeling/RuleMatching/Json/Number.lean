import RuleMatching.Json
import RuleMatching.Text.Numeral

/-!
Numbers in JSON texts.  The digits are gathered into a 64-bit significand; digits that do not fit
it any more only count towards the power of ten.  A number with a fraction, an exponent or too many
digits is the significand, rounded, times or divided by that power of ten, rounded again.
-/

set_option autoImplicit false
set_option relaxedAutoImplicit false

namespace RuleMatching.Json

/-- Extends a significand by digits from the front of a text while it fits 64 bits.  The result is
the significand, the number of digits taken and the rest. -/
def gather (significand taken : Nat) : List Char → Nat × Nat × List Char
  | [] => (significand, taken, [])
  | c :: cs =>
      let next := 10 * significand + (c.toNat - 48)
      if c.isDigit && next < Numeral.wordBound then gather next (taken + 1) cs
      else (significand, taken, c :: cs)

/-- A power of ten up to the 308th, rounded. -/
def powerOfTen (n : Nat) : Binary64 := Binary64.ofRatio false (Nat.pow 10 n) 1

/-- The size of a number with the given significand and power of ten; numbers too large for the
format are refused.  Each round brings a far too small power nearer by 308. -/
def scale? : Nat → Binary64 → Int → Option Binary64
  | 0, x, _ => some x
  | rounds + 1, x, power =>
      if power.natAbs ≤ 308 then
        if 0 ≤ power then
          let y := x.timesSize (powerOfTen power.natAbs)
          if y.isInfinite then none else some y
        else some (x.overSize (powerOfTen power.natAbs))
      else if x.isZero then some x
      else if 0 ≤ power then none
      else scale? rounds (x.overSize (powerOfTen 308)) (power + 308)

/-- A floating point number from its sign, significand and power of ten. -/
def floatOfParts? (negative : Bool) (significand : Nat) (power : Int) : Option Json :=
  (scale? 4 (Binary64.ofRatio false significand 1) power).map fun x =>
    float (if negative then x.negate else x)

/-- The greatest exponent that is not taken for an endless one. -/
def maxExponent : Nat := 2147483647

/-- Reads an exponent behind its mark and makes the number. -/
def readExponent (negative : Bool) (significand : Nat) (power : Int) (cs : List Char) :
    Option (Json × List Char) :=
  let shrinks := cs.head? == some '-'
  let cs := match cs with
    | '+' :: r => r
    | '-' :: r => r
    | r => r
  let ds := cs.takeWhile Char.isDigit
  let rest := cs.dropWhile Char.isDigit
  let e := Nat.ofDigitChars 10 ds 0
  if ds.isEmpty then none
  else if maxExponent < e then
    if significand ≠ 0 ∧ !shrinks then none
    else some (float (Binary64.ofFields negative 0), rest)
  else
    (floatOfParts? negative significand (if shrinks then power - e else power + e)).map fun j =>
      (j, rest)

/-- Goes on behind the digits of a floating point number. -/
def readTail (negative : Bool) (significand : Nat) (power : Int) (cs : List Char) :
    Option (Json × List Char) :=
  match cs with
  | 'e' :: r => readExponent negative significand power r
  | 'E' :: r => readExponent negative significand power r
  | _ => (floatOfParts? negative significand power).map fun j => (j, cs)

/-- A number without a fraction and an exponent whose digits all fit the significand. -/
def ofWhole (negative : Bool) (significand : Nat) : Json :=
  if !negative then int significand
  else if significand = 0 ∨ Numeral.integerBound < significand then
    float (Binary64.ofRatio true significand 1)
  else int (-(significand : Int))

/-- Goes on behind the whole part of a number, of which `dropped` digits did not fit. -/
def readBehindWhole (negative : Bool) (significand dropped : Nat) (cs : List Char) :
    Option (Json × List Char) :=
  match cs with
  | '.' :: r =>
      let (s, taken, rest) := gather significand 0 r
      if (r.takeWhile Char.isDigit).isEmpty then none
      else readTail negative s ((dropped : Int) - taken) (rest.dropWhile Char.isDigit)
  | 'e' :: r => readExponent negative significand dropped r
  | 'E' :: r => readExponent negative significand dropped r
  | _ =>
      if dropped = 0 then some (ofWhole negative significand, cs)
      else readTail negative significand dropped cs

/-- Reads a number behind its sign.  A zero in front of other digits is refused. -/
def readUnsigned (negative : Bool) (cs : List Char) : Option (Json × List Char) :=
  match cs with
  | '0' :: c :: r => if c.isDigit then none else readBehindWhole negative 0 0 (c :: r)
  | _ =>
      let (s, taken, rest) := gather 0 0 cs
      if taken = 0 then none
      else readBehindWhole negative s (rest.takeWhile Char.isDigit).length
        (rest.dropWhile Char.isDigit)

/-- Reads a number from the front of a text. -/
def readNumber : List Char → Option (Json × List Char)
  | '-' :: r => readUnsigned true r
  | cs => readUnsigned false cs

end RuleMatching.Json
