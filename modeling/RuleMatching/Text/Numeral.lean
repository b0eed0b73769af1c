/-!
Whole numbers in decimal notation.  `Numeral.digits?` reads one or more decimal digits;
`unsigned?` also takes a plus sign in front and `signed?` either sign, and both refuse a number
outside their range.  `Numeral.text` writes a number, and reading gives it back.
-/

set_option autoImplicit false
set_option relaxedAutoImplicit false

namespace RuleMatching.Numeral

def digits? (cs : List Char) : Option Nat :=
  if !cs.isEmpty && cs.all Char.isDigit then some (Nat.ofDigitChars 10 cs 0) else none

/-- Reads a number below `bound`; a plus sign may stand in front. -/
def unsigned? (bound : Nat) (cs : List Char) : Option Nat :=
  let body := match cs with
    | '+' :: r => r
    | _ => cs
  (digits? body).filter (· < bound)

/-- Reads a number from `-bound` up to but without `bound`; either sign may stand in front. -/
def signed? (bound : Nat) (cs : List Char) : Option Int :=
  match cs with
  | '-' :: r => ((digits? r).filter (· ≤ bound)).map fun n => -(n : Int)
  | '+' :: r => ((digits? r).filter (· < bound)).map fun n => (n : Int)
  | _ => ((digits? cs).filter (· < bound)).map fun n => (n : Int)

def wordBound : Nat := 18446744073709551616

/-- How many numbers without a sign fit 64 bits in two's complement. -/
def integerBound : Nat := 9223372036854775808

/-- Whether an integer fits 64 bits in two's complement. -/
def fitsInteger (i : Int) : Bool := -(integerBound : Int) ≤ i && i < (integerBound : Int)

/-- Reads an index: a number that fits 64 bits. -/
def index? (s : String) : Option Nat := unsigned? wordBound s.toList

def word? (cs : List Char) : Option UInt64 :=
  (unsigned? wordBound cs).map UInt64.ofNat

/-- Reads an integer that fits 64 bits in two's complement. -/
def integer? (cs : List Char) : Option Int64 :=
  (signed? integerBound cs).map Int64.ofInt

def digits (n : Nat) : List Char := Nat.toDigits 10 n

theorem digits_ne_nil (n : Nat) : digits n ≠ [] := by
  simp [digits]

theorem isDigit_of_mem_digits {n : Nat} {c : Char} (h : c ∈ digits n) : c.isDigit = true :=
  Nat.isDigit_of_mem_toDigits (by decide) (by decide) h

/-- The digits of a number read as that number. -/
theorem digits?_digits (n : Nat) : digits? (digits n) = some n := by
  have hall : (digits n).all Char.isDigit = true :=
    List.all_eq_true.mpr fun c hc => isDigit_of_mem_digits hc
  have hval : Nat.ofDigitChars 10 (digits n) 0 = n :=
    Nat.ofDigitChars_toDigits (by decide) (by decide)
  simp [digits?, digits_ne_nil, hall, hval]

def text (n : Nat) : String := String.ofList (digits n)

/-- A number that fits 64 bits is the index that its text stands for. -/
theorem index?_text {n : Nat} (h : n < wordBound) : index? (text n) = some n := by
  have hbody : unsigned? wordBound (digits n) = (digits? (digits n)).filter (· < wordBound) := by
    cases hdigits : digits n with
    | nil => exact absurd hdigits (digits_ne_nil n)
    | cons c cs =>
      have hc : c.isDigit = true := isDigit_of_mem_digits (by rw [hdigits]; exact List.mem_cons_self)
      rw [unsigned?]
      intro r hsign
      obtain ⟨rfl, -⟩ := List.cons.inj hsign
      exact absurd hc (by decide)
  rw [index?, text, String.toList_ofList, hbody, digits?_digits]
  simp [h]

theorem text_injective {m n : Nat} (h : text m = text n) : m = n := by
  have hdigits : digits m = digits n := String.ofList_injective h
  have hread := congrArg digits? hdigits
  rw [digits?_digits, digits?_digits] at hread
  exact Option.some.inj hread

def integerText (i : Int) : String :=
  if i < 0 then "-" ++ text i.natAbs else text i.natAbs

/-- Digits filled up in front with zeros to a least width. -/
def fillTo (width : Nat) (ds : List Char) : List Char :=
  List.replicate (width - ds.length) '0' ++ ds

/-- A number in decimal notation, filled up in front with zeros to a least width. -/
def paddedText (width n : Nat) : String := String.ofList (fillTo width (digits n))

def hexText (n : Nat) : String := String.ofList (Nat.toDigits 16 n)

def hexValue? (c : Char) : Option Nat :=
  if c.isDigit then some (c.toNat - 48)
  else if 'a' ≤ c ∧ c ≤ 'f' then some (c.toNat - 87)
  else if 'A' ≤ c ∧ c ≤ 'F' then some (c.toNat - 55)
  else none

end RuleMatching.Numeral
