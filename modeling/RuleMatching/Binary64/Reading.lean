import RuleMatching.Binary64
import RuleMatching.Text.Numeral
import RuleMatching.Text.Pieces

/-!
Reading a floating point number from a text: an optional sign, then digits with an optional point
and an optional exponent, or one of the names of infinity and of what is no number.  The result is
the number nearest to what the text says.
-/

set_option autoImplicit false
set_option relaxedAutoImplicit false

namespace RuleMatching.Binary64

/-- The exponent behind a mark `e` or `E`; no mark means zero, and anything else is refused. -/
def readExponent? : List Char → Option Int
  | [] => some 0
  | c :: cs =>
      if c = 'e' ∨ c = 'E' then
        match cs with
        | '-' :: r => (Numeral.digits? r).map fun n => -(n : Int)
        | '+' :: r => (Numeral.digits? r).map fun n => (n : Int)
        | r => (Numeral.digits? r).map fun n => (n : Int)
      else none

/-- Reads a number without a sign, apart from the names. -/
def readUnsigned? (negative : Bool) (cs : List Char) : Option Binary64 :=
  let whole := cs.takeWhile Char.isDigit
  let afterWhole := cs.dropWhile Char.isDigit
  let behind := match afterWhole with
    | '.' :: r => r.takeWhile Char.isDigit
    | _ => []
  let rest := match afterWhole with
    | '.' :: r => r.dropWhile Char.isDigit
    | r => r
  if whole.isEmpty && behind.isEmpty then none
  else (readExponent? rest).map fun e =>
    ofDecimal negative (Nat.ofDigitChars 10 (whole ++ behind) 0) (e - behind.length)

def read? (s : String) : Option Binary64 :=
  let negative := s.toList.head? == some '-'
  let body := match s.toList with
    | '-' :: r => r
    | '+' :: r => r
    | r => r
  let name := Text.lower (String.ofList body)
  if name = "inf" ∨ name = "infinity" then some (infinity negative)
  else if name = "nan" then some (nan negative)
  else readUnsigned? negative body

end RuleMatching.Binary64
