import RuleMatching.Binary64
import RuleMatching.Text.Numeral

/-!
The nearest natural number of 64 bits to a floating point number.
-/

set_option autoImplicit false
set_option relaxedAutoImplicit false

namespace RuleMatching.Binary64

def greatestWord : Nat := Numeral.wordBound - 1

/-- The natural number of 64 bits nearest to a number, of two the greater one.  What is no number
counts as zero. -/
def toWord (x : Binary64) : Nat :=
  if x.isNaN || x.isNegative then 0
  else if x.isInfinite then greatestWord
  else
    let (num, den) := x.ratio
    min ((2 * num + den) / (2 * den)) greatestWord

end RuleMatching.Binary64
