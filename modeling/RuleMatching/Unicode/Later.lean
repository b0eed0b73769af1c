import RuleMatching.Unicode.Property

/-!
What version 17 of the standard adds to version 16.  The names of groups in patterns and texts in
quotation marks go by the later version, the sets that patterns name by the earlier one.
-/

set_option autoImplicit false
set_option relaxedAutoImplicit false

namespace RuleMatching.Unicode

def assignedLater : Runs := [
  2191, 2192, 3164, 3165, 3292, 3293, 6863, 6878, 6880, 6892, 8385, 8386, 11158, 11159, 42958,
  42960, 42962, 42963, 42964, 42965, 42993, 42994, 64451, 64467, 64912, 64914, 64968, 64975,
  67904, 67930, 69317, 69320, 69328, 69337, 69370, 69372, 72544, 72552, 73136, 73180, 73184,
  73194, 93856, 93881, 93883, 93908, 94194, 94199, 100344, 100352, 101641, 101663, 101760, 101875,
  118010, 118013, 118458, 118481, 118496, 118513, 124608, 124639, 124640, 124662, 124670, 124672,
  128728, 128729, 128887, 128891, 129232, 129241, 129620, 129624, 129674, 129675, 129678, 129679,
  129736, 129737, 129741, 129742, 129770, 129771, 129775, 129776, 130042, 130043, 177978, 177984,
  183970, 183982, 205744, 210042]

def alphabeticLater : Runs := [
  2191, 2192, 3164, 3165, 3292, 3293, 42958, 42960, 42962, 42963, 42964, 42965, 42993, 42994,
  67904, 67930, 69317, 69320, 69370, 69372, 72544, 72552, 73136, 73180, 93856, 93881, 93883,
  93908, 94194, 94199, 100344, 100352, 101641, 101663, 101760, 101875, 124608, 124639, 124640,
  124662, 124670, 124672, 177978, 177984, 183970, 183982, 205744, 210042]

def numbersLater : Runs := [
  73184, 73194, 94196, 94199]

/-- Those of them that extend the character in front. -/
def graphemeExtendLater : Runs := [
  6863, 6878, 6880, 6892, 69370, 69372, 72544, 72545, 72546, 72549, 72550, 72551, 124643, 124644,
  124646, 124647, 124654, 124656, 124661, 124662]

def isAlphabetic (n : Nat) : Bool := alphabetic.holds n || within alphabeticLater n

/-- Whether a code point is a digit or another number. -/
def isNumber (n : Nat) : Bool := hasCategory numbers n || within numbersLater n

/-- Whether a code point cannot be told from the character in front when printed.  The two voice
marks of halfwidth Katakana take a place of their own, although they count as extending. -/
def isAttached (n : Nat) : Bool :=
  (graphemeExtend.holds n || within graphemeExtendLater n) && n != 65438 && n != 65439

/-- Whether a code point shows when printed: it is neither a control or format character, nor
unassigned, nor a separator other than the space, nor ignored by default. -/
def isPrintable (n : Nat) : Bool :=
  n == 0x20 ||
    ((!hasCategory (separators ++ other) n || within assignedLater n) &&
      !defaultIgnorableCodePoint.holds n)

end RuleMatching.Unicode
