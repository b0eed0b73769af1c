import RuleMatching.Unicode.Property

/-!
Classes of code points that decide where characters, words and sentences begin and end, by the rules
of version 16 of the standard.
-/

set_option autoImplicit false
set_option relaxedAutoImplicit false

namespace RuleMatching.Unicode

def codePoints (ns : List Nat) : CodeSet := .unions (ns.map fun n => .runs [n, n + 1])

def GraphemeBreak.cr : CodeSet := codePoints [13]

def GraphemeBreak.lf : CodeSet := codePoints [10]

def GraphemeBreak.zwj : CodeSet := codePoints [8205]

def GraphemeBreak.extend : CodeSet := .union graphemeExtend emojiModifier

def GraphemeBreak.control : CodeSet := .difference
    (.union (ofCategories [.lineSeparator, .paragraphSeparator, .control, .format])
      (.intersection (ofCategories [.unassigned]) defaultIgnorableCodePoint))
    (.unions [codePoints [10, 13, 8205], graphemeExtend, prependedConcatenationMark])

def GraphemeBreak.regionalIndicator : CodeSet := Unicode.regionalIndicator

def GraphemeBreak.prepend : CodeSet := .union prependedConcatenationMark
    (.runs [
      3406, 3407, 70082, 70084, 70609, 70610, 71999, 72000, 72001, 72002, 72250, 72251, 72324,
      72330, 73030, 73031, 73474, 73475])

def GraphemeBreak.spacingMark : CodeSet := .union (codePoints [3635, 3763])
    (.difference (ofCategories [.spacingMark])
      (.union graphemeExtend
        (.runs [
        4139, 4141, 4152, 4153, 4194, 4197, 4199, 4206, 4227, 4228, 4231, 4237, 4239, 4240, 4250,
        4253, 6753, 6754, 6755, 6757, 43643, 43644, 43645, 43646, 71456, 71458])))

def GraphemeBreak.l : CodeSet := .runs [4352, 4448, 43360, 43389]

def GraphemeBreak.v : CodeSet := .runs [4448, 4520, 55216, 55239, 93539, 93540, 93543, 93547]

def GraphemeBreak.t : CodeSet := .runs [4520, 4608, 55243, 55292]

def GraphemeBreak.lv : CodeSet :=
  .runs ((List.range 399).flatMap fun k => [44032 + 28 * k, 44033 + 28 * k])

def GraphemeBreak.lvt : CodeSet := .difference (.runs [44032, 55204]) GraphemeBreak.lv

def WordBreak.cr : CodeSet := codePoints [13]

def WordBreak.lf : CodeSet := codePoints [10]

def WordBreak.newline : CodeSet := codePoints [11, 12, 133, 8232, 8233]

def WordBreak.zwj : CodeSet := codePoints [8205]

def WordBreak.extend : CodeSet :=
  .difference (.unions [graphemeExtend, ofCategories [.spacingMark], emojiModifier])
    (codePoints [8205])

def WordBreak.format : CodeSet := .difference (ofCategories [.format])
    (.unions [codePoints [8203, 8205], graphemeExtend, prependedConcatenationMark])

def WordBreak.katakana : CodeSet := .runs [
  12337, 12342, 12443, 12445, 12448, 12539, 12540, 12544, 12784, 12800, 13008, 13055, 13056,
  13144, 65382, 65438, 110576, 110580, 110581, 110588, 110589, 110591, 110592, 110593, 110880,
  110883, 110933, 110934, 110948, 110952]

def WordBreak.hebrewLetter : CodeSet := .runs [
  1488, 1515, 1519, 1523, 64285, 64286, 64287, 64297, 64298, 64311, 64312, 64317, 64318, 64319,
  64320, 64322, 64323, 64325, 64326, 64336]

/-- The code points that count as letters of words besides the alphabetic ones. -/
def wordLetterAdditions : Runs := [
  706, 710, 722, 728, 734, 736, 741, 748, 749, 750, 751, 768, 1370, 1373, 1374, 1375, 1418, 1419,
  1523, 1524, 1807, 1808, 42760, 42775, 42784, 42786, 42889, 42891, 43867, 43868]

/-- The alphabetic code points of scripts that are written without spaces. -/
def wordLetterOmissions : Runs := [
  3585, 3633, 3634, 3636, 3648, 3655, 3713, 3715, 3716, 3717, 3718, 3723, 3724, 3748, 3749, 3750,
  3751, 3761, 3762, 3764, 3773, 3774, 3776, 3781, 3782, 3783, 3804, 3808, 4096, 4139, 4159, 4160,
  4176, 4182, 4186, 4190, 4193, 4194, 4197, 4199, 4206, 4209, 4213, 4226, 4238, 4239, 6016, 6068,
  6103, 6104, 6108, 6109, 6480, 6510, 6512, 6517, 6528, 6572, 6576, 6602, 6688, 6741, 6823, 6824,
  12353, 12439, 12445, 12448, 43488, 43493, 43494, 43504, 43514, 43519, 43616, 43639, 43642,
  43643, 43646, 43696, 43697, 43698, 43701, 43703, 43705, 43710, 43712, 43713, 43714, 43715,
  43739, 43742, 71424, 71451, 71488, 71495, 110593, 110880, 110898, 110899, 110928, 110931]

def WordBreak.aLetter : CodeSet := .union (.runs wordLetterAdditions)
    (.difference alphabetic
      (.unions [ideographic, WordBreak.extend, WordBreak.hebrewLetter, WordBreak.katakana,
        .runs wordLetterOmissions]))

def WordBreak.singleQuote : CodeSet := codePoints [39]

def WordBreak.doubleQuote : CodeSet := codePoints [34]

def WordBreak.midNumLet : CodeSet := .runs [
  46, 47, 8216, 8218, 8228, 8229, 65106, 65107, 65287, 65288, 65294, 65295]

def WordBreak.midLetter : CodeSet := .runs [
  58, 59, 183, 184, 903, 904, 1375, 1376, 1524, 1525, 8231, 8232, 65043, 65044, 65109, 65110,
  65306, 65307]

def WordBreak.midNum : CodeSet := .runs [
  44, 45, 59, 60, 894, 895, 1417, 1418, 1548, 1550, 1644, 1645, 2040, 2041, 8260, 8261, 65104,
  65105, 65108, 65109, 65292, 65293, 65307, 65308]

def SentenceBreak.numeric : CodeSet := .union (ofCategories [.decimalNumber])
    (.runs [
      1536, 1542, 1643, 1645, 1757, 1758, 2192, 2194, 2274, 2275, 6618, 6619, 69821, 69822, 69837,
      69838])

def WordBreak.numeric : CodeSet := .difference SentenceBreak.numeric (codePoints [1644])

def WordBreak.extendNumLet : CodeSet :=
  .union (ofCategories [.connectorPunctuation]) (codePoints [8239])

def WordBreak.wSegSpace : CodeSet :=
  .difference (ofCategories [.spaceSeparator]) (codePoints [160, 8199, 8239])

def WordBreak.regionalIndicator : CodeSet := Unicode.regionalIndicator

def SentenceBreak.cr : CodeSet := codePoints [13]

def SentenceBreak.lf : CodeSet := codePoints [10]

def SentenceBreak.extend : CodeSet :=
  .unions [graphemeExtend, ofCategories [.spacingMark], codePoints [8205]]

def SentenceBreak.sep : CodeSet := codePoints [133, 8232, 8233]

def SentenceBreak.format : CodeSet := .difference (ofCategories [.format])
    (.unions [codePoints [8205], graphemeExtend, SentenceBreak.numeric])

def SentenceBreak.sp : CodeSet :=
  .difference whiteSpace (.union SentenceBreak.sep (codePoints [10, 13]))

def SentenceBreak.lower : CodeSet :=
  .difference lowercase (.union graphemeExtend (.runs [4304, 4347, 4349, 4352]))

def SentenceBreak.upper : CodeSet :=
  .difference (.union uppercase (ofCategories [.titlecaseLetter]))
    (.runs [7312, 7355, 7357, 7360])

def SentenceBreak.oLetter : CodeSet := .union (codePoints [1523])
    (.difference alphabetic
      (.unions [SentenceBreak.lower, SentenceBreak.upper, SentenceBreak.extend]))

def SentenceBreak.aTerm : CodeSet := codePoints [46, 8228, 65106, 65294]

def SentenceBreak.sContinue : CodeSet := .runs [
  44, 46, 58, 60, 894, 895, 1373, 1374, 1548, 1550, 2040, 2041, 6146, 6147, 6152, 6153, 8211,
  8213, 12289, 12290, 65040, 65042, 65043, 65045, 65073, 65075, 65104, 65106, 65108, 65110, 65112,
  65113, 65123, 65124, 65292, 65294, 65306, 65308, 65380, 65381]

def SentenceBreak.sTerm : CodeSet := .difference sentenceTerminal SentenceBreak.aTerm

def SentenceBreak.close : CodeSet := .difference
    (.unions [ofCategories [.openPunctuation, .closePunctuation, .initialPunctuation,
      .finalPunctuation], quotationMark,
      .runs [
  10075, 10081, 11776, 11778, 11782, 11785, 11787, 11788, 128630, 128633]])
    (codePoints [65282, 65287])

/-- The classes of characters by name, in lower case without separators. -/
def graphemeBreaks : List (List String × CodeSet) :=
  [(["cr"], GraphemeBreak.cr),
   (["cn", "control"], GraphemeBreak.control),
   (["ex", "extend"], GraphemeBreak.extend),
   (["l"], GraphemeBreak.l),
   (["lf"], GraphemeBreak.lf),
   (["lv"], GraphemeBreak.lv),
   (["lvt"], GraphemeBreak.lvt),
   (["pp", "prepend"], GraphemeBreak.prepend),
   (["ri", "regionalindicator"], GraphemeBreak.regionalIndicator),
   (["sm", "spacingmark"], GraphemeBreak.spacingMark),
   (["t"], GraphemeBreak.t),
   (["v"], GraphemeBreak.v),
   (["zwj"], GraphemeBreak.zwj)]

/-- The classes of words by name, in lower case without separators. -/
def wordBreaks : List (List String × CodeSet) :=
  [(["le", "aletter"], WordBreak.aLetter),
   (["cr"], WordBreak.cr),
   (["dq", "doublequote"], WordBreak.doubleQuote),
   (["extend"], WordBreak.extend),
   (["ex", "extendnumlet"], WordBreak.extendNumLet),
   (["fo", "format"], WordBreak.format),
   (["hl", "hebrewletter"], WordBreak.hebrewLetter),
   (["ka", "katakana"], WordBreak.katakana),
   (["lf"], WordBreak.lf),
   (["ml", "midletter"], WordBreak.midLetter),
   (["mn", "midnum"], WordBreak.midNum),
   (["mb", "midnumlet"], WordBreak.midNumLet),
   (["nl", "newline"], WordBreak.newline),
   (["nu", "numeric"], WordBreak.numeric),
   (["ri", "regionalindicator"], WordBreak.regionalIndicator),
   (["sq", "singlequote"], WordBreak.singleQuote),
   (["wsegspace"], WordBreak.wSegSpace),
   (["zwj"], WordBreak.zwj)]

/-- The classes of sentences by name, in lower case without separators. -/
def sentenceBreaks : List (List String × CodeSet) :=
  [(["at", "aterm"], SentenceBreak.aTerm),
   (["cr"], SentenceBreak.cr),
   (["cl", "close"], SentenceBreak.close),
   (["ex", "extend"], SentenceBreak.extend),
   (["fo", "format"], SentenceBreak.format),
   (["lf"], SentenceBreak.lf),
   (["lo", "lower"], SentenceBreak.lower),
   (["nu", "numeric"], SentenceBreak.numeric),
   (["le", "oletter"], SentenceBreak.oLetter),
   (["sc", "scontinue"], SentenceBreak.sContinue),
   (["st", "sterm"], SentenceBreak.sTerm),
   (["se", "sep"], SentenceBreak.sep),
   (["sp"], SentenceBreak.sp),
   (["up", "upper"], SentenceBreak.upper)]

end RuleMatching.Unicode
