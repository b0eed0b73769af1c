import RuleMatching.Unicode.Runs

/-!
Simple case folding, by version 16 of the standard.  Two code points are alike up to case when they
fold to the same one; most such classes are pairs that lie in regular runs, and the few larger ones
are listed.
-/

set_option autoImplicit false
set_option relaxedAutoImplicit false

namespace RuleMatching.Unicode

/-- A run of pairs alike up to case: `count` lesser members from `first` on, `stride` apart, each
with its partner `shift` above it. -/
structure PairRun where
  first : Nat
  count : Nat
  stride : Nat
  shift : Nat

/-- Whether a code point is a lesser member of the run. -/
def PairRun.hasLesser (r : PairRun) (n : Nat) : Bool :=
  r.first ≤ n && (n - r.first) % r.stride == 0 && (n - r.first) / r.stride < r.count

/-- The partner that a code point has in the run, if it is in it. -/
def PairRun.partner? (r : PairRun) (n : Nat) : Option Nat :=
  if r.hasLesser n then some (n + r.shift)
  else if r.shift ≤ n && r.hasLesser (n - r.shift) then some (n - r.shift)
  else none

def pairRuns : List PairRun := [
  ⟨65, 10, 1, 32⟩, ⟨76, 7, 1, 32⟩, ⟨84, 7, 1, 32⟩, ⟨192, 5, 1, 32⟩, ⟨198, 17, 1, 32⟩,
  ⟨216, 7, 1, 32⟩, ⟨223, 1, 1, 7615⟩, ⟨255, 1, 1, 121⟩, ⟨256, 24, 2, 1⟩, ⟨306, 3, 2, 1⟩,
  ⟨313, 8, 2, 1⟩, ⟨330, 23, 2, 1⟩, ⟨377, 3, 2, 1⟩, ⟨384, 1, 1, 195⟩, ⟨385, 1, 1, 210⟩,
  ⟨386, 2, 2, 1⟩, ⟨390, 1, 1, 206⟩, ⟨391, 1, 1, 1⟩, ⟨393, 2, 1, 205⟩, ⟨395, 1, 1, 1⟩,
  ⟨398, 1, 1, 79⟩, ⟨399, 1, 1, 202⟩, ⟨400, 1, 1, 203⟩, ⟨401, 1, 1, 1⟩, ⟨403, 1, 1, 205⟩,
  ⟨404, 1, 1, 207⟩, ⟨405, 1, 1, 97⟩, ⟨406, 1, 1, 211⟩, ⟨407, 1, 1, 209⟩, ⟨408, 1, 1, 1⟩,
  ⟨410, 1, 1, 163⟩, ⟨411, 1, 1, 42561⟩, ⟨412, 1, 1, 211⟩, ⟨413, 1, 1, 213⟩, ⟨414, 1, 1, 130⟩,
  ⟨415, 1, 1, 214⟩, ⟨416, 3, 2, 1⟩, ⟨422, 1, 1, 218⟩, ⟨423, 1, 1, 1⟩, ⟨425, 1, 1, 218⟩,
  ⟨428, 1, 1, 1⟩, ⟨430, 1, 1, 218⟩, ⟨431, 1, 1, 1⟩, ⟨433, 2, 1, 217⟩, ⟨435, 2, 2, 1⟩,
  ⟨439, 1, 1, 219⟩, ⟨440, 1, 1, 1⟩, ⟨444, 1, 1, 1⟩, ⟨447, 1, 1, 56⟩, ⟨461, 8, 2, 1⟩,
  ⟨478, 9, 2, 1⟩, ⟨500, 1, 1, 1⟩, ⟨504, 20, 2, 1⟩, ⟨546, 9, 2, 1⟩, ⟨570, 1, 1, 10795⟩,
  ⟨571, 1, 1, 1⟩, ⟨574, 1, 1, 10792⟩, ⟨575, 2, 1, 10815⟩, ⟨577, 1, 1, 1⟩, ⟨580, 1, 1, 69⟩,
  ⟨581, 1, 1, 71⟩, ⟨582, 5, 2, 1⟩, ⟨592, 1, 1, 10783⟩, ⟨593, 1, 1, 10780⟩, ⟨594, 1, 1, 10782⟩,
  ⟨604, 1, 1, 42319⟩, ⟨609, 1, 1, 42315⟩, ⟨612, 1, 1, 42343⟩, ⟨613, 1, 1, 42280⟩,
  ⟨614, 1, 1, 42308⟩, ⟨618, 1, 1, 42308⟩, ⟨619, 1, 1, 10743⟩, ⟨620, 1, 1, 42305⟩,
  ⟨625, 1, 1, 10749⟩, ⟨637, 1, 1, 10727⟩, ⟨642, 1, 1, 42307⟩, ⟨647, 1, 1, 42282⟩,
  ⟨669, 1, 1, 42261⟩, ⟨670, 1, 1, 42258⟩, ⟨880, 2, 2, 1⟩, ⟨886, 1, 1, 1⟩, ⟨891, 3, 1, 130⟩,
  ⟨895, 1, 1, 116⟩, ⟨902, 1, 1, 38⟩, ⟨904, 3, 1, 37⟩, ⟨908, 1, 1, 64⟩, ⟨910, 2, 1, 63⟩,
  ⟨912, 1, 1, 7235⟩, ⟨913, 2, 2, 32⟩, ⟨916, 2, 2, 32⟩, ⟨919, 1, 1, 32⟩, ⟨923, 2, 2, 32⟩,
  ⟨926, 2, 1, 32⟩, ⟨932, 2, 1, 32⟩, ⟨935, 2, 1, 32⟩, ⟨938, 2, 1, 32⟩, ⟨944, 1, 1, 7219⟩,
  ⟨975, 1, 1, 8⟩, ⟨984, 12, 2, 1⟩, ⟨1010, 1, 1, 7⟩, ⟨1015, 1, 1, 1⟩, ⟨1018, 1, 1, 1⟩,
  ⟨1024, 16, 1, 80⟩, ⟨1040, 2, 1, 32⟩, ⟨1043, 2, 2, 32⟩, ⟨1046, 8, 1, 32⟩, ⟨1055, 2, 1, 32⟩,
  ⟨1059, 7, 1, 32⟩, ⟨1067, 5, 1, 32⟩, ⟨1120, 1, 1, 1⟩, ⟨1124, 15, 2, 1⟩, ⟨1162, 27, 2, 1⟩,
  ⟨1216, 1, 1, 15⟩, ⟨1217, 7, 2, 1⟩, ⟨1232, 48, 2, 1⟩, ⟨1329, 38, 1, 48⟩, ⟨4256, 38, 1, 7264⟩,
  ⟨4295, 1, 1, 7264⟩, ⟨4301, 1, 1, 7264⟩, ⟨4304, 43, 1, 3008⟩, ⟨4349, 3, 1, 3008⟩,
  ⟨5024, 80, 1, 38864⟩, ⟨5104, 6, 1, 8⟩, ⟨7305, 1, 1, 1⟩, ⟨7545, 1, 1, 35332⟩, ⟨7549, 1, 1, 3814⟩,
  ⟨7566, 1, 1, 35384⟩, ⟨7680, 48, 2, 1⟩, ⟨7778, 26, 2, 1⟩, ⟨7840, 48, 2, 1⟩, ⟨7936, 8, 1, 8⟩,
  ⟨7952, 6, 1, 8⟩, ⟨7968, 8, 1, 8⟩, ⟨7984, 8, 1, 8⟩, ⟨8000, 6, 1, 8⟩, ⟨8017, 4, 2, 8⟩,
  ⟨8032, 8, 1, 8⟩, ⟨8048, 2, 1, 74⟩, ⟨8050, 4, 1, 86⟩, ⟨8054, 2, 1, 100⟩, ⟨8056, 2, 1, 128⟩,
  ⟨8058, 2, 1, 112⟩, ⟨8060, 2, 1, 126⟩, ⟨8064, 8, 1, 8⟩, ⟨8080, 8, 1, 8⟩, ⟨8096, 8, 1, 8⟩,
  ⟨8112, 2, 1, 8⟩, ⟨8115, 1, 1, 9⟩, ⟨8131, 1, 1, 9⟩, ⟨8144, 2, 1, 8⟩, ⟨8160, 2, 1, 8⟩,
  ⟨8165, 1, 1, 7⟩, ⟨8179, 1, 1, 9⟩, ⟨8498, 1, 1, 28⟩, ⟨8544, 16, 1, 16⟩, ⟨8579, 1, 1, 1⟩,
  ⟨9398, 26, 1, 26⟩, ⟨11264, 48, 1, 48⟩, ⟨11360, 1, 1, 1⟩, ⟨11367, 3, 2, 1⟩, ⟨11378, 1, 1, 1⟩,
  ⟨11381, 1, 1, 1⟩, ⟨11392, 50, 2, 1⟩, ⟨11499, 2, 2, 1⟩, ⟨11506, 1, 1, 1⟩, ⟨42560, 5, 2, 1⟩,
  ⟨42572, 17, 2, 1⟩, ⟨42624, 14, 2, 1⟩, ⟨42786, 7, 2, 1⟩, ⟨42802, 31, 2, 1⟩, ⟨42873, 2, 2, 1⟩,
  ⟨42878, 5, 2, 1⟩, ⟨42891, 1, 1, 1⟩, ⟨42896, 2, 2, 1⟩, ⟨42900, 1, 1, 48⟩, ⟨42902, 10, 2, 1⟩,
  ⟨42931, 1, 1, 928⟩, ⟨42932, 8, 2, 1⟩, ⟨42951, 2, 2, 1⟩, ⟨42956, 1, 1, 1⟩, ⟨42960, 1, 1, 1⟩,
  ⟨42966, 3, 2, 1⟩, ⟨42997, 1, 1, 1⟩, ⟨64261, 1, 1, 1⟩, ⟨65313, 26, 1, 32⟩, ⟨66560, 40, 1, 40⟩,
  ⟨66736, 36, 1, 40⟩, ⟨66928, 11, 1, 39⟩, ⟨66940, 15, 1, 39⟩, ⟨66956, 7, 1, 39⟩,
  ⟨66964, 2, 1, 39⟩, ⟨68736, 51, 1, 64⟩, ⟨68944, 22, 1, 32⟩, ⟨71840, 32, 1, 32⟩,
  ⟨93760, 32, 1, 32⟩, ⟨125184, 34, 1, 34⟩]

/-- The classes of more than two code points alike up to case. -/
def largeClasses : List (List Nat) := [
  [75, 107, 8490], [83, 115, 383], [181, 924, 956], [197, 229, 8491], [452, 453, 454],
  [455, 456, 457], [458, 459, 460], [497, 498, 499], [837, 921, 953, 8126], [914, 946, 976],
  [917, 949, 1013], [920, 952, 977, 1012], [922, 954, 1008], [928, 960, 982], [929, 961, 1009],
  [931, 962, 963], [934, 966, 981], [937, 969, 8486], [1042, 1074, 7296], [1044, 1076, 7297],
  [1054, 1086, 7298], [1057, 1089, 7299], [1058, 1090, 7300, 7301], [1066, 1098, 7302],
  [1122, 1123, 7303], [7304, 42570, 42571], [7776, 7777, 7835]]

/-- The code points alike to the given one up to case, itself among them. -/
def caseClass (n : Nat) : List Nat :=
  match largeClasses.find? (fun c => c.contains n) with
  | some c => c
  | none => n :: (pairRuns.findSome? (fun r => r.partner? n)).toList

/-- The code points that are alike to others up to case. -/
def foldedRuns : Runs := [
  65, 91, 97, 123, 181, 182, 192, 215, 216, 247, 248, 304, 306, 312, 313, 329, 330, 397, 398, 426,
  428, 442, 444, 446, 447, 448, 452, 496, 497, 545, 546, 564, 570, 597, 598, 600, 601, 602, 603,
  605, 608, 610, 611, 615, 616, 621, 623, 624, 625, 627, 629, 630, 637, 638, 640, 641, 642, 644,
  647, 653, 658, 659, 669, 671, 837, 838, 880, 884, 886, 888, 891, 894, 895, 896, 902, 903, 904,
  907, 908, 909, 910, 930, 931, 978, 981, 1014, 1015, 1020, 1021, 1154, 1162, 1328, 1329, 1367,
  1377, 1415, 4256, 4294, 4295, 4296, 4301, 4302, 4304, 4347, 4349, 4352, 5024, 5110, 5112, 5118,
  7296, 7307, 7312, 7355, 7357, 7360, 7545, 7546, 7549, 7550, 7566, 7567, 7680, 7830, 7835, 7836,
  7838, 7839, 7840, 7958, 7960, 7966, 7968, 8006, 8008, 8014, 8017, 8018, 8019, 8020, 8021, 8022,
  8023, 8024, 8025, 8026, 8027, 8028, 8029, 8030, 8031, 8062, 8064, 8114, 8115, 8116, 8120, 8125,
  8126, 8127, 8131, 8132, 8136, 8141, 8144, 8146, 8147, 8148, 8152, 8156, 8160, 8162, 8163, 8164,
  8165, 8166, 8168, 8173, 8179, 8180, 8184, 8189, 8486, 8487, 8490, 8492, 8498, 8499, 8526, 8527,
  8544, 8576, 8579, 8581, 9398, 9450, 11264, 11377, 11378, 11380, 11381, 11383, 11390, 11492,
  11499, 11503, 11506, 11508, 11520, 11558, 11559, 11560, 11565, 11566, 42560, 42606, 42624,
  42652, 42786, 42800, 42802, 42864, 42873, 42888, 42891, 42894, 42896, 42901, 42902, 42927,
  42928, 42958, 42960, 42962, 42966, 42973, 42997, 42999, 43859, 43860, 43888, 43968, 64261,
  64263, 65313, 65339, 65345, 65371, 66560, 66640, 66736, 66772, 66776, 66812, 66928, 66939,
  66940, 66955, 66956, 66963, 66964, 66966, 66967, 66978, 66979, 66994, 66995, 67002, 67003,
  67005, 68736, 68787, 68800, 68851, 68944, 68966, 68976, 68998, 71840, 71904, 93760, 93824,
  125184, 125252]

def insertPoint (n : Nat) : List Nat → List Nat
  | [] => [n]
  | m :: ms => if n ≤ m then n :: m :: ms else m :: insertPoint n ms

/-- The code points alike up to case to some of the given ones, themselves among them. -/
def closeCase (rs : Runs) : Runs :=
  let folded := Runs.members (Runs.combine (· && ·) rs foldedRuns)
  Runs.combine (· || ·) rs (Runs.ofAscending ((folded.flatMap caseClass).foldr insertPoint []))

end RuleMatching.Unicode
