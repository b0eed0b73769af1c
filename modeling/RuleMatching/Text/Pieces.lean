/-!
Cutting a text at a separator, joining pieces with one, and looking for a piece inside a text.
`joinWith` and `split` undo each other on pieces that do not hold the separator.
-/

set_option autoImplicit false
set_option relaxedAutoImplicit false

namespace RuleMatching.Text

/-- The pieces of a text between the occurrences of a separator; there is always at least one. -/
def split (sep : Char) : List Char → List (List Char)
  | [] => [[]]
  | c :: cs =>
      if c = sep then [] :: split sep cs
      else match split sep cs with
        | [] => [[c]]
        | p :: ps => (c :: p) :: ps

theorem split_ne_nil (sep : Char) (cs : List Char) : split sep cs ≠ [] := by
  cases cs with
  | nil => simp [split]
  | cons c cs =>
    by_cases h : c = sep
    · simp [split, h]
    · cases hs : split sep cs <;> simp [split, h, hs]

/-- The pieces of a string between the occurrences of a separator. -/
def pieces (sep : Char) (s : String) : List String := (split sep s.toList).map String.ofList

def joinWith (sep : String) : List String → String
  | [] => ""
  | [s] => s
  | s :: t :: r => s ++ sep ++ joinWith sep (t :: r)

def startsWith (text start : String) : Bool := start.toList.isPrefixOf text.toList

def endsWith (text ending : String) : Bool := ending.toList.isSuffixOf text.toList

def occursIn (piece : List Char) : List Char → Bool
  | [] => piece.isEmpty
  | c :: cs => piece.isPrefixOf (c :: cs) || occursIn piece cs

def holds (text piece : String) : Bool := occursIn piece.toList text.toList

/-- Lower case for the Latin letters of ASCII, everything else unchanged. -/
def lower (s : String) : String := String.ofList (s.toList.map Char.toLower)

/-- Whether two texts are equal up to the case of the Latin letters of ASCII. -/
def equalsIgnoringCase (s t : String) : Bool := lower s == lower t

/-- The number of bytes of a text in UTF-8. -/
def byteLength : List Char → Nat
  | [] => 0
  | c :: cs => c.utf8Size + byteLength cs

end RuleMatching.Text
