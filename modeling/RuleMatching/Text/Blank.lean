/-!
Blank characters, and the two things a text does with them: it is trimmed at its ends, and it is
cut into the words that stand between blanks.  `words` never yields an empty word, and no word
holds a blank.
-/

set_option autoImplicit false
set_option relaxedAutoImplicit false

namespace RuleMatching.Text

/-- The characters with the `White_Space` property. -/
def isBlank (c : Char) : Bool :=
  let n := c.toNat
  (9 ≤ n && n ≤ 13) || n == 0x20 || n == 0x85 || n == 0xA0 || n == 0x1680 ||
    (0x2000 ≤ n && n ≤ 0x200A) || n == 0x2028 || n == 0x2029 || n == 0x202F || n == 0x205F ||
    n == 0x3000

def trimStart (cs : List Char) : List Char := cs.dropWhile isBlank

def trimEnd (cs : List Char) : List Char := (cs.reverse.dropWhile isBlank).reverse

def trim (cs : List Char) : List Char := trimEnd (trimStart cs)

private theorem dropWhile_isBlank {cs : List Char} (h : ∀ c ∈ cs.head?, isBlank c = false) :
    cs.dropWhile isBlank = cs := by
  cases cs with
  | nil => rfl
  | cons c cs => simp [h c rfl]

/-- A text without a blank at either end is not changed by trimming it. -/
theorem trim_eq_self {cs : List Char} (hfirst : ∀ c ∈ cs.head?, isBlank c = false)
    (hlast : ∀ c ∈ cs.getLast?, isBlank c = false) : trim cs = cs := by
  have hreverse : ∀ c ∈ cs.reverse.head?, isBlank c = false := by
    rw [List.head?_reverse]
    exact hlast
  rw [trim, trimStart, dropWhile_isBlank hfirst, trimEnd, dropWhile_isBlank hreverse,
    List.reverse_reverse]

theorem trim_of_isBlank_eq_false {cs : List Char} (h : ∀ c ∈ cs, isBlank c = false) :
    trim cs = cs :=
  trim_eq_self (fun c hc => h c (List.mem_of_mem_head? hc))
    fun c hc => h c (List.mem_of_mem_getLast? hc)

/-- Adds a character to the front of the first word, or starts a word with it. -/
def consWord (c : Char) : List (List Char) → List (List Char)
  | [] => [[c]]
  | w :: ws => (c :: w) :: ws

/-- The words of a text: its longest stretches without a blank, in order. -/
def words : List Char → List (List Char)
  | [] => []
  | [c] => if isBlank c then [] else [[c]]
  | c :: d :: cs =>
      if isBlank c then words (d :: cs)
      else if isBlank d then [c] :: words (d :: cs)
      else consWord c (words (d :: cs))

/-- No word is empty. -/
theorem ne_nil_of_mem_words {cs w : List Char} (hw : w ∈ words cs) : w ≠ [] := by
  induction cs using words.induct with
  | case1 => simp [words] at hw
  | case2 c hc => simp [words, hc] at hw
  | case3 c hc =>
    simp only [words, hc] at hw
    simp at hw
    simp [hw]
  | case4 c d cs hc ih =>
    simp only [words, hc, if_true] at hw
    exact ih hw
  | case5 c d cs hc hd ih =>
    simp only [words, hc, hd, if_true, Bool.false_eq_true, if_false, List.mem_cons] at hw
    rcases hw with rfl | hw
    · simp
    · exact ih hw
  | case6 c d cs hc hd ih =>
    simp only [words, hc, hd, Bool.false_eq_true, if_false] at hw
    cases hws : words (d :: cs) with
    | nil => simp [hws, consWord] at hw; simp [hw]
    | cons v vs =>
      simp only [hws, consWord, List.mem_cons] at hw
      rcases hw with rfl | hw
      · simp
      · exact ih (by simp [hws, hw])

/-- No word holds a blank. -/
theorem isBlank_of_mem_words {cs w : List Char} (hw : w ∈ words cs) {c : Char} (hc : c ∈ w) :
    isBlank c = false := by
  induction cs using words.induct generalizing w with
  | case1 => simp [words] at hw
  | case2 d hd => simp [words, hd] at hw
  | case3 d hd =>
    simp only [words, hd, Bool.false_eq_true, if_false, List.mem_singleton] at hw
    obtain rfl := hw
    obtain rfl := List.mem_singleton.1 hc
    simpa using hd
  | case4 d e cs hd ih =>
    simp only [words, hd, if_true] at hw
    exact ih hw hc
  | case5 d e cs hd he ih =>
    simp only [words, hd, he, if_true, Bool.false_eq_true, if_false, List.mem_cons] at hw
    rcases hw with rfl | hw
    · obtain rfl := List.mem_singleton.1 hc
      simpa using hd
    · exact ih hw hc
  | case6 d e cs hd he ih =>
    simp only [words, hd, he, Bool.false_eq_true, if_false] at hw
    cases hws : words (e :: cs) with
    | nil =>
      simp only [hws, consWord, List.mem_singleton] at hw
      obtain rfl := hw
      obtain rfl := List.mem_singleton.1 hc
      simpa using hd
    | cons v vs =>
      simp only [hws, consWord, List.mem_cons] at hw
      rcases hw with rfl | hw
      · rcases List.mem_cons.1 hc with rfl | hc
        · simpa using hd
        · exact ih (by simp [hws]) hc
      · exact ih (by simp [hws, hw]) hc

end RuleMatching.Text
