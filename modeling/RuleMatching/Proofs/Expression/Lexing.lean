import Mathlib.Data.List.TakeWhile
import RuleMatching.Expression.Token

/-!
How the words of a text spell lexemes.  A word is a core between opening and closing parentheses;
cutting a token apart finds these parts, `ofText_wrapped`, and the lexemes of the tokens of a text are
what its words spell, `lexemesOf_eq_ok_iff`.
-/

set_option autoImplicit false
set_option relaxedAutoImplicit false

namespace RuleMatching.Expression

/-- A word with a number of parentheses on either side of a core. -/
def wrapped (opens : Nat) (core : List Char) (closes : Nat) : List Char :=
  List.replicate opens '(' ++ core ++ List.replicate closes ')'

/-- The lexeme of a core; an empty core has none. -/
def coreLexemes : List Char → List Lexeme
  | [] => []
  | c :: cs => [.word (String.ofList (c :: cs))]

/-- The lexemes of a wrapped core. -/
def wrappedLexemes (opens : Nat) (core : List Char) (closes : Nat) : List Lexeme :=
  List.replicate opens .opening ++ coreLexemes core ++ List.replicate closes .closing

/-- What words spell.  The core of a word holds no parentheses, and is not empty if there are
parentheses on both sides of it. -/
inductive Spelled : List (List Char) → List Lexeme → Prop
  | nil : Spelled [] []
  | cons {opens closes : Nat} {core : List Char} {ws : List (List Char)} {ls : List Lexeme} :
      (∀ c ∈ core, c ≠ '(' ∧ c ≠ ')') → (0 < opens → 0 < closes → core ≠ []) → Spelled ws ls →
      Spelled (wrapped opens core closes :: ws) (wrappedLexemes opens core closes ++ ls)

namespace Token

private theorem dropWhile_wrapped {p : Char → Bool} {a : Char} (ha : p a = true) (n : Nat)
    {cs : List Char} (hcs : ∀ c ∈ cs, p c = false) :
    (List.replicate n a ++ cs).dropWhile p = cs := by
  rw [List.dropWhile_append_of_pos (by simp [ha])]
  rw [List.dropWhile_eq_self_iff]
  intro hl
  simp [hcs _ (List.getElem_mem hl)]

theorem ofText_wrapped {core : List Char} (hcore : ∀ c ∈ core, c ≠ '(' ∧ c ≠ ')')
    (opens closes : Nat) :
    ofText (String.ofList (wrapped opens core closes)) =
      ⟨String.ofList (wrapped opens core closes), opens, String.ofList core, closes⟩ := by
  have hrest : (wrapped opens core closes).dropWhile (· = '(') =
      core ++ List.replicate closes ')' := by
    rw [wrapped, List.append_assoc]
    apply dropWhile_wrapped (by simp)
    intro c hc
    rcases List.mem_append.mp hc with hc | hc
    · simp [hcore c hc]
    · obtain rfl := List.eq_of_mem_replicate hc
      decide
  have hback : ((core ++ List.replicate closes ')').reverse.dropWhile (· = ')')).reverse = core := by
    rw [List.reverse_append, List.reverse_replicate, dropWhile_wrapped (by simp),
      List.reverse_reverse]
    intro c hc
    simp [hcore c (List.mem_reverse.mp hc)]
  have hlength : (wrapped opens core closes).length = opens + core.length + closes := by
    rw [wrapped, List.length_append, List.length_append, List.length_replicate,
      List.length_replicate]
  simp only [ofText, String.toList_ofList, hrest, hback, hlength, List.length_append,
    List.length_replicate, mk.injEq, true_and]
  omega

theorem toList_ofText (s : String) :
    s.toList = wrapped (ofText s).opens (ofText s).core.toList (ofText s).closes := by
  have hfront : s.toList.takeWhile (· = '(') =
      List.replicate (s.toList.takeWhile (· = '(')).length '(' :=
    List.eq_replicate_of_mem fun c hc => by simpa using List.mem_takeWhile_imp hc
  have hback : ∀ cs : List Char, (cs.reverse.takeWhile (· = ')')).reverse =
      List.replicate (cs.reverse.takeWhile (· = ')')).length ')' := by
    intro cs
    rw [← List.reverse_replicate]
    congr 1
    exact List.eq_replicate_of_mem fun c hc => by simpa using List.mem_takeWhile_imp hc
  have hsplit : ∀ cs : List Char, cs = (cs.reverse.dropWhile (· = ')')).reverse ++
      (cs.reverse.takeWhile (· = ')')).reverse := by
    intro cs
    rw [← List.reverse_append, List.takeWhile_append_dropWhile, List.reverse_reverse]
  generalize hrest : s.toList.dropWhile (· = '(') = rest
  have hs : s.toList = s.toList.takeWhile (· = '(') ++ rest := by
    rw [← hrest, List.takeWhile_append_dropWhile]
  have hopens : s.toList.length - rest.length = (s.toList.takeWhile (· = '(')).length := by
    have := congrArg List.length hs
    rw [List.length_append] at this
    omega
  have hcloses : rest.length - (rest.reverse.dropWhile (· = ')')).reverse.length =
      (rest.reverse.takeWhile (· = ')')).length := by
    have := congrArg List.length (hsplit rest)
    simp only [List.length_append, List.length_reverse] at this ⊢
    omega
  simp only [ofText, hrest, String.toList_ofList, hopens, hcloses, wrapped, List.append_assoc]
  rw [← hback, ← hsplit, ← hfront]
  exact hs

/-- A wrapped core has lexemes if it holds no parentheses, and is not empty between some. -/
theorem lexemes_ofText_wrapped {core : List Char} (hcore : ∀ c ∈ core, c ≠ '(' ∧ c ≠ ')')
    {opens closes : Nat} (hempty : 0 < opens → 0 < closes → core ≠ []) :
    (ofText (String.ofList (wrapped opens core closes))).lexemes =
      .ok (wrappedLexemes opens core closes) := by
  have hfree : core.any isParenthesis = false := by
    rw [List.any_eq_false]
    intro c hc
    simp [isParenthesis, hcore c hc]
  rw [ofText_wrapped hcore]
  simp only [lexemes, String.toList_ofList, hfree, Bool.false_eq_true, if_false]
  cases core with
  | nil =>
    have hone : ¬(0 < opens ∧ 0 < closes) := fun h => hempty h.1 h.2 rfl
    simp [hone, wrappedLexemes, coreLexemes]
  | cons c cs =>
    simp [wrappedLexemes, coreLexemes]

/-- A token has lexemes only if it is a wrapped core that holds no parentheses, and is not empty
between some. -/
theorem exists_wrapped_of_lexemes {s : String} {ls : List Lexeme}
    (h : (ofText s).lexemes = .ok ls) :
    ∃ opens core closes, (∀ c ∈ core, c ≠ '(' ∧ c ≠ ')') ∧
      (0 < opens → 0 < closes → core ≠ []) ∧ s.toList = wrapped opens core closes ∧
      ls = wrappedLexemes opens core closes := by
  have hs := toList_ofText s
  have hcore : ∀ c ∈ (ofText s).core.toList, c ≠ '(' ∧ c ≠ ')' := by
    intro c hc
    have hfree : isParenthesis c = false := by
      rw [Bool.eq_false_iff]
      intro hpar
      have hany : (ofText s).core.toList.any isParenthesis = true :=
        List.any_eq_true.mpr ⟨c, hc, hpar⟩
      simp [lexemes, hany] at h
    simpa [isParenthesis] using hfree
  have hempty : 0 < (ofText s).opens → 0 < (ofText s).closes →
      (ofText s).core.toList ≠ [] := by
    intro hopens hcloses hnil
    have hblank : (ofText s).core = "" := String.toList_eq_nil_iff.mp hnil
    simp [lexemes, hblank, hopens, hcloses] at h
  refine ⟨_, _, _, hcore, hempty, hs, ?_⟩
  have hlexemes := lexemes_ofText_wrapped hcore hempty
  rw [← hs, String.ofList_toList, h] at hlexemes
  exact Except.ok.inj hlexemes

end Token

/-- The tokens of words have lexemes if and only if the words spell them. -/
theorem lexemesOf_eq_ok_iff {ws : List (List Char)} {ls : List Lexeme} :
    lexemesOf (ws.map fun w => Token.ofText (String.ofList w)) = .ok ls ↔ Spelled ws ls := by
  constructor
  · intro h
    induction ws generalizing ls with
    | nil =>
      obtain rfl := Except.ok.inj h
      exact .nil
    | cons w ws ih =>
      simp only [List.map_cons, lexemesOf] at h
      split at h
      · simp at h
      · rename_i first hfirst
        split at h
        · simp at h
        · rename_i rest hrest
          obtain rfl := Except.ok.inj h
          obtain ⟨opens, core, closes, hcore, hempty, hw, rfl⟩ :=
            Token.exists_wrapped_of_lexemes hfirst
          rw [String.toList_ofList] at hw
          rw [hw]
          exact .cons hcore hempty (ih hrest)
  · intro h
    induction h with
    | nil => rfl
    | cons hcore hempty _ ih =>
      simp only [List.map_cons, lexemesOf, Token.lexemes_ofText_wrapped hcore hempty, ih]

end RuleMatching.Expression
