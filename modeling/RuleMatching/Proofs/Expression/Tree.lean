import RuleMatching.Proofs.Expression.Grammar

/-!
Expressions as flat trees.  In a flat tree a chain is one node with its first operand and a list of
further ones, each behind its operator, where an expression nests one join into the other.  A flat
tree may hold chains that no text is read as, `WellShaped` tells those that the grammar allows.
`ofExpression` and `toExpression` go from one form to the other and back.
-/

set_option autoImplicit false
set_option relaxedAutoImplicit false

namespace RuleMatching.Expression

/-- A word that may name a clause: not empty, without blanks and parentheses, and no operator. -/
def IsLabel (l : String) : Prop :=
  l ≠ "" ∧ (∀ c ∈ l.toList, Text.isBlank c = false ∧ c ≠ '(' ∧ c ≠ ')') ∧
    ∀ o : BoolOperator, l ≠ o.name

/-- An expression whose chains are flat. -/
inductive Tree where
  | operand (label : String)
  | negation (inner : Tree)
  | group (inner : Tree)
  | chain (first : Tree) (rest : List (BoolOperator × Tree))
  deriving Repr

namespace Tree

/-- An operand of a chain behind its operator. -/
abbrev Link := BoolOperator × Tree

def isChain : Tree → Bool
  | chain _ _ => true
  | _ => false

mutual

/-- The lexemes that a tree is written with. -/
def yield : Tree → List Lexeme
  | operand l => [.word l]
  | negation t => .word BoolOperator.not.name :: t.yield
  | group t => .opening :: (t.yield ++ [.closing])
  | chain first rest => first.yield ++ yieldLinks rest

def yieldLinks : List Link → List Lexeme
  | [] => []
  | (o, t) :: rest => .word o.name :: (t.yield ++ yieldLinks rest)

end

mutual

/-- The greatest number of groups and negations on a path down the tree. -/
def nesting : Tree → Nat
  | operand _ => 0
  | negation t => t.nesting + 1
  | group t => t.nesting + 1
  | chain first rest => max first.nesting (nestingLinks rest)

def nestingLinks : List Link → Nat
  | [] => 0
  | (_, t) :: rest => max t.nesting (nestingLinks rest)

end

mutual

/-- What the grammar asks of a tree: operands are labels, what NOT stands before is no chain, and a
chain has at least two operands, which are no chains, and no NOT between them. -/
def WellShaped : Tree → Prop
  | operand l => IsLabel l
  | negation t => t.isChain = false ∧ t.WellShaped
  | group t => t.WellShaped
  | chain first rest =>
      first.isChain = false ∧ first.WellShaped ∧ rest ≠ [] ∧ LinksWellShaped rest

def LinksWellShaped : List Link → Prop
  | [] => True
  | (o, t) :: rest => o ≠ .not ∧ t.isChain = false ∧ t.WellShaped ∧ LinksWellShaped rest

end

/-- Adds an operand to a chain; any other tree becomes the first operand of one. -/
def extend : Tree → BoolOperator → Tree → Tree
  | chain first rest, o, t => chain first (rest ++ [(o, t)])
  | first, o, t => chain first [(o, t)]

/-- The flat tree of an expression. -/
def ofExpression : Expression → Tree
  | .operand l => operand l
  | .negation e => negation (ofExpression e)
  | .group e => group (ofExpression e)
  | .join l o r => (ofExpression l).extend o (ofExpression r)

mutual

def toExpression : Tree → Expression
  | operand l => .operand l
  | negation t => .negation t.toExpression
  | group t => .group t.toExpression
  | chain first rest => joinLinks first.toExpression rest

/-- Joins further operands to an expression, from left to right. -/
def joinLinks : Expression → List Link → Expression
  | left, [] => left
  | left, (o, t) :: rest => joinLinks (.join left o t.toExpression) rest

end

/-! ### Adding an operand -/

private theorem yieldLinks_append (rest more : List Link) :
    yieldLinks (rest ++ more) = yieldLinks rest ++ yieldLinks more := by
  induction rest with
  | nil => rfl
  | cons link rest ih =>
    obtain ⟨o, t⟩ := link
    simp [yieldLinks, ih]

theorem yield_extend (t : Tree) (o : BoolOperator) (u : Tree) :
    (t.extend o u).yield = t.yield ++ .word o.name :: u.yield := by
  cases t <;> simp [extend, yield, yieldLinks, yieldLinks_append]

private theorem nestingLinks_append (rest more : List Link) :
    nestingLinks (rest ++ more) = max (nestingLinks rest) (nestingLinks more) := by
  induction rest with
  | nil => simp [nestingLinks]
  | cons link rest ih =>
    obtain ⟨o, t⟩ := link
    simp [nestingLinks, ih, Nat.max_assoc]

theorem nesting_extend (t : Tree) (o : BoolOperator) (u : Tree) :
    (t.extend o u).nesting = max t.nesting u.nesting := by
  cases t <;> simp [extend, nesting, nestingLinks, nestingLinks_append, Nat.max_assoc]

private theorem linksWellShaped_append (rest more : List Link) :
    LinksWellShaped (rest ++ more) ↔ LinksWellShaped rest ∧ LinksWellShaped more := by
  induction rest with
  | nil => simp [LinksWellShaped]
  | cons link rest ih =>
    obtain ⟨o, t⟩ := link
    simp [LinksWellShaped, ih, and_assoc]

/-- A chain of one operand alone is not well-shaped, but would be with another operand. -/
theorem wellShaped_extend {t : Tree} (ht : ∀ first, t ≠ chain first []) (o : BoolOperator)
    (u : Tree) :
    (t.extend o u).WellShaped ↔ o ≠ .not ∧ u.isChain = false ∧ t.WellShaped ∧ u.WellShaped := by
  cases t with
  | chain first rest =>
    have hrest : rest ≠ [] := by
      rintro rfl
      exact ht first rfl
    simp only [extend, WellShaped, linksWellShaped_append, LinksWellShaped, ne_eq,
      List.append_eq_nil_iff, hrest]
    grind
  | _ =>
    simp only [extend, WellShaped, LinksWellShaped, isChain]
    grind

private theorem joinLinks_append (left : Expression) (rest more : List Link) :
    joinLinks left (rest ++ more) = joinLinks (joinLinks left rest) more := by
  induction rest generalizing left with
  | nil => rfl
  | cons link rest ih =>
    obtain ⟨o, t⟩ := link
    simp [joinLinks, ih]

theorem toExpression_extend (t : Tree) (o : BoolOperator) (u : Tree) :
    (t.extend o u).toExpression = .join t.toExpression o u.toExpression := by
  cases t <;> simp [extend, toExpression, joinLinks, joinLinks_append]

/-! ### The flat tree of an expression -/

theorem isChain_ofExpression (e : Expression) : (ofExpression e).isChain = e.isJoin := by
  cases e with
  | join l o r =>
    simp only [ofExpression, isJoin]
    cases ofExpression l <;> rfl
  | _ => rfl

theorem ofExpression_ne_chain_nil (e : Expression) (first : Tree) :
    ofExpression e ≠ chain first [] := by
  cases e with
  | join l o r =>
    simp only [ofExpression]
    cases ofExpression l <;> simp [extend]
  | _ => simp [ofExpression]

theorem yield_ofExpression (e : Expression) : (ofExpression e).yield = e.lexemes := by
  induction e with
  | operand l => rfl
  | negation e ih => simp [ofExpression, yield, lexemes, ih]
  | group e ih => simp [ofExpression, yield, lexemes, ih]
  | join l o r ihl ihr => simp [ofExpression, yield_extend, lexemes, ihl, ihr]

theorem nesting_ofExpression (e : Expression) : (ofExpression e).nesting = e.nesting := by
  induction e with
  | operand l => rfl
  | negation e ih => simp [ofExpression, nesting, Expression.nesting, ih]
  | group e ih => simp [ofExpression, nesting, Expression.nesting, ih]
  | join l o r ihl ihr => simp [ofExpression, nesting_extend, Expression.nesting, ihl, ihr]

/-- The flat tree of an expression is well-shaped if and only if the expression is grammatical and
its operands are labels. -/
theorem wellShaped_ofExpression {e : Expression} :
    (ofExpression e).WellShaped ↔ e.Grammatical ∧ ∀ l ∈ e.operands, IsLabel l := by
  induction e with
  | operand l =>
    simp only [ofExpression, WellShaped, Grammatical, operands, List.mem_singleton, forall_eq]
    refine ⟨fun h => ⟨?_, h⟩, fun h => h.2⟩
    cases hname : BoolOperator.ofName? l with
    | none => rfl
    | some o => exact absurd (BoolOperator.ofName?_eq_some_iff.mp hname) (h.2.2 o)
  | negation e ih =>
    simp only [ofExpression, WellShaped, isChain_ofExpression, ih, Grammatical, operands, and_assoc]
  | group e ih => exact ih
  | join l o r ihl ihr =>
    simp only [ofExpression, wellShaped_extend (ofExpression_ne_chain_nil l), isChain_ofExpression,
      ihl, ihr, Grammatical, operands, List.mem_append]
    grind

/-- An expression is got back from its flat tree. -/
theorem toExpression_ofExpression (e : Expression) : (ofExpression e).toExpression = e := by
  induction e with
  | operand l => rfl
  | negation e ih => simp [ofExpression, toExpression, ih]
  | group e ih => simp [ofExpression, toExpression, ih]
  | join l o r ihl ihr => simp [ofExpression, toExpression_extend, ihl, ihr]

theorem extend_of_isChain {t : Tree} (ht : t.isChain = false) (o : BoolOperator) (u : Tree) :
    t.extend o u = chain t [(o, u)] := by
  cases t with
  | chain first rest => simp [isChain] at ht
  | _ => rfl

mutual

/-- A well-shaped tree is the flat tree of its expression. -/
theorem ofExpression_toExpression :
    (t : Tree) → t.WellShaped → ofExpression t.toExpression = t
  | operand l, _ => rfl
  | negation t, h => by
    simp only [toExpression, ofExpression, ofExpression_toExpression t h.2]
  | group t, h => by
    simp only [toExpression, ofExpression, ofExpression_toExpression t h]
  | chain first [], h => absurd rfl h.2.2.1
  | chain first ((o, t) :: rest), h => by
    obtain ⟨hfirst, hshape, -, -, hchain, ht, hrest⟩ := h
    have hjoin : ofExpression (.join first.toExpression o t.toExpression) =
        chain first [(o, t)] := by
      rw [ofExpression, ofExpression_toExpression first hshape, ofExpression_toExpression t ht,
        extend_of_isChain hfirst]
    exact ofExpression_joinLinks rest hrest hjoin

/-- Joining well-shaped operands to an expression adds them to its chain. -/
theorem ofExpression_joinLinks :
    (rest : List Link) → LinksWellShaped rest → {left : Expression} → {first : Tree} →
      {before : List Link} → ofExpression left = chain first before →
      ofExpression (joinLinks left rest) = chain first (before ++ rest)
  | [], _, left, first, before, hleft => by
    rw [joinLinks, hleft, List.append_nil]
  | (o, t) :: rest, h, left, first, before, hleft => by
    obtain ⟨-, -, ht, hrest⟩ := h
    have hjoin : ofExpression (.join left o t.toExpression) =
        chain first (before ++ [(o, t)]) := by
      rw [ofExpression, hleft, ofExpression_toExpression t ht, extend]
    rw [joinLinks, ofExpression_joinLinks rest hrest hjoin, List.append_assoc,
      List.singleton_append]

end

end Tree

end RuleMatching.Expression
