import RuleMatching.Pattern.Escape

/-!
Sets of characters in brackets.  A set holds characters, ranges, named sets and further sets in
brackets; `&&`, `--` and `~~` combine what stands left of them with what stands right.
-/

set_option autoImplicit false
set_option relaxedAutoImplicit false

namespace RuleMatching.Pattern

/-- An operator between parts of a set. -/
inductive SetOperator where
  | intersection
  | difference
  | symmetricDifference
  deriving DecidableEq, Repr

def SetOperator.apply : SetOperator → CharSet → CharSet → CharSet
  | intersection => .intersection
  | difference => .difference
  | symmetricDifference => .symmetricDifference

/-- A set with the depth of its nesting. -/
structure Nested where
  set : CharSet
  depth : Nat

/-- A set in brackets that is being read: what has been read since the last operator, the last in
front, and what stands left of it. -/
structure ClassFrame where
  negated : Bool
  items : List Nested
  left : Option (SetOperator × Nested)

namespace ClassFrame

def add (frame : ClassFrame) (item : Nested) : ClassFrame :=
  { frame with items := item :: frame.items }

/-- The union of the parts since the last operator. -/
def item (frame : ClassFrame) : Nested :=
  match frame.items with
  | [] => ⟨.empty, 0⟩
  | [a] => a
  | items => ⟨.unions (items.reverse.map (·.set)), 1 + (items.map (·.depth)).foldr max 0⟩

def total (f : Flags) (frame : ClassFrame) : Nested :=
  match frame.left with
  | none => frame.item
  | some (op, l) =>
      let r := frame.item
      ⟨op.apply (foldSet f l.set) (foldSet f r.set), 1 + max l.depth r.depth⟩

def operate (f : Flags) (frame : ClassFrame) (op : SetOperator) : ClassFrame :=
  ⟨frame.negated, [], some (op, frame.total f)⟩

/-- The finished set.  Over bytes it has no complement. -/
def close? (f : Flags) (frame : ClassFrame) : Option Nested :=
  let t := frame.total f
  if frame.negated && !f.unicode then none
  else some ⟨complementIf frame.negated (foldSet f t.set), t.depth + 1⟩

end ClassFrame

/-- The character of a literal, which over bytes has to be one of ASCII. -/
def classChar? (f : Flags) (c : Char) : Option Char :=
  if f.unicode || c.toNat < 128 then some c else none

def readClassUnit (f : Flags) : List Char → Option (Unit × List Char)
  | [] => none
  | '\\' :: r => readEscape f r
  | c :: r => some (.literal c false, r)

/-- The set that a unit stands for inside brackets. -/
def unitSet? (f : Flags) : Unit → Option CharSet
  | .literal c _ => (classChar? f c).map .single
  | .set s => some s
  | .look _ => none

/-- Reads a unit, or a range from one character to another. -/
def readClassRange (f : Flags) (cs : List Char) : Option (CharSet × List Char) := do
  let (first, rest) ← readClassUnit f cs
  match f.skip rest with
  | [] => none
  | '-' :: r =>
      if f.peek r = some ']' ∨ f.peek r = some '-' then do
        let s ← unitSet? f first
        some (s, '-' :: r)
      else do
        let (last, rest) ← readClassUnit f (f.skip r)
        match first, last with
        | .literal a _, .literal b _ => do
            let a ← classChar? f a
            let b ← classChar? f b
            if a ≤ b then some (.range a.toNat b.toNat, rest) else none
        | _, _ => none
  | rest => do
      let s ← unitSet? f first
      some (s, rest)

/-- Reads a class of ASCII characters such as `[:alpha:]`, from behind its bracket. -/
def readAsciiClass (f : Flags) (cs : List Char) : Option (Option CharSet × List Char) :=
  match cs with
  | ':' :: r =>
      let negated := r.head? == some '^'
      let body := if negated then r.drop 1 else r
      let name := body.takeWhile (· ≠ ':')
      match body.dropWhile (· ≠ ':') with
      | ':' :: ']' :: rest =>
          match CharSet.asciiClass? (String.ofList name) with
          | some s =>
              if negated && !f.unicode then some (none, rest)
              else some (some (complementIf negated (foldSet f s)), rest)
          | none => none
      | _ => none
  | _ => none

/-- Reads minus signs at the start of a set; `fuel` bounds their number. -/
def readMinuses (f : Flags) : Nat → List Nested → List Char → List Nested × List Char
  | 0, items, cs => (items, cs)
  | fuel + 1, items, cs =>
      match cs with
      | '-' :: r => readMinuses f fuel (⟨.single '-', 0⟩ :: items) (f.skip r)
      | cs => (items, cs)

/-- Opens a set, from behind its bracket.  A closing bracket that comes first is a member. -/
def openClass (f : Flags) (cs : List Char) : Option (ClassFrame × List Char) :=
  let cs := f.skip cs
  let negated := cs.head? == some '^'
  let cs := if negated then f.skip (cs.drop 1) else cs
  let (items, cs) := readMinuses f cs.length [] cs
  match items, cs with
  | _, [] => none
  | [], ']' :: r =>
      match f.skip r with
      | [] => none
      | r => some (⟨negated, [⟨.single ']', 0⟩], none⟩, r)
  | items, cs => some (⟨negated, items, none⟩, cs)

/-- Reads a set up to its closing bracket, inside the sets on the stack; `fuel` bounds the number
of steps. -/
def readClassBody (f : Flags) :
    Nat → ClassFrame → List ClassFrame → List Char → Option (Nested × List Char)
  | 0, _, _, _ => none
  | fuel + 1, frame, stack, cs =>
      match f.skip cs with
      | [] => none
      | '[' :: r =>
          match readAsciiClass f r with
          | some (some s, rest) => readClassBody f fuel (frame.add ⟨s, 0⟩) stack rest
          | some (none, _) => none
          | none => do
              let (inner, rest) ← openClass f r
              readClassBody f fuel inner (frame :: stack) rest
      | ']' :: r => do
          let s ← frame.close? f
          match stack with
          | [] => some (s, r)
          | outer :: stack => readClassBody f fuel (outer.add s) stack r
      | '&' :: '&' :: r => readClassBody f fuel (frame.operate f .intersection) stack r
      | '-' :: '-' :: r => readClassBody f fuel (frame.operate f .difference) stack r
      | '~' :: '~' :: r => readClassBody f fuel (frame.operate f .symmetricDifference) stack r
      | cs => do
          let (s, rest) ← readClassRange f cs
          readClassBody f fuel (frame.add ⟨s, 0⟩) stack rest

def readClass (f : Flags) (cs : List Char) : Option (Nested × List Char) := do
  let (frame, rest) ← openClass f cs
  readClassBody f (rest.length + 1) frame [] rest

end RuleMatching.Pattern
