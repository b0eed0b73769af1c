import Mathlib.Data.List.Induction
import RuleMatching.Json.Reader
import RuleMatching.Proofs.Json.Token

/-!
JSON documents written as texts and read back.  A text is read in two steps, into tokens and then into a
document, so the tokens that a document is written with stand between the two: `Plain.readsBack` and
`Plain.settles`.  A document without floating point numbers is read back as it was, unless its arrays and
objects are nested deeper than the reader allows: `readWithin?_text`.  A floating point number may come
back as its neighbour, because the digits and the power of ten are rounded one after the other.
-/

set_option autoImplicit false
set_option relaxedAutoImplicit false

namespace RuleMatching.Json

open Numeral

/-! ### Tokens of a document -/

mutual

/-- The tokens that a document is written with. -/
def tokens : Json → List Token
  | array items => .openArray :: (itemTokens items ++ [.closeArray])
  | object members => .openObject :: (memberTokens members ++ [.closeObject])
  | j => [.value j]

def itemTokens : List Json → List Token
  | [] => []
  | [j] => tokens j
  | j :: k :: js => tokens j ++ .comma :: itemTokens (k :: js)

def memberTokens : List (String × Json) → List Token
  | [] => []
  | [(name, j)] => .value (string name) :: .colon :: tokens j
  | (name, j) :: m :: ms =>
      .value (string name) :: .colon :: (tokens j ++ .comma :: memberTokens (m :: ms))

end

mutual

/-- How many arrays and objects of a document are open at once. -/
def nesting : Json → Nat
  | array items => itemNesting items + 1
  | object members => memberNesting members + 1
  | _ => 0

def itemNesting : List Json → Nat
  | [] => 0
  | j :: js => max (nesting j) (itemNesting js)

def memberNesting : List (String × Json) → Nat
  | [] => 0
  | (_, j) :: ms => max (nesting j) (memberNesting ms)

end

/-- A document whose numbers are all integers that fit 64 bits, with or without a sign, and in which the
names of members ascend. -/
inductive Plain : Json → Prop
  | null : Plain null
  | bool (b : Bool) : Plain (bool b)
  | int {i : Int} (hlow : -(integerBound : Int) ≤ i) (hhigh : i < (wordBound : Int)) :
      Plain (int i)
  | string (s : String) : Plain (string s)
  | array {items : List Json} (h : ∀ j ∈ items, Plain j) : Plain (array items)
  | object {members : List (String × Json)} (hnames : members.Pairwise fun m n => m.1 < n.1)
      (h : ∀ m ∈ members, Plain m.2) : Plain (object members)

/-- The tokens that are read from a text without spaces. -/
inductive Reads : List Char → List Token → Prop
  | nil : Reads [] []
  | cons {c : Char} {cs rest : List Char} {t : Token} {ts : List Token} (hspace : isSpace c = false)
      (hlength : rest.length ≤ cs.length) (htoken : readToken (c :: cs) = some (t, rest))
      (h : Reads rest ts) : Reads (c :: cs) (t :: ts)

namespace Reads

variable {cs : List Char} {ts : List Token}

theorem length_le (h : Reads cs ts) : ts.length ≤ cs.length := by
  induction h with
  | nil => exact Nat.le_refl 0
  | cons _ hlength _ _ ih => exact Nat.succ_le_succ (Nat.le_trans ih hlength)

theorem readTokens_eq (h : Reads cs ts) {fuel : Nat} (hfuel : ts.length < fuel) :
    readTokens fuel cs = some ts := by
  induction h generalizing fuel with
  | nil =>
    cases fuel with
    | zero => cases hfuel
    | succ fuel => rfl
  | cons hspace _ htoken _ ih =>
    cases fuel with
    | zero => cases hfuel
    | succ fuel =>
      rw [readTokens, List.dropWhile_cons, hspace, if_neg Bool.false_ne_true]
      simp only [htoken, ih (Nat.lt_of_succ_lt_succ hfuel), Option.bind_eq_bind, Option.bind_some]

theorem tokens?_eq (h : Reads cs ts) : tokens? cs = some ts :=
  h.readTokens_eq (Nat.lt_succ_of_le h.length_le)

/-- One character that is a token. -/
theorem mark {c : Char} {t : Token} (hspace : isSpace c = false)
    (htoken : readToken (c :: cs) = some (t, cs)) (h : Reads cs ts) : Reads (c :: cs) (t :: ts) :=
  .cons hspace (Nat.le_refl _) htoken h

theorem string (h : Reads cs ts) (s : String) :
    Reads ((stringText s).toList ++ cs) (.value (string s) :: ts) := by
  have htext : (stringText s).toList ++ cs = '\x22' :: (s.toList.flatMap escape ++ '\x22' :: cs) := by
    simp [stringText]
  rw [htext]
  refine .cons rfl ?_ ?_ h
  · simp only [List.length_append, List.length_cons]
    omega
  · rw [readToken, readString_escaped, Option.map_some, String.ofList_toList]

end Reads

theorem isSpace_of_number {c : Char} (h : c.isDigit = true ∨ c = '-') : isSpace c = false := by
  rw [Bool.eq_false_iff]
  intro hspace
  simp only [isSpace, Bool.or_eq_true, beq_iff_eq] at hspace
  rcases hspace with ((rfl | rfl) | rfl) | rfl <;> revert h <;> decide

/-- A digit or a minus sign starts a number. -/
theorem readToken_of_number {c : Char} (h : c.isDigit = true ∨ c = '-') (cs : List Char) :
    readToken (c :: cs) = (readNumber (c :: cs)).map fun p => (.value p.1, p.2) := by
  obtain ⟨h₁, h₂, h₃, h₄, h₅, h₆, h₇, h₈, h₉, h₁₀⟩ :
      c ≠ '[' ∧ c ≠ ']' ∧ c ≠ '\x7b' ∧ c ≠ '\x7d' ∧ c ≠ ',' ∧ c ≠ ':' ∧ c ≠ '\x22' ∧ c ≠ 'n' ∧
        c ≠ 't' ∧ c ≠ 'f' := by
    refine ⟨?_, ?_, ?_, ?_, ?_, ?_, ?_, ?_, ?_, ?_⟩ <;>
    · rintro rfl
      revert h
      decide
  rw [readToken] <;> intros <;> simp_all

theorem exists_integerText_eq_cons (i : Int) :
    ∃ c ds, (integerText i).toList = c :: ds ∧ (c.isDigit = true ∨ c = '-') := by
  rw [integerText]
  split
  · exact ⟨'-', (Numeral.text i.natAbs).toList, by rw [String.toList_append]; rfl, .inr rfl⟩
  · obtain ⟨d, ds, hdigits⟩ := List.exists_cons_of_ne_nil (digits_ne_nil i.natAbs)
    refine ⟨d, ds, ?_, .inl (isDigit_of_mem_digits (hdigits ▸ List.mem_cons_self))⟩
    rw [Numeral.text, String.toList_ofList, hdigits]

namespace Reads

variable {cs : List Char} {ts : List Token}

theorem int (h : Reads cs ts) (hcs : Closes cs) {i : Int} (hlow : -(integerBound : Int) ≤ i)
    (hhigh : i < (wordBound : Int)) :
    Reads ((integerText i).toList ++ cs) (.value (int i) :: ts) := by
  obtain ⟨c, ds, htext, hc⟩ := exists_integerText_eq_cons i
  have hread := readNumber_integerText hlow hhigh hcs
  rw [htext, List.cons_append] at hread ⊢
  have htoken : readToken (c :: (ds ++ cs)) = some (.value (.int i), cs) := by
    rw [readToken_of_number hc, hread, Option.map_some]
  exact .cons (isSpace_of_number hc) (by simp) htoken h

end Reads

/-! ### From the text to the tokens -/

/-- A document is read from its text, in front of what closes it. -/
def ReadsBack (j : Json) : Prop :=
  ∀ cs ts, Closes cs → Reads cs ts → Reads ((text j).toList ++ cs) (tokens j ++ ts)

theorem closes_cons {c : Char} (h : c = ',' ∨ c = ']' ∨ c = '\x7d') (cs : List Char) :
    Closes (c :: cs) := by
  rintro d hd
  obtain rfl := Option.some.inj hd
  exact h

theorem reads_items {items : List Json} (h : ∀ j ∈ items, ReadsBack j) {cs : List Char}
    {ts : List Token} (hcs : Closes cs) (hts : Reads cs ts) :
    Reads ((Text.joinWith "," (itemTexts items)).toList ++ cs) (itemTokens items ++ ts) := by
  induction items with
  | nil => exact hts
  | cons j js ih =>
    obtain ⟨hj, hjs⟩ := List.forall_mem_cons.mp h
    cases js with
    | nil => exact hj cs ts hcs hts
    | cons k ks =>
      have hrest := (ih hjs).mark (c := ',') rfl rfl
      have hread := hj _ _ (closes_cons (.inl rfl) _) hrest
      simpa [itemTexts, itemTokens, Text.joinWith] using hread

theorem reads_members {members : List (String × Json)} (h : ∀ m ∈ members, ReadsBack m.2)
    {cs : List Char} {ts : List Token} (hcs : Closes cs) (hts : Reads cs ts) :
    Reads ((Text.joinWith "," (memberTexts members)).toList ++ cs)
      (memberTokens members ++ ts) := by
  induction members with
  | nil => exact hts
  | cons m ms ih =>
    obtain ⟨name, j⟩ := m
    obtain ⟨hj, hms⟩ := List.forall_mem_cons.mp h
    cases ms with
    | nil =>
      have hread := ((hj cs ts hcs hts).mark (c := ':') rfl rfl).string name
      simpa [memberTexts, memberTokens, Text.joinWith] using hread
    | cons k ks =>
      have hrest := (ih hms).mark (c := ',') rfl rfl
      have hread := ((hj _ _ (closes_cons (.inl rfl) _) hrest).mark (c := ':') rfl rfl).string name
      simpa [memberTexts, memberTokens, Text.joinWith] using hread

theorem Plain.readsBack {j : Json} (h : Plain j) : ReadsBack j := by
  induction h with
  | null => exact fun cs ts _ hts => .cons rfl (by simp; omega) rfl hts
  | bool b =>
    cases b with
    | false => exact fun cs ts _ hts => .cons rfl (by simp; omega) rfl hts
    | true => exact fun cs ts _ hts => .cons rfl (by simp; omega) rfl hts
  | int hlow hhigh => exact fun cs ts hcs hts => hts.int hcs hlow hhigh
  | string s => exact fun cs ts _ hts => hts.string s
  | array _ ih =>
    intro cs ts hcs hts
    have hread := reads_items ih (closes_cons (.inr (.inl rfl)) cs) (hts.mark (c := ']') rfl rfl)
    simpa [text, tokens] using hread.mark (c := '[') rfl rfl
  | object _ _ ih =>
    intro cs ts hcs hts
    have hread := reads_members ih (closes_cons (.inr (.inr rfl)) cs) (hts.mark (c := '\x7d') rfl rfl)
    simpa [text, tokens] using hread.mark (c := '\x7b') rfl rfl

/-! ### From the tokens to the document -/

/-- Members in the order of their names stay as they are. -/
theorem insertMember_of_lt {name : String} {value : Json} {members : List (String × Json)}
    (h : ∀ m ∈ members, m.1 < name) :
    insertMember name value members = members ++ [(name, value)] := by
  induction members with
  | nil => rfl
  | cons m ms ih =>
    obtain ⟨hm, hms⟩ := List.forall_mem_cons.mp h
    have hne : name ≠ m.1 := fun he => String.lt_irrefl name (he ▸ hm)
    have hnlt : ¬name < m.1 := fun hlt => String.lt_irrefl name (String.lt_trans hlt hm)
    rw [insertMember, if_neg hne, if_neg hnlt, ih hms, List.cons_append]

theorem ofMembers_of_ascending {members : List (String × Json)}
    (h : members.Pairwise fun m n => m.1 < n.1) : ofMembers members = object members := by
  rw [ofMembers]
  congr 1
  induction members using List.reverseRecOn with
  | nil => rfl
  | append_singleton ms m ih =>
    obtain ⟨hms, -, hbefore⟩ := List.pairwise_append.mp h
    rw [List.foldl_append, ih hms, List.foldl_cons, List.foldl_nil, insertMember_of_lt]
    exact fun n hn => hbefore n hn m (List.mem_singleton_self m)

namespace Reader

/-- The tokens of a document settle it, unless too many arrays and objects are open at once. -/
def Settles (depth : Nat) (j : Json) : Prop :=
  ∀ (stack : List Frame) (mayClose : Bool) (ts : List Token), stack.length ≤ depth →
    (wantsValue stack mayClose).run depth (tokens j ++ ts) =
      if stack.length + nesting j ≤ depth then (settle j stack).run depth ts else none

variable {depth : Nat} {stack : List Frame} {ts : List Token}

theorem settles_value {j : Json} (htokens : tokens j = [.value j]) (hnesting : nesting j = 0) :
    Settles depth j := by
  intro stack mayClose ts hstack
  rw [htokens, hnesting, Nat.add_zero, if_pos hstack]
  rfl

theorem run_items {items : List Json} (h : ∀ j ∈ items, Settles depth j) (hne : items ≠ [])
    (hstack : stack.length < depth) (before : List Json) (mayClose : Bool) :
    (wantsValue (.array before :: stack) mayClose).run depth
        (itemTokens items ++ .closeArray :: ts) =
      if stack.length + (itemNesting items + 1) ≤ depth then
        (settle (array (before.reverse ++ items)) stack).run depth ts
      else none := by
  induction items generalizing before mayClose with
  | nil => exact absurd rfl hne
  | cons j js ih =>
    obtain ⟨hj, hjs⟩ := List.forall_mem_cons.mp h
    have hfirst := fun ts => hj (.array before :: stack) mayClose ts hstack
    cases js with
    | nil =>
      rw [itemTokens, hfirst, itemNesting, itemNesting, Nat.max_zero, List.length_cons,
        Nat.add_right_comm, ← List.reverse_cons]
      rfl
    | cons k ks =>
      have hrest := ih hjs (by simp) (j :: before) false
      rw [List.reverse_cons, List.append_assoc, List.singleton_append] at hrest
      rw [itemTokens, List.append_assoc, List.cons_append, hfirst, itemNesting, List.length_cons]
      -- The comma brings the reader from the first item to the others.
      rw [settle, run, step, Option.bind_some, hrest]
      split_ifs <;> first | rfl | omega

theorem run_members {members : List (String × Json)} (h : ∀ m ∈ members, Settles depth m.2)
    (hne : members ≠ []) (hstack : stack.length < depth) (before : List (String × Json))
    (mayClose : Bool) :
    (wantsName stack before mayClose).run depth (memberTokens members ++ .closeObject :: ts) =
      if stack.length + (memberNesting members + 1) ≤ depth then
        (settle (ofMembers (before.reverse ++ members)) stack).run depth ts
      else none := by
  induction members generalizing before mayClose with
  | nil => exact absurd rfl hne
  | cons m ms ih =>
    obtain ⟨name, j⟩ := m
    obtain ⟨hj, hms⟩ : Settles depth j ∧ ∀ m ∈ ms, Settles depth m.2 := List.forall_mem_cons.mp h
    have hfirst := fun ts => hj (.object before name :: stack) false ts hstack
    cases ms with
    | nil =>
      rw [memberTokens, List.cons_append, List.cons_append, run, step, Option.bind_some, run, step,
        Option.bind_some, hfirst, memberNesting, memberNesting, Nat.max_zero, List.length_cons,
        Nat.add_right_comm, ← List.reverse_cons]
      rfl
    | cons k ks =>
      have hrest := ih hms (by simp) ((name, j) :: before) false
      rw [List.reverse_cons, List.append_assoc, List.singleton_append] at hrest
      rw [memberTokens, List.cons_append, List.cons_append, List.append_assoc, List.cons_append, run,
        step, Option.bind_some, run, step, Option.bind_some, hfirst, memberNesting, List.length_cons]
      rw [settle, run, step, Option.bind_some, hrest]
      split_ifs <;> first | rfl | omega

theorem run_array {items : List Json} (h : ∀ j ∈ items, Settles depth j)
    (hstack : stack.length < depth) :
    (wantsValue (.array [] :: stack) true).run depth (itemTokens items ++ .closeArray :: ts) =
      if stack.length + (itemNesting items + 1) ≤ depth then
        (settle (array items) stack).run depth ts
      else none := by
  cases items with
  | nil => exact (if_pos hstack).symm
  | cons j js => exact run_items h (by simp) hstack [] true

theorem run_object {members : List (String × Json)} (h : ∀ m ∈ members, Settles depth m.2)
    (hstack : stack.length < depth) :
    (wantsName stack [] true).run depth (memberTokens members ++ .closeObject :: ts) =
      if stack.length + (memberNesting members + 1) ≤ depth then
        (settle (ofMembers members) stack).run depth ts
      else none := by
  cases members with
  | nil => exact (if_pos hstack).symm
  | cons m ms => exact run_members h (by simp) hstack [] true

end Reader

theorem Plain.settles {j : Json} (h : Plain j) (depth : Nat) : Reader.Settles depth j := by
  induction h with
  | null => exact Reader.settles_value rfl rfl
  | bool b => exact Reader.settles_value rfl rfl
  | int hlow hhigh => exact Reader.settles_value rfl rfl
  | string s => exact Reader.settles_value rfl rfl
  | @array items _ ih =>
    intro stack mayClose ts hstack
    have htokens : tokens (.array items) ++ ts =
        .openArray :: (itemTokens items ++ .closeArray :: ts) := by simp [tokens]
    rw [htokens, Reader.run, Reader.step, nesting]
    split_ifs with hopen hnesting hnesting
    · rw [Option.bind_some, Reader.run_array ih hopen, if_pos hnesting]
    · rw [Option.bind_some, Reader.run_array ih hopen, if_neg hnesting]
    · omega
    · rfl
  | @object members hnames _ ih =>
    intro stack mayClose ts hstack
    have htokens : tokens (.object members) ++ ts =
        .openObject :: (memberTokens members ++ .closeObject :: ts) := by simp [tokens]
    rw [htokens, Reader.run, Reader.step, nesting]
    split_ifs with hopen hnesting hnesting
    · rw [Option.bind_some, Reader.run_object ih hopen, if_pos hnesting,
        ofMembers_of_ascending hnames]
    · rw [Option.bind_some, Reader.run_object ih hopen, if_neg hnesting]
    · omega
    · rfl

/-- A document without floating point numbers is read back from its text, unless it is nested too
deep. -/
theorem readWithin?_text {j : Json} (h : Plain j) (depth : Nat) :
    readWithin? depth (text j) = if nesting j ≤ depth then some j else none := by
  have hread := h.readsBack [] [] (by rintro c ⟨⟩) .nil
  have hsettled := h.settles depth [] false [] (Nat.zero_le depth)
  simp only [List.append_nil] at hread hsettled
  rw [readWithin?, hread.tokens?_eq]
  simp only [Option.bind_eq_bind, Option.bind_some, hsettled, List.length_nil, Nat.zero_add]
  split <;> rfl

/-- Documents without floating point numbers that are written alike are the same. -/
theorem Plain.text_inj {j k : Json} (hj : Plain j) (hk : Plain k) (h : text j = text k) : j = k := by
  have hread := readWithin?_text hj (max (nesting j) (nesting k))
  rw [h, readWithin?_text hk, if_pos (Nat.le_max_right _ _), if_pos (Nat.le_max_left _ _)] at hread
  exact (Option.some.inj hread).symm

end RuleMatching.Json
