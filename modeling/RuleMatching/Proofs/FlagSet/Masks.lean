import RuleMatching.FlagSet
import RuleMatching.Proofs.Text.Pieces

/-!
Masks as sets of bits, and texts as unions of masks.  A flag set contains a union of masks just if it
contains each of them: `contains_unionOf`.  Texts that are joined by commas stand for the union of the
masks that they stand for by themselves, and for nothing if one of them does: `read?_joinWith`.
-/

set_option autoImplicit false
set_option relaxedAutoImplicit false

namespace RuleMatching.FlagSet

variable {f : FlagSet}

/-! ### Bits -/

/-- A bit of a mask is set. -/
def HasBit (mask : UInt64) (i : Nat) : Prop := mask.toNat.testBit i = true

/-- The mask with all bits of some masks. -/
def unionOf (masks : List UInt64) : UInt64 := masks.foldr (· ||| ·) 0

section

variable {a b mask : UInt64} {masks : List UInt64} {i : Nat}

theorem ext_hasBit (h : ∀ i, HasBit a i ↔ HasBit b i) : a = b :=
  UInt64.toNat_inj.mp (Nat.eq_of_testBit_eq fun i => Bool.eq_iff_iff.mpr (h i))

theorem hasBit_or : HasBit (a ||| b) i ↔ HasBit a i ∨ HasBit b i := by
  simp [HasBit, UInt64.toNat_or, Nat.testBit_or]

theorem hasBit_and : HasBit (a &&& b) i ↔ HasBit a i ∧ HasBit b i := by
  simp [HasBit, UInt64.toNat_and, Nat.testBit_and]

theorem hasBit_unionOf : HasBit (unionOf masks) i ↔ ∃ m ∈ masks, HasBit m i := by
  induction masks with
  | nil => simp [HasBit, unionOf]
  | cons m ms ih =>
    have hcons : unionOf (m :: ms) = m ||| unionOf ms := rfl
    simp only [hcons, hasBit_or, ih, List.mem_cons, exists_eq_or_imp]

theorem unionOf_append (ms ns : List UInt64) : unionOf (ms ++ ns) = unionOf ms ||| unionOf ns := by
  refine ext_hasBit fun i => ?_
  simp only [hasBit_or, hasBit_unionOf, List.mem_append, or_and_right, exists_or]

theorem unionOf_singleton (m : UInt64) : unionOf [m] = m := by
  refine ext_hasBit fun i => ?_
  simp only [hasBit_unionOf, List.mem_singleton, exists_eq_left]

/-- A flag set contains a mask just if all bits of the mask are bits of the set. -/
theorem contains_iff_hasBit : f.contains mask = true ↔ ∀ i, HasBit mask i → HasBit f.bits i := by
  rw [contains, beq_iff_eq]
  constructor
  · intro heq i hi
    rw [← heq, hasBit_and] at hi
    exact hi.1
  · intro h
    refine ext_hasBit fun i => ?_
    rw [hasBit_and, and_iff_right_of_imp (h i)]

/-- A flag set contains a union of masks just if it contains each of them. -/
theorem contains_unionOf : f.contains (unionOf masks) = masks.all f.contains := by
  rw [Bool.eq_iff_iff, contains_iff_hasBit, List.all_eq_true]
  simp only [hasBit_unionOf, contains_iff_hasBit]
  constructor
  · exact fun h m hm i hi => h i ⟨m, hm, hi⟩
  · rintro h i ⟨m, hm, hi⟩
    exact h m hm i hi

end

/-! ### Texts -/

/-- The mask that a part of a text stands for, if it stands for one. -/
def part? (f : FlagSet) (part : List Char) : Option UInt64 :=
  let p := Text.trim part
  if p.isEmpty then none else f.mask? (String.ofList p)

theorem union?_eq (f : FlagSet) (parts : List (List Char)) :
    f.union? parts = (parts.mapM f.part?).map unionOf := by
  induction parts with
  | nil => rfl
  | cons p ps ih =>
    rw [union?, ih, List.mapM_cons, part?]
    by_cases hempty : (Text.trim p).isEmpty = true
    · simp [hempty]
    · simp only [hempty, Bool.false_eq_true, if_false]
      cases f.mask? (String.ofList (Text.trim p)) <;> cases ps.mapM f.part? <;> rfl

/-- A text stands for the union of what its parts stand for. -/
theorem read?_eq (f : FlagSet) (text : String) :
    f.read? text = ((Text.split ',' text.toList).mapM f.part?).map unionOf := by
  rw [read?, union?_eq]

variable {blanks : List Char}

theorem part?_append_of_blank (hblank : ∀ c ∈ blanks, Text.isBlank c = true) (p : List Char) :
    f.part? (blanks ++ p) = f.part? p := by
  have htrim : Text.trim (blanks ++ p) = Text.trim p := by
    rw [Text.trim, Text.trim, Text.trimStart, Text.trimStart,
      List.dropWhile_append_of_pos hblank]
  rw [part?, part?, htrim]

/-- Blanks in front of a text make no difference. -/
theorem read?_append_of_blank (hblank : ∀ c ∈ blanks, Text.isBlank c = true) (text : String) :
    f.read? (String.ofList blanks ++ text) = f.read? text := by
  have hcomma : ',' ∉ blanks := fun h => absurd (hblank ',' h) (by decide)
  obtain ⟨p, ps, hsplit⟩ := List.exists_cons_of_ne_nil (Text.split_ne_nil ',' text.toList)
  rw [read?_eq, read?_eq, String.toList_append, String.toList_ofList,
    Text.split_append_of_not_mem hcomma hsplit, hsplit, List.mapM_cons, List.mapM_cons,
    part?_append_of_blank hblank]

/-- Two texts with a comma between them stand for the union of what they stand for. -/
theorem read?_append_comma (f : FlagSet) (s t : String) :
    f.read? (s ++ "," ++ t) = (f.read? s).bind fun a => (f.read? t).map (a ||| ·) := by
  have htext : (s ++ "," ++ t).toList = s.toList ++ ',' :: t.toList := by simp
  simp only [read?_eq, htext, Text.split_append_separator, List.mapM_append]
  cases (Text.split ',' s.toList).mapM f.part? with
  | none => rfl
  | some ms =>
    cases (Text.split ',' t.toList).mapM f.part? with
    | none => rfl
    | some ns => exact congrArg some (unionOf_append ms ns)

/-- Texts that are joined by a comma and blanks stand for the union of what they stand for by
themselves, if all of them stand for something. -/
theorem read?_joinWith (hblank : ∀ c ∈ blanks, Text.isBlank c = true) {ts : List String}
    (hne : ts ≠ []) :
    f.read? (Text.joinWith ("," ++ String.ofList blanks) ts) = (ts.mapM f.read?).map unionOf := by
  induction ts with
  | nil => exact absurd rfl hne
  | cons t ts ih =>
    cases ts with
    | nil =>
      rw [Text.joinWith, List.mapM_cons, List.mapM_nil]
      cases f.read? t with
      | none => rfl
      | some m => exact congrArg some (unionOf_singleton m).symm
    | cons u us =>
      rw [Text.joinWith, ← String.append_assoc, String.append_assoc, read?_append_comma,
        read?_append_of_blank hblank, ih (by simp), List.mapM_cons (a := t)]
      cases f.read? t with
      | none => rfl
      | some m => cases (u :: us).mapM f.read? <;> rfl

end RuleMatching.FlagSet
