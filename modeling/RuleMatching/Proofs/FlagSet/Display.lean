import Mathlib.Data.List.Nodup
import RuleMatching.Proofs.FlagSet.Masks
import RuleMatching.Proofs.Text.Words

/-!
What the text of a flag set says of it.  Where the names of the flags can be told apart, from one another
and from numbers, the text is read as the union of the masks that the set contains, and as its bits if it
contains none but empty ones.  So the bits that no contained mask covers are lost, and no others:
`display_reads_as_contained`.
-/

set_option autoImplicit false
set_option relaxedAutoImplicit false

namespace RuleMatching.FlagSet

/-- A name that stays apart in a list of names: no comma or outer blank would be lost, and it is no
number. -/
structure IsFlagName (name : String) : Prop where
  ne_empty : name ≠ ""
  no_comma : ',' ∉ name.toList
  no_blank_first : ∀ c ∈ name.toList.head?, Text.isBlank c = false
  no_blank_last : ∀ c ∈ name.toList.getLast?, Text.isBlank c = false
  no_number : Numeral.word? name.toList = none

/-- The condition as a computation on the characters. -/
theorem isFlagName_iff {name : String} :
    IsFlagName name ↔
      name ≠ "" ∧ ',' ∉ name.toList ∧ name.toList.head?.all (!Text.isBlank ·) = true ∧
        name.toList.getLast?.all (!Text.isBlank ·) = true ∧ Numeral.word? name.toList = none := by
  simp only [Option.all_eq_true, Bool.not_eq_true']
  exact ⟨fun ⟨hne, hcomma, hfirst, hlast, hnumber⟩ => ⟨hne, hcomma, hfirst, hlast, hnumber⟩,
    fun ⟨hne, hcomma, hfirst, hlast, hnumber⟩ => ⟨hne, hcomma, hfirst, hlast, hnumber⟩⟩

instance (name : String) : Decidable (IsFlagName name) := decidable_of_iff' _ isFlagName_iff

/-- The names of the flags can be told apart in a text. -/
structure Legible (f : FlagSet) : Prop where
  distinct : (f.definitions.map (·.1)).Nodup
  isFlagName : ∀ d ∈ f.definitions, IsFlagName d.1

variable {f : FlagSet} {d : String × UInt64}

theorem mem_present_iff :
    d ∈ f.present ↔ d ∈ f.definitions ∧ d.2 ≠ 0 ∧ f.contains d.2 = true := by
  simp [present]

/-! ### Reading a single name or number -/

theorem read?_eq_mask? {t : String} (hne : t ≠ "") (hcomma : ',' ∉ t.toList)
    (htrim : Text.trim t.toList = t.toList) : f.read? t = f.mask? t := by
  have hsome : t.toList.isEmpty = false := by simpa using hne
  have hpart : f.part? t.toList = f.mask? t := by
    simp only [part?, htrim, hsome, Bool.false_eq_true, if_false, String.ofList_toList]
  rw [read?_eq, Text.split_of_not_mem hcomma, List.mapM_cons, List.mapM_nil, hpart]
  cases f.mask? t with
  | none => rfl
  | some m => exact congrArg some (unionOf_singleton m)

/-- A defined name is read as its mask. -/
theorem Legible.read?_name (h : f.Legible) (hd : d ∈ f.definitions) : f.read? d.1 = some d.2 := by
  have hname := h.isFlagName d hd
  rw [read?_eq_mask? hname.ne_empty hname.no_comma
    (Text.trim_eq_self hname.no_blank_first hname.no_blank_last), mask?]
  cases hfound : f.definitions.find? (fun e => e.1 == d.1) with
  | none => simpa using List.find?_eq_none.mp hfound d hd
  | some e =>
    have hsame : e.1 = d.1 := by simpa using List.find?_some hfound
    -- Names are distinct, so the first definition with this name is the one that was displayed.
    obtain rfl := List.inj_on_of_nodup_map h.distinct (List.mem_of_find?_eq_some hfound) hd hsame
    rfl

/-- A number is read as itself, since no flag has it for a name. -/
theorem Legible.read?_number (h : f.Legible) (w : UInt64) :
    f.read? (Numeral.text w.toNat) = some w := by
  have hdigit : ∀ c ∈ (Numeral.text w.toNat).toList, c.isDigit = true := by
    rw [Numeral.text, String.toList_ofList]
    exact fun c => Numeral.isDigit_of_mem_digits
  have hne : Numeral.text w.toNat ≠ "" := by
    rw [Numeral.text]
    simpa [← String.toList_inj] using Numeral.digits_ne_nil w.toNat
  have hcomma : ',' ∉ (Numeral.text w.toNat).toList := fun hc => absurd (hdigit ',' hc) (by decide)
  have hblank : ∀ c ∈ (Numeral.text w.toNat).toList, Text.isBlank c = false :=
    fun c hc => Text.isBlank_of_isDigit (hdigit c hc)
  have hword : Numeral.word? (Numeral.text w.toNat).toList = some w := by
    have hindex := Numeral.index?_text (n := w.toNat) w.toNat_lt
    rw [Numeral.index?] at hindex
    rw [Numeral.word?, hindex, Option.map_some, UInt64.ofNat_toNat]
  have hnone : f.definitions.find? (fun e => e.1 == Numeral.text w.toNat) = none := by
    rw [List.find?_eq_none]
    intro e he hsame
    have hnumber := (h.isFlagName e he).no_number
    rw [beq_iff_eq.mp hsame, hword] at hnumber
    simp at hnumber
  rw [read?_eq_mask? hne hcomma (Text.trim_of_isBlank_eq_false hblank), mask?, hnone, hword]

/-! ### Reading what is displayed -/

theorem Legible.mapM_read?_names (h : f.Legible) {ds : List (String × UInt64)}
    (hds : ∀ d ∈ ds, d ∈ f.definitions) :
    (ds.map (·.1)).mapM f.read? = some (ds.map (·.2)) := by
  induction ds with
  | nil => rfl
  | cons d ds ih =>
    obtain ⟨hd, hds⟩ := List.forall_mem_cons.mp hds
    rw [List.map_cons, List.mapM_cons, h.read?_name hd, ih hds]
    rfl

/-- Where masks are contained, their names are displayed and read as their union. -/
theorem Legible.read?_display_of_present (h : f.Legible) (hpresent : f.present ≠ []) :
    f.read? f.display = some (unionOf (f.present.map (·.2))) := by
  have hnames : f.names ≠ [] := by simpa [names] using hpresent
  have hdisplay : f.display = Text.joinWith ("," ++ String.ofList [' ']) f.names := by
    rw [display, if_neg (by simpa using hnames)]
    rfl
  rw [hdisplay, read?_joinWith (List.forall_mem_singleton.mpr rfl) hnames, names,
    h.mapM_read?_names fun d hd => (mem_present_iff.mp hd).1, Option.map_some]

/-- Where no mask is contained, the text says the bits, by the name for no bits or as a number. -/
theorem Legible.read?_display_of_absent (h : f.Legible) (habsent : f.present = []) :
    f.read? f.display = some f.bits := by
  have hnames : f.names = [] := by simp [names, habsent]
  rw [display, hnames, List.isEmpty_nil, if_pos rfl]
  cases hzero : f.definitions.find? (fun d => d.2 == 0) with
  | none => exact h.read?_number f.bits
  | some d =>
    have hd : d.2 = 0 := by simpa using List.find?_some hzero
    by_cases hbits : f.bits = 0
    · simp only [hbits, beq_self_eq_true, if_true]
      rw [h.read?_name (List.mem_of_find?_eq_some hzero), hd]
    · simp only [beq_iff_eq, hbits, if_false]
      exact h.read?_number f.bits

/-- Let the names of the flags of a set be such that they can be told apart.  The text of the set is read
as a mask.  This is the union of the masks with a bit to them that the set contains, if there are some,
and else its bits.  The set contains it, and it is all of the set just if there are no such masks or they
cover all bits of the set. -/
theorem display_reads_as_contained (h : f.Legible) :
    ∃ b, f.read? f.display = some b ∧
      (f.present ≠ [] → ∀ i, HasBit b i ↔ ∃ d ∈ f.present, HasBit d.2 i) ∧
      (f.present = [] → b = f.bits) ∧
      f.contains b = true ∧
      (b = f.bits ↔ f.present = [] ∨ ∀ i, HasBit f.bits i → ∃ d ∈ f.present, HasBit d.2 i) := by
  by_cases hpresent : f.present = []
  · have hself : f.contains f.bits = true := contains_iff_hasBit.mpr fun _ hi => hi
    exact ⟨f.bits, h.read?_display_of_absent hpresent, absurd hpresent, fun _ => rfl, hself,
      iff_of_true rfl (.inl hpresent)⟩
  · have hunion : ∀ i, HasBit (unionOf (f.present.map (·.2))) i ↔ ∃ d ∈ f.present, HasBit d.2 i := by
      simp only [hasBit_unionOf, List.mem_map, exists_exists_and_eq_and, implies_true]
    have hcontained : f.contains (unionOf (f.present.map (·.2))) = true := by
      rw [contains_unionOf, List.all_map, List.all_eq_true]
      exact fun d hd => (mem_present_iff.mp hd).2.2
    refine ⟨_, h.read?_display_of_present hpresent, fun _ => hunion, fun hnil => absurd hnil hpresent,
      hcontained, ?_⟩
    rw [or_iff_right hpresent]
    constructor
    · intro heq i hi
      rwa [← hunion, heq]
    · intro hcover
      refine ext_hasBit fun i => ⟨contains_iff_hasBit.mp hcontained i, fun hi => ?_⟩
      exact (hunion i).mpr (hcover i hi)

/-- Overlapping masks, an empty one, and a bit that has no name. -/
private def permissions : FlagSet where
  kind := "Permissions"
  definitions := [("READ", 1), ("WRITE", 2), ("READ WRITE", 3), ("NONE", 0), ("EXECUTE", 4)]
  bits := 11

/-- The text of a set says nothing of a bit without a name. -/
theorem display_reads_of_permissions :
    permissions.Legible ∧ permissions.display = "READ, WRITE, READ WRITE" ∧
      ∃ b, permissions.read? permissions.display = some b ∧ permissions.contains b = true ∧
        b ≠ permissions.bits := by
  have hlegible : permissions.Legible := ⟨by decide, by decide +kernel⟩
  obtain ⟨b, hb, -, -, hcontained, hall⟩ := display_reads_as_contained hlegible
  refine ⟨hlegible, by decide +kernel, b, hb, hcontained, ?_⟩
  rw [ne_eq, hall]
  rintro (hnone | hcover)
  · exact absurd hnone (by decide)
  · obtain ⟨d, hd, hbit⟩ := hcover 3 (by rw [HasBit]; decide)
    have hlow : ∀ d ∈ permissions.present, d.2.toNat.testBit 3 = false := by decide
    rw [HasBit, hlow d hd] at hbit
    exact Bool.false_ne_true hbit

end RuleMatching.FlagSet
