import RuleMatching.Proofs.Evaluation.Entries
import RuleMatching.Proofs.Evaluation.Pairs
import RuleMatching.Proofs.FlagSet.Masks
import RuleMatching.Proofs.Judgement.Forms

/-!
Looking for flags in flag sets.  A clause that wants all of some texts applies to a flag set just if each
text stands for a mask that the set contains.  The texts may as well be one text, joined by commas:
`Matcher.applies_flagTexts`.
-/

set_option autoImplicit false
set_option relaxedAutoImplicit false

namespace RuleMatching

open Judgement (present)

namespace FlagSet

variable {f : FlagSet}

/-- Whether a text stands for a mask that the set contains. -/
def containsText (f : FlagSet) (t : String) : Bool := (f.read? t).any f.contains

theorem containsText_iff {t : String} :
    f.containsText t = true ↔ ∃ mask, f.read? t = some mask ∧ f.contains mask = true := by
  rw [containsText, Option.any_eq_true]

/-- A set contains what joined texts stand for just if it contains what each of them stands for. -/
theorem containsText_joinWith {ts : List String} (hne : ts ≠ []) :
    f.containsText (Text.joinWith "," ts) = ts.all f.containsText := by
  have hall : (ts.mapM f.read?).any (fun ms => ms.all f.contains) = ts.all f.containsText := by
    clear hne
    induction ts with
    | nil => rfl
    | cons t ts ih =>
      rw [List.mapM_cons, List.all_cons, ← ih, containsText]
      cases f.read? t with
      | none => rfl
      | some m => cases ts.mapM f.read? <;> simp
  have hseparator : "," = "," ++ String.ofList [] := rfl
  rw [containsText, hseparator, read?_joinWith (by simp) hne, Option.any_map]
  simp only [contains_unionOf, hall]

end FlagSet

namespace Judgement

variable {reducers : List Reducer} {c : Clause} {data : List String} {f : FlagSet}

/-- In a flag set all wanted texts are found just if there are some and it contains what each stands
for. -/
theorem lookForParts_flags (hoperand : c.operand = .list data) :
    lookForParts reducers true c (.flags f) =
      .value (if !data.isEmpty && data.all f.containsText then some (.flags f) else none) := by
  have henough : isEnough true (data.filter f.containsText).length data.length =
      (!data.isEmpty && data.all f.containsText) := by
    rw [isEnough, if_pos rfl, Bool.eq_iff_iff, Bool.and_eq_true, beq_iff_eq,
      List.length_filter_eq_length_iff]
    simp [List.length_pos_iff, and_comm]
  rw [← henough]
  simp only [lookForParts, hoperand]
  rfl

/-- Texts and the one text that they are joined to are found in the same flag sets. -/
theorem lookForParts_flags_joinWith (hne : data ≠ []) :
    lookForParts reducers true (c.withData [Text.joinWith "," data]) (.flags f) =
      lookForParts reducers true (c.withData data) (.flags f) := by
  rw [lookForParts_flags rfl, lookForParts_flags rfl, List.all_cons, List.all_nil,
    FlagSet.containsText_joinWith hne]
  simp [hne]

/-- On flag sets both operands come to the same judgement. -/
theorem someParts_joinWith (hne : data ≠ []) {states : List State}
    (hflags : ∀ s ∈ states, ∃ f, s = .flags f) :
    someParts reducers true (c.withData [Text.joinWith "," data]) states =
      someParts reducers true (c.withData data) states := by
  have hlook : ∀ s ∈ states,
      lookForParts reducers true (c.withData [Text.joinWith "," data]) s =
        lookForParts reducers true (c.withData data) s := by
    intro s hs
    obtain ⟨f, rfl⟩ := hflags s hs
    exact lookForParts_flags_joinWith hne
  have hdata : (c.withData data).data.isEmpty = false := by
    simpa [Clause.data, Clause.withData, Operand.data] using hne
  rw [someParts, someParts, hdata, search_congr (fun _ _ => rfl) hlook]
  rfl

end Judgement

namespace Context

variable {ctx : Context} {c : Clause} {data : List String} {state1 state2 : Option State}

theorem clauseJudgement_joinWith (hoperation : c.operation = .contains) (hne : data ≠ [])
    (hflags : ∀ r, ctx.resolveBoth c state1 state2 = .value r →
      ∀ s ∈ present r.1 r.2, ∃ f, s = .flags f) :
    ctx.clauseJudgement (c.withData [Text.joinWith "," data]) state1 state2 =
      ctx.clauseJudgement (c.withData data) state1 state2 := by
  have hregex : ∀ ts, (c.withData ts).operation ≠ .regex := by simp [Clause.withData, hoperation]
  rw [clauseJudgement_of_ne_regex (hregex _), clauseJudgement_of_ne_regex (hregex _)]
  have hresolve : ∀ ts, ctx.resolveBoth (c.withData ts) state1 state2 =
      ctx.resolveBoth c state1 state2 := fun _ => rfl
  rw [hresolve, hresolve]
  cases hboth : ctx.resolveBoth c state1 state2 with
  | fault => rfl
  | value r =>
    have hcontains : ∀ ts, (c.withData ts).operation = .contains := fun _ => hoperation
    simp only [Outcome.andThen_value, Judgement.ofClause, hcontains]
    exact Judgement.someParts_joinWith hne (hflags r hboth)

end Context

namespace Matcher

variable {m m' : Matcher} {c : Clause} {data : List String} {state1 state2 : Option State}

/-- Clauses with built-in operations that differ in their operands and come to the same judgement apply
alike. -/
theorem applies_congr (hcontext : m'.context = m.context) {c c' : Clause}
    (hbuiltIn : c.operation ≠ .custom) (hoperation : c'.operation = c.operation)
    (hinvert : c'.invert = c.invert)
    (h : m.context.clauseJudgement c' state1 state2 = m.context.clauseJudgement c state1 state2) :
    m'.applies c' state1 state2 = m.applies c state1 state2 := by
  rw [applies_eq, applies_eq, hcontext, Bool.eq_iff_iff,
    Context.applies_iff_verdictOf (hoperation ▸ hbuiltIn), Context.applies_iff_verdictOf hbuiltIn, h,
    hinvert]

/-- A clause that looks for texts in a flag set applies just if the set contains what each of them stands
for. -/
theorem applies_iff_all_containsText (hoperation : c.operation = .contains) (hne : data ≠ [])
    (hplain : c.invert = false) {f : FlagSet} (hsees : m.Sees c state1 state2 (.flags f)) :
    m.applies (c.withData data) state1 state2 = true ↔ ∀ t ∈ data, f.containsText t = true := by
  have hdata : ((c.withData data).data.isEmpty && (c.withData data).dictData.isEmpty) = false := by
    simp [Clause.data, Clause.withData, Operand.data, hne]
  have hall : decide ((c.withData data).operation = .contains) = true := decide_eq_true hoperation
  rw [applies_iff_lookForParts (c := c.withData data) (.inl hoperation) hdata hplain hsees, hall,
    Judgement.lookForParts_flags rfl]
  simp [hne]

/-- Let a clause look for all of some texts, at least one, and let the states that it sees be flag sets.
It may as well look for the one text that they are joined to by commas, whether it is inverted or not.
If it sees one flag set and is not inverted, it applies just if each text stands for a mask that the set
contains. -/
theorem applies_flagTexts (hcontext : m'.context = m.context) (hoperation : c.operation = .contains)
    (hne : data ≠ [])
    (hflags : ∀ r, m.context.resolveBoth c state1 state2 = .value r →
      ∀ s ∈ present r.1 r.2, ∃ f, s = .flags f) :
    m'.applies (c.withData [Text.joinWith "," data]) state1 state2 =
        m.applies (c.withData data) state1 state2 ∧
      m'.applies (c.withData [Text.joinWith "," data]).flipped state1 state2 =
        m.applies (c.withData data).flipped state1 state2 ∧
      ∀ f, m.Sees c state1 state2 (.flags f) → c.invert = false →
        (m.applies (c.withData data) state1 state2 = true ↔
          ∀ t ∈ data, ∃ mask, f.read? t = some mask ∧ f.contains mask = true) := by
  have hbuiltIn : (c.withData data).operation ≠ .custom := by simp [Clause.withData, hoperation]
  have hjudged := Context.clauseJudgement_joinWith hoperation hne hflags
  refine ⟨applies_congr hcontext hbuiltIn rfl rfl hjudged, ?_, ?_⟩
  · exact applies_congr hcontext (c := (c.withData data).flipped) hbuiltIn rfl rfl hjudged
  · intro f hsees hplain
    rw [applies_iff_all_containsText hoperation hne hplain hsees]
    exact forall₂_congr fun t _ => FlagSet.containsText_iff

private def readAndExecute : FlagSet where
  kind := "Permissions"
  definitions := [("READ", 1), ("WRITE", 2), ("EXECUTE", 4)]
  bits := 5

private def wantsFlags : Clause := Clause.ofOperation .contains

/-- Two texts, one of them with a name and a number in it, and the one text that they are joined to. -/
theorem applies_flagTexts_of_number :
    let m := withSettings .default ⟨0, 0, by decide⟩
    let s := some (State.flags readAndExecute)
    m.applies (wantsFlags.withData ["READ", "EXECUTE, 4"]) s none = true ∧
      m.applies (wantsFlags.withData ["READ,EXECUTE, 4"]) s none = true ∧
      m.applies (wantsFlags.withData ["READ,EXECUTE, 4"]).flipped s none =
        m.applies (wantsFlags.withData ["READ", "EXECUTE, 4"]).flipped s none := by
  intro m s
  have hflags : ∀ r, m.context.resolveBoth wantsFlags s none = .value r →
      ∀ s ∈ present r.1 r.2, ∃ f, s = .flags f := by
    rintro r hresolve t ht
    obtain rfl : (s, none) = r := Outcome.value.inj hresolve
    exact ⟨readAndExecute, by simpa [present, s] using ht⟩
  have hcontext : m.context = m.context := rfl
  have hne : ["READ", "EXECUTE, 4"] ≠ [] := by simp
  obtain ⟨hplain, hflipped, hone⟩ := applies_flagTexts hcontext (c := wantsFlags) rfl hne hflags
  have hboth : m.applies (wantsFlags.withData ["READ", "EXECUTE, 4"]) s none = true := by
    rw [hone readAndExecute ⟨_, _, rfl, rfl⟩ rfl]
    intro t ht
    obtain rfl | rfl : t = "READ" ∨ t = "EXECUTE, 4" := by simpa using ht
    · exact ⟨1, by decide +kernel, by decide⟩
    · exact ⟨4, by decide +kernel, by decide⟩
  exact ⟨hboth, hplain.trans hboth, hflipped⟩

end Matcher

end RuleMatching
