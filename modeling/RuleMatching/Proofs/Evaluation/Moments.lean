import RuleMatching.Proofs.Evaluation.Entries
import RuleMatching.Proofs.Instant.Reading
import RuleMatching.Proofs.State.Composition

/-!
Instants and their texts.  The operations that ask when something is see no more of the states than the
instants that they stand for: `Context.clauseJudgement_eq_ofInstants`.  An instant of a year of four
digits is read from its text, so it makes no difference to them which of the two there is, in a state
or among the data: `Matcher.applies_instantText`.
-/

set_option autoImplicit false
set_option relaxedAutoImplicit false

namespace RuleMatching

open Judgement (present)

namespace Operation

/-- Whether an operation asks for instants. -/
def asksWhen : Operation → Bool
  | .isBefore | .isAfter | .isExpired => true
  | _ => false

/-- Whether an instant is on the side of one of the data that an operation asks for. -/
def compares : Operation → Instant → Instant → Bool
  | .isBefore, u, t => u.isBefore t
  | .isAfter, u, t => t.isBefore u
  | _, _, _ => false

variable {o : Operation}

theorem ne_regex_of_asksWhen (h : o.asksWhen = true) : o ≠ .regex := by
  rintro rfl
  cases h

theorem ne_custom_of_asksWhen (h : o.asksWhen = true) : o ≠ .custom := by
  rintro rfl
  cases h

end Operation

namespace Judgement

variable {c : Clause} {b : Bool}

/-- The judgement on the instants of the states. -/
def ofInstants (now : Instant) (c : Clause) (us : List Instant) : Option Judgement :=
  if c.operation = .isExpired then firstPassing (fun u => u.isBefore now) .instant us
  else
    match c.data.filterMap Instant.read? with
    | [] => none
    | ts => firstPassing (fun u => ts.any (c.operation.compares u)) .instant us

theorem ofClause_eq_ofInstants (hasks : c.operation.asksWhen = true) (reducers : List Reducer)
    (now : Instant) (pattern : Option Pattern) (state1 state2 : Option State) :
    ofClause reducers now pattern c state1 state2 =
      .value (ofInstants now c ((present state1 state2).filterMap State.instant?)) := by
  unfold ofClause ofInstants
  cases hoperation : c.operation
  case isBefore => rw [if_neg (by decide)]; rfl
  case isAfter => rw [if_neg (by decide)]; rfl
  case isExpired => rfl
  all_goals simp [hoperation, Operation.asksWhen] at hasks

/-- A judgement on values comes to a verdict just if there are values, and holds if one passes. -/
theorem verdict_firstPassing_iff {α : Type} {test : α → Bool} {find : α → Finding} {as : List α} :
    verdict (firstPassing test find as) = (b : WithBot Bool) ↔ as ≠ [] ∧ as.any test = b := by
  cases as with
  | nil => simp [firstPassing, verdict]
  | cons a as =>
    have hany : (a :: as).any test = ((a :: as).find? test).isSome :=
      Bool.eq_iff_iff.mpr (by rw [List.find?_isSome, List.any_eq_true])
    rw [firstPassing, hany]
    cases (a :: as).find? test <;> simp [verdict]

/-- The instants that data are read as, with the text of one among them. -/
theorem mem_filterMap_read?_iff {t u : Instant} {front back : List String} {text : String}
    (hread : Instant.read? text = some t) :
    u ∈ (front ++ text :: back).filterMap Instant.read? ↔
      u = t ∨ ∃ d ∈ front ++ back, Instant.read? d = some u := by
  rw [List.filterMap_append, List.filterMap_cons_some hread]
  simp only [List.mem_append, List.mem_cons, List.mem_filterMap, or_and_right, exists_or]
  exact or_left_comm

/-- With an instant among the data, the verdict is on that instant and on those that the other data
are read as. -/
theorem verdict_ofInstants_iff (hexpired : c.operation ≠ .isExpired) {now t : Instant}
    {front back : List String} {text : String} (hread : Instant.read? text = some t)
    {us : List Instant} :
    verdict (ofInstants now (c.withData (front ++ text :: back)) us) = (b : WithBot Bool) ↔
      us ≠ [] ∧ ((∃ u ∈ us, c.operation.compares u t = true ∨
        ∃ d ∈ front ++ back, ∃ v, Instant.read? d = some v ∧ c.operation.compares u v = true) ↔
          b = true) := by
  have hoperation : (c.withData (front ++ text :: back)).operation = c.operation := rfl
  have hdata : (c.withData (front ++ text :: back)).data = front ++ text :: back := rfl
  have hmem : ∀ v, v ∈ (front ++ text :: back).filterMap Instant.read? ↔
      v = t ∨ ∃ d ∈ front ++ back, Instant.read? d = some v := fun v => mem_filterMap_read?_iff hread
  have hpasses : ∀ u, ((front ++ text :: back).filterMap Instant.read?).any
        (c.operation.compares u) = true ↔ c.operation.compares u t = true ∨
      ∃ d ∈ front ++ back, ∃ v, Instant.read? d = some v ∧ c.operation.compares u v = true := by
    intro u
    simp only [List.any_eq_true, hmem]
    constructor
    · rintro ⟨v, rfl | ⟨d, hd, hdv⟩, hcompares⟩
      · exact .inl hcompares
      · exact .inr ⟨d, hd, v, hdv, hcompares⟩
    · rintro (hcompares | ⟨d, hd, v, hdv, hcompares⟩)
      · exact ⟨t, .inl rfl, hcompares⟩
      · exact ⟨v, .inr ⟨d, hd, hdv⟩, hcompares⟩
  rw [ofInstants, hoperation, if_neg hexpired, hdata]
  cases hthresholds : (front ++ text :: back).filterMap Instant.read? with
  | nil => exact absurd (hthresholds ▸ (hmem t).mpr (.inl rfl)) List.not_mem_nil
  | cons v vs =>
    rw [verdict_firstPassing_iff, Bool.eq_iff_iff, List.any_eq_true]
    simp only [← hthresholds, hpasses]

end Judgement

namespace Context

variable {ctx : Context} {c : Clause} {s s' state1 state2 state1' state2' : Option State}

/-- The instant that stands at the field of a clause in a state. -/
def instantAt (ctx : Context) (c : Clause) (s : Option State) : Outcome (Option Instant) :=
  (ctx.resolve (c.field.getD "") s).andThen fun r => .value (r.bind State.instant?)

/-- A clause that asks for instants is judged by those that stand at its field. -/
theorem clauseJudgement_eq_ofInstants (hasks : c.operation.asksWhen = true) :
    ctx.clauseJudgement c state1 state2 = (ctx.instantAt c state1).andThen fun u1 =>
      (ctx.instantAt c state2).andThen fun u2 =>
        .value (Judgement.ofInstants ctx.now c (u1.toList ++ u2.toList)) := by
  rw [clauseJudgement_of_ne_regex (Operation.ne_regex_of_asksWhen hasks), resolveBoth, instantAt,
    instantAt]
  cases ctx.resolve (c.field.getD "") state1 with
  | fault => rfl
  | value r1 =>
    cases ctx.resolve (c.field.getD "") state2 with
    | fault => rfl
    | value r2 =>
      have hinstants : (present r1 r2).filterMap State.instant? =
          (r1.bind State.instant?).toList ++ (r2.bind State.instant?).toList := by
        rw [present, List.filterMap_append]
        cases r1 <;> cases r2 <;> simp [List.filterMap_cons] <;> rfl
      simp only [Outcome.andThen_value, Judgement.ofClause_eq_ofInstants hasks, hinstants]

theorem clauseJudgement_congr_instantAt (hasks : c.operation.asksWhen = true)
    (h1 : ctx.instantAt c state1' = ctx.instantAt c state1)
    (h2 : ctx.instantAt c state2' = ctx.instantAt c state2) :
    ctx.clauseJudgement c state1' state2' = ctx.clauseJudgement c state1 state2 := by
  rw [clauseJudgement_eq_ofInstants hasks, clauseJudgement_eq_ofInstants hasks, h1, h2]

theorem instantAt_of_follow {s r : State} {path : String} (hfield : c.field.getD "" = path)
    (hfollow : s.follow ctx.registry.propertyReaders path = .value (some r)) :
    ctx.instantAt c (some s) = .value r.instant? := by
  rw [instantAt, hfield, resolve, hfollow]
  rfl

end Context

namespace State

variable {readers : List PropertyReader} {s s' : State}

theorem readProperty_congr {name : String} (h : ∀ e ∈ readers, e s' name = e s name) :
    s'.readProperty name readers = s.readProperty name readers := by
  induction readers with
  | nil => rfl
  | cons e es ih =>
    obtain ⟨he, hes⟩ := List.forall_mem_cons.mp h
    rw [readProperty, readProperty, he, ih hes]

/-- From an instant and from a text a path leads on as the readers know. -/
theorem follow_text_eq_follow_instant {t : Instant} {text : String} {path : String}
    (hpath : path ≠ "")
    (h : ∀ e ∈ readers, ∀ name, e (.text text) name = e (.instant t) name) :
    (State.text text).follow readers path = (State.instant t).follow readers path := by
  obtain ⟨p, ps, hsegments⟩ : ∃ p ps, segments path = p :: ps :=
    List.exists_cons_of_ne_nil (segments_ne_nil hpath)
  have hstep : (State.text text).step readers p = (State.instant t).step readers p :=
    readProperty_congr fun e he => h e he p
  rw [follow, follow, hsegments, walk, walk, hstep]

end State

namespace Matcher

variable {m m' : Matcher} {c : Clause} {state1 state2 : Option State} {t : Instant}

/-- A clause that asks for instants applies alike to states in which the same instants stand at its
field. -/
theorem applies_congr_instantAt (hcontext : m'.context = m.context)
    (hasks : c.operation.asksWhen = true) {state1' state2' : Option State}
    (h1 : m.context.instantAt c state1' = m.context.instantAt c state1)
    (h2 : m.context.instantAt c state2' = m.context.instantAt c state2) :
    m'.applies c state1' state2' = m.applies c state1 state2 := by
  have hbuiltIn := Operation.ne_custom_of_asksWhen hasks
  rw [applies_eq, applies_eq, hcontext, Bool.eq_iff_iff, Context.applies_iff_verdictOf hbuiltIn,
    Context.applies_iff_verdictOf hbuiltIn, Context.clauseJudgement_congr_instantAt hasks h1 h2]

/-- Whatever knows no difference between an instant and its text, there is the same instant in both. -/
theorem instantAt_text (hread : Instant.read? t.text = some t)
    (h : c.field.getD "" = "" ∨
      ∀ e ∈ m.registry.propertyReaders, ∀ name, e (.text t.text) name = e (.instant t) name) :
    m.context.instantAt c (some (.text t.text)) = m.context.instantAt c (some (.instant t)) := by
  by_cases hpath : c.field.getD "" = ""
  · rw [Context.instantAt_of_follow (r := .text t.text) hpath rfl,
      Context.instantAt_of_follow (r := .instant t) hpath rfl]
    exact congrArg Outcome.value hread
  · have hfollow : (State.text t.text).follow m.context.registry.propertyReaders (c.field.getD "") =
        (State.instant t).follow m.context.registry.propertyReaders (c.field.getD "") :=
      State.follow_text_eq_follow_instant hpath (h.resolve_left hpath)
    rw [Context.instantAt, Context.instantAt, Context.resolve, Context.resolve, hfollow]

/-- A clause that compares with the text of an instant, among other data, applies just if there are
instants at its field and one of them compares with that instant or with one that is read from the
other data, or none does if the clause is inverted. -/
theorem applies_withData_iff (hoperation : c.operation = .isBefore ∨ c.operation = .isAfter)
    {text : String} (hread : Instant.read? text = some t) (front back : List String) :
    m.applies (c.withData (front ++ text :: back)) state1 state2 = true ↔
      ∃ u1 u2, m.context.instantAt c state1 = .value u1 ∧ m.context.instantAt c state2 = .value u2 ∧
        u1.toList ++ u2.toList ≠ [] ∧
        ((∃ u ∈ u1.toList ++ u2.toList, c.operation.compares u t = true ∨
          ∃ d ∈ front ++ back, ∃ v, Instant.read? d = some v ∧ c.operation.compares u v = true) ↔
            c.invert = false) := by
  have hasks : (c.withData (front ++ text :: back)).operation.asksWhen = true := by
    rcases hoperation with h | h <;> simp [Clause.withData, h, Operation.asksWhen]
  have hexpired : c.operation ≠ .isExpired := by
    rcases hoperation with h | h <;> simp [h]
  have hplace : ∀ s, m.context.instantAt (c.withData (front ++ text :: back)) s =
      m.context.instantAt c s := fun _ => rfl
  have hinvert : (c.withData (front ++ text :: back)).invert = c.invert := rfl
  rw [applies_eq, Context.applies_iff_verdictOf (Operation.ne_custom_of_asksWhen hasks),
    Context.clauseJudgement_eq_ofInstants hasks, hplace, hplace, hinvert]
  cases m.context.instantAt c state1 with
  | fault => simp [Judgement.verdictOf, Outcome.getD, Judgement.verdict]
  | value u1 =>
    cases m.context.instantAt c state2 with
    | fault => simp [Judgement.verdictOf, Outcome.getD, Judgement.verdict]
    | value u2 =>
      simp only [Outcome.andThen_value, Judgement.verdictOf, Outcome.getD,
        Judgement.verdict_ofInstants_iff hexpired hread, Bool.not_eq_true', Outcome.value.injEq,
        exists_and_left, exists_eq_left']

/-- A clause applies to two states alike, whatever is beside them, and whatever is in memory. -/
def TakesAlike (m m' : Matcher) (c : Clause) (s s' : State) : Prop :=
  ∀ other, m'.applies c (some s') other = m.applies c (some s) other ∧
    m'.applies c other (some s') = m.applies c other (some s)

theorem takesAlike_of_instantAt (hcontext : m'.context = m.context)
    (hasks : c.operation.asksWhen = true) {s s' : State}
    (h : m.context.instantAt c (some s') = m.context.instantAt c (some s)) :
    TakesAlike m m' c s s' := by
  intro other
  exact ⟨applies_congr_instantAt hcontext hasks h rfl, applies_congr_instantAt hcontext hasks rfl h⟩

/-- An instant of the years 0 to 9999, in which no second runs on but the last of a minute, and its text
stand for each other.  The text is what the instant is rendered as, and is read as the instant.  Clauses
that ask for instants take states alike, the first as the second, inverted or not, if the same instant
stands at their field in both, or none.  So they take both alike where they look at the whole state or no
property reader tells the two apart, and take any states alike where the one and the other stand at their
field.  Among the data of a clause that compares instants the text means the instant. -/
theorem applies_instantText (hcontext : m'.context = m.context) (hfirst : 0 ≤ t.date.year)
    (hlast : t.date.year ≤ 9999) (hleap : 1000000000 ≤ t.nanosecond → t.second % 60 = 59) :
    (State.instant t).render = .value t.text ∧
      Instant.read? t.text = some t ∧
      (∀ (c : Clause) (s s' : State), c.operation.asksWhen = true →
        m.context.instantAt c (some s') = m.context.instantAt c (some s) → TakesAlike m m' c s s') ∧
      (∀ c : Clause, c.operation.asksWhen = true →
        (c.field.getD "" = "" ∨
          ∀ e ∈ m.registry.propertyReaders, ∀ name, e (.text t.text) name = e (.instant t) name) →
        TakesAlike m m' c (.instant t) (.text t.text)) ∧
      (∀ (c : Clause) (s s' : State), c.operation.asksWhen = true →
        s.follow m.registry.propertyReaders (c.field.getD "") = .value (some (.instant t)) →
        s'.follow m.registry.propertyReaders (c.field.getD "") = .value (some (.text t.text)) →
        TakesAlike m m' c s s') ∧
      ∀ (c : Clause) (front back : List String) (state1 state2 : Option State),
        c.operation = .isBefore ∨ c.operation = .isAfter →
        (m.applies (c.withData (front ++ t.text :: back)) state1 state2 = true ↔
          ∃ u1 u2, m.context.instantAt c state1 = .value u1 ∧
            m.context.instantAt c state2 = .value u2 ∧ u1.toList ++ u2.toList ≠ [] ∧
            ((∃ u ∈ u1.toList ++ u2.toList, c.operation.compares u t = true ∨
              ∃ d ∈ front ++ back, ∃ v, Instant.read? d = some v ∧
                c.operation.compares u v = true) ↔ c.invert = false)) := by
  have hread : Instant.read? t.text = some t := Instant.read?_text hleap hfirst hlast
  refine ⟨rfl, hread, ?_, ?_, ?_, ?_⟩
  · intro c s s' hasks h
    exact takesAlike_of_instantAt hcontext hasks h
  · intro c hasks h
    exact takesAlike_of_instantAt hcontext hasks (instantAt_text hread h)
  · intro c s s' hasks hs hs'
    have hinstant : m.context.instantAt c (some s) = .value (some t) :=
      Context.instantAt_of_follow (r := .instant t) rfl hs
    have htext : m.context.instantAt c (some s') = .value (Instant.read? t.text) :=
      Context.instantAt_of_follow (r := .text t.text) rfl hs'
    exact takesAlike_of_instantAt hcontext hasks (by rw [htext, hread, hinstant])
  · intro c front back state1 state2 hoperation
    exact applies_withData_iff hoperation hread front back

/-- Half a second into the second that was added to the end of 2016. -/
private def addedSecond : Instant := ⟨1483228799, 1500000000, by decide⟩

private def notAfterAdded : Clause :=
  ((Clause.ofOperation .isAfter).withField "since").inverted

/-- A leap second at a field, in a list of pairs as a text and in a map as an instant, is not after its
own text. -/
theorem applies_instantText_of_leapSecond :
    let m := withSettings .default ⟨0, 0, by decide⟩
    let c := notAfterAdded.withData ["never", "2016-12-31T23:59:60.500+00:00"]
    m.applies c none (some (.pairs [("since", "2016-12-31T23:59:60.500+00:00")])) = true ∧
      m.applies c none (some (.ofEntries [("since", .instant addedSecond)])) = true := by
  intro m c
  have hcontext : m.context = m.context := rfl
  have htext : addedSecond.text = "2016-12-31T23:59:60.500+00:00" := by decide +kernel
  obtain ⟨-, -, -, -, hfield, hdata⟩ :=
    applies_instantText hcontext (t := addedSecond) (by decide) (by decide) (by decide)
  rw [htext] at hfield hdata
  have hunread : Instant.read? "never" = none := by decide +kernel
  have hsame : Operation.isAfter.compares addedSecond addedSecond = false := by decide
  have hinstant : m.applies c none (some (.ofEntries [("since", .instant addedSecond)])) = true := by
    refine (hdata notAfterAdded ["never"] [] _ _ (.inr rfl)).mpr
      ⟨none, some addedSecond, rfl, rfl, by decide, ?_⟩
    simp [notAfterAdded, Clause.inverted, Clause.withField, Clause.ofOperation, hunread, hsame]
  have hfollow : (State.ofEntries [("since", .instant addedSecond)]).follow [] "since" =
      .value (some (.instant addedSecond)) := rfl
  have hfollow' : (State.pairs [("since", "2016-12-31T23:59:60.500+00:00")]).follow [] "since" =
      .value (some (.text "2016-12-31T23:59:60.500+00:00")) := rfl
  exact ⟨(hfield c _ _ rfl hfollow hfollow' none).2.trans hinstant, hinstant⟩

end Matcher

end RuleMatching
