import RuleMatching.Proofs.Evaluation.Polarity
import RuleMatching.Proofs.Judgement.Forms
import RuleMatching.Proofs.Matcher.Session
import RuleMatching.Proofs.State.Precedence

/-!
Registering extensions.  What is registered in the course of a session comes behind what was there, so
it is asked only where the extensions before it have no answer.  A clause that finds its field in all
states that are there, and whose states were handled before, has the same answer after any session:
`Matcher.registration_keeps_answers`.
-/

set_option autoImplicit false
set_option relaxedAutoImplicit false

namespace RuleMatching

open Judgement (present)

/-- A registry has the readers and reducers of another in front, and perhaps further ones behind. -/
structure Registry.Extends (r r' : Registry) : Prop where
  propertyReaders : r.propertyReaders <+: r'.propertyReaders
  reducers : r.reducers <+: r'.reducers

namespace Registry

theorem Extends.refl (r : Registry) : r.Extends r :=
  ⟨List.prefix_rfl, List.prefix_rfl⟩

theorem Extends.trans {r r' r'' : Registry} (h : r.Extends r') (h' : r'.Extends r'') :
    r.Extends r'' :=
  ⟨h.propertyReaders.trans h'.propertyReaders, h.reducers.trans h'.reducers⟩

theorem extends_addTo (r : Registry) (x : Extension) : r.Extends (x.addTo r) := by
  cases x with
  | operation o => exact ⟨List.prefix_rfl, List.prefix_rfl⟩
  | reducer e => exact ⟨List.prefix_rfl, List.prefix_append _ _⟩
  | propertyReader e => exact ⟨List.prefix_append _ _, List.prefix_rfl⟩

end Registry

namespace Context

variable {ctx ctx' : Context} {c : Clause} {state1 state2 : Option State}

/-- The field of a clause is found in a state, and what is found there is handled. -/
def Settles (ctx : Context) (c : Clause) (s : State) : Prop :=
  ∃ t, s.follow ctx.registry.propertyReaders (c.field.getD "") = .value (some t) ∧
    t.Handled ctx.registry.reducers

/-- What is found in a state that may be missing is found with further extensions, too. -/
theorem exists_resolve_of_settles (hregistry : ctx.registry.Extends ctx'.registry)
    {o : Option State} (h : ∀ s ∈ o, ctx.Settles c s) :
    ∃ v, ctx.resolve (c.field.getD "") o = .value v ∧ ctx'.resolve (c.field.getD "") o = .value v ∧
      ∀ t ∈ v, t.Handled ctx.registry.reducers := by
  cases o with
  | none => exact ⟨none, rfl, rfl, by simp⟩
  | some s =>
    obtain ⟨t, hfollow, hhandled⟩ := h s rfl
    obtain ⟨later, hlater⟩ := hregistry.propertyReaders
    refine ⟨some t, hfollow, ?_, by simpa using hhandled⟩
    rw [resolve, ← hlater]
    exact State.follow_append_readers hfollow later

/-- Where a clause with a built-in operation looks at the same states and comes to the same judgement,
it has the same answer. -/
theorem clauseAnswer_congr (hbuiltIn : c.operation ≠ .custom)
    (hresolve : ctx'.resolveBoth c state1 state2 = ctx.resolveBoth c state1 state2)
    (hjudged : ctx'.clauseJudgement c state1 state2 = ctx.clauseJudgement c state1 state2)
    (before : List Capture) :
    ctx'.clauseAnswer c state1 state2 before = ctx.clauseAnswer c state1 state2 before := by
  rcases @clauseAnswer_of_builtIn ctx c hbuiltIn state1 state2 before with
    ⟨r, v, hr, hv, hanswer⟩ | ⟨hundecided, hanswer⟩
  · rcases @clauseAnswer_of_builtIn ctx' c hbuiltIn state1 state2 before with
      ⟨r', v', hr', hv', hanswer'⟩ | ⟨hundecided', -⟩
    · obtain rfl := Outcome.value.inj (hr'.symm.trans (hresolve.trans hr))
      obtain rfl := Option.some.inj (Outcome.value.inj (hv'.symm.trans (hjudged.trans hv)))
      rw [hanswer, hanswer']
    · exact absurd ⟨v, hjudged.trans hv⟩ hundecided'
  · rcases @clauseAnswer_of_builtIn ctx' c hbuiltIn state1 state2 before with
      ⟨r', v', -, hv', -⟩ | ⟨-, hanswer'⟩
    · exact absurd ⟨v', hjudged.symm.trans hv'⟩ hundecided
    · rw [hanswer, hanswer']

/-- Further extensions do not change the answer of a clause whose states are all settled. -/
theorem clauseAnswer_of_settles (hbuiltIn : c.operation ≠ .custom)
    (hregistry : ctx.registry.Extends ctx'.registry) (hlimit : ctx'.sizeLimit = ctx.sizeLimit)
    (hnow : c.operation = .isExpired → ctx'.now = ctx.now)
    (h : ∀ s ∈ present state1 state2, ctx.Settles c s) (before : List Capture) :
    ctx'.clauseAnswer c state1 state2 before = ctx.clauseAnswer c state1 state2 before := by
  obtain ⟨r1, hr1, hr1', hhandled1⟩ := exists_resolve_of_settles hregistry fun s hs =>
    h s (List.mem_append_left _ (Option.mem_toList.mpr hs))
  obtain ⟨r2, hr2, hr2', hhandled2⟩ := exists_resolve_of_settles hregistry fun s hs =>
    h s (List.mem_append_right _ (Option.mem_toList.mpr hs))
  have hboth : ctx.resolveBoth c state1 state2 = .value (r1, r2) := by
    simp only [resolveBoth, hr1, hr2, Outcome.andThen_value]
  have hboth' : ctx'.resolveBoth c state1 state2 = .value (r1, r2) := by
    simp only [resolveBoth, hr1', hr2', Outcome.andThen_value]
  have hreduce : ∀ s ∈ present r1 r2,
      s.reduce ctx'.registry.reducers = s.reduce ctx.registry.reducers := by
    intro s hs
    obtain ⟨later, hlater⟩ := hregistry.reducers
    rw [← hlater]
    exact State.reduce_append_of_handled (Judgement.forall_present hhandled1 hhandled2 s hs) later
  refine clauseAnswer_congr hbuiltIn (hboth'.trans hboth.symm) ?_ before
  rw [clauseJudgement, clauseJudgement, hboth, hboth', Outcome.andThen_value, Outcome.andThen_value,
    hlimit]
  exact Judgement.ofClause_congr hreduce hnow _

end Context

namespace Matcher

/-- A step of a session leaves the settings, and the readers and reducers in front. -/
theorem extends_take (m : Matcher) (step : SessionStep) :
    (m.take step).1.settings = m.settings ∧ m.registry.Extends (m.take step).1.registry := by
  cases step with
  | register x => exact ⟨rfl, m.registry.extends_addTo x⟩
  | clearOperations => exact ⟨rfl, List.prefix_rfl, List.prefix_rfl⟩
  | ask q =>
    have hask := m.eqUpToMemory_ask q
    refine ⟨hask.settings, ?_⟩
    have hregistry : (m.take (.ask q)).1.registry = m.registry := hask.registry
    rw [hregistry]
    exact .refl m.registry

theorem extends_after (m : Matcher) (steps : Session) :
    (m.after steps).settings = m.settings ∧ m.registry.Extends (m.after steps).registry := by
  induction steps generalizing m with
  | nil => exact ⟨rfl, .refl m.registry⟩
  | cons s ss ih =>
    obtain ⟨hsettings, hregistry⟩ := (m.atTime s.1).extends_take s.2
    obtain ⟨hsettings', hregistry'⟩ := ih ((m.atTime s.1).take s.2).1
    exact ⟨hsettings'.trans hsettings, hregistry.trans hregistry'⟩

/-- The answer of a clause whose states are all settled is the same after any session. -/
theorem answerClause_after {m : Matcher} {c : Clause} (hbuiltIn : c.operation ≠ .custom)
    {state1 state2 : Option State} (h : ∀ s ∈ present state1 state2, m.context.Settles c s)
    (steps : Session) {now : Instant} (hnow : c.operation = .isExpired → now = m.now)
    (before : List Capture) :
    (((m.after steps).atTime now).answerClause c state1 state2 before).2 =
      (m.answerClause c state1 state2 before).2 := by
  obtain ⟨hsettings, hregistry⟩ := m.extends_after steps
  rw [answerClause_snd, answerClause_snd]
  refine Context.clauseAnswer_of_settles hbuiltIn hregistry ?_ hnow h before
  exact congrArg Settings.sizeLimit hsettings

/-- Registering extensions takes no answer back.  What stands at a path stands there with further
readers, too.  A state that has a form of its own is brought down to it whatever the reducers are; a
state that is handled is brought down as before; and for any other the first of the further reducers
that does not pass it on decides, or its text if there is none.  So if a clause with a built-in
operation finds its field in all states that are there, and what it finds is handled, then it has the
same answer after any session, inverted or not. -/
theorem registration_keeps_answers :
    (∀ (readers later : List PropertyReader) (path : String) (s t : State),
      s.follow readers path = .value (some t) →
        s.follow (readers ++ later) path = .value (some t)) ∧
    (∀ (reducers later : List Reducer) (s : State),
      (∀ x, s.ownForm? = some x → s.reduce (reducers ++ later) = .value x) ∧
      (s.Handled reducers → s.reduce (reducers ++ later) = s.reduce reducers) ∧
      (¬s.Handled reducers → ∀ x, s.reduce (reducers ++ later) = .value x ↔
        State.FirstForm later s x ∨
          (∀ e ∈ later, e s = .value none) ∧ ∃ text, s.render = .value text ∧ x = .ofText text)) ∧
    ∀ (m : Matcher) (c : Clause) (state1 state2 : Option State) (before : List Capture)
      (steps : Session) (now : Instant),
      c.operation ≠ .custom → (c.operation = .isExpired → now = m.now) →
      (∀ s ∈ present state1 state2, m.context.Settles c s) →
        let m' := (m.after steps).atTime now
        (m'.answerClause c state1 state2 before).2 = (m.answerClause c state1 state2 before).2 ∧
          (m'.answerClause c.flipped state1 state2 before).2 =
            (m.answerClause c.flipped state1 state2 before).2 := by
  refine ⟨?_, ?_, ?_⟩
  · intro readers later path s t h
    exact State.follow_append_readers h later
  · intro reducers later s
    refine ⟨?_, ?_, ?_⟩
    · intro x hown
      exact State.reduce_of_ownForm? hown (reducers ++ later)
    · intro hhandled
      exact State.reduce_append_of_handled hhandled later
    · intro hnot x
      rw [State.reduce_append_of_not_handled hnot]
      exact State.reduceBy_eq_value_iff
  · intro m c state1 state2 before steps now hbuiltIn hnow hsettles
    exact ⟨answerClause_after hbuiltIn hsettles steps hnow before,
      answerClause_after (c := c.flipped) hbuiltIn hsettles steps hnow before⟩

/-- Gives a text as the property `name` of every state. -/
private def namingReader (name : String) : PropertyReader := fun _ property =>
  .value (if property = "name" then some (.text name) else none)

/-- Brings every state down to one text. -/
private def constantReducer (text : String) : Reducer := fun _ => .value (some (.ofText text))

private def namedFirst : Clause :=
  ((Clause.ofOperation .equals).withField "name").withData ["first"]

/-- A number has the name that the first reader gives it, a nested list is left to a reducer that comes
later, and a clause that looks at the name has the answer that it had before both. -/
theorem registration_keeps_name :
    let t : Instant := ⟨0, 0, by decide⟩
    let nested := State.ofItems [.ofItems []]
    let m := (withSettings .default t).register (·.addPropertyReader (namingReader "first"))
    let steps : Session := [(t, .register (.propertyReader (namingReader "second"))),
      (t, .register (.reducer (constantReducer "x")))]
    let m' := (m.after steps).atTime t
    (State.int 5).follow ([namingReader "first"] ++ [namingReader "second"]) "name" =
        .value (some (.text "first")) ∧
      ¬nested.Handled [] ∧
      nested.reduce ([] ++ [constantReducer "x"]) = .value (.ofText "x") ∧
      (∀ s ∈ present (some (.int 5)) none, m.context.Settles namedFirst s) ∧
      (m'.answerClause namedFirst (some (.int 5)) none []).2.applies = true ∧
      (m'.answerClause namedFirst.flipped (some (.int 5)) none []).2.applies = false := by
  intro t nested m steps m'
  obtain ⟨hfollow, hreduce, hanswer⟩ := registration_keeps_answers
  have hnested : ¬nested.Handled [] := by
    rw [State.not_handled_iff]
    exact ⟨rfl, by simp⟩
  have hsettles : ∀ s ∈ present (some (.int 5)) none, m.context.Settles namedFirst s := by
    intro s hs
    obtain rfl := List.mem_singleton.mp hs
    exact ⟨.text "first", rfl, .inl rfl⟩
  obtain ⟨-, -, hlater⟩ := hreduce [] [constantReducer "x"] nested
  obtain ⟨hplain, hflipped⟩ := hanswer m namedFirst (some (.int 5)) none [] steps t (by decide)
    (fun _ => rfl) hsettles
  refine ⟨?_, hnested, ?_, hsettles, ?_, ?_⟩
  · exact hfollow [namingReader "first"] [namingReader "second"] "name" (.int 5) _ rfl
  · exact (hlater hnested _).mpr (.inl ⟨[], constantReducer "x", [], rfl, by simp, rfl⟩)
  · rw [hplain]
    rfl
  · rw [hflipped]
    rfl

end Matcher

end RuleMatching
