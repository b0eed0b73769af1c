import RuleMatching.Matcher.Issues
import RuleMatching.Proofs.Matcher.Batch

/-!
Sessions.  In a session extensions are registered and cleared in turn with whatever can be asked of a
matcher.  A step may leave something in the memories, and the reply to a later question depends on
nothing but the settings, the time and the extensions in force then: it is the reply of a matcher
that is made for the question, `Matcher.session_transparent`.
-/

set_option autoImplicit false
set_option relaxedAutoImplicit false

namespace RuleMatching

/-- An extension that can be registered. -/
inductive Extension where
  | operation (o : CustomOperation)
  | reducer (e : Reducer)
  | propertyReader (e : PropertyReader)

namespace Extension

def addTo : Extension → Registry → Registry
  | operation o, r => r.addOperation o
  | reducer e, r => r.addReducer e
  | propertyReader e, r => r.addPropertyReader e

def isOperation : Extension → Bool
  | operation _ => true
  | _ => false

end Extension

namespace Registry

/-- The registry after extensions have been registered in order. -/
def addAll (r : Registry) (xs : List Extension) : Registry := xs.foldl (fun r x => x.addTo r) r

/-- Clearing the operations leaves what was registered without them. -/
theorem clearOperations_addAll (r : Registry) (xs : List Extension) :
    (r.addAll xs).clearOperations =
      r.clearOperations.addAll (xs.filter fun x => !x.isOperation) := by
  induction xs generalizing r with
  | nil => rfl
  | cons x xs ih =>
    have htail : (r.addAll (x :: xs)).clearOperations =
        (x.addTo r).clearOperations.addAll (xs.filter fun x => !x.isOperation) := ih (x.addTo r)
    rw [htail]
    cases x <;> rfl

theorem addAll_concat (r : Registry) (xs : List Extension) (x : Extension) :
    r.addAll (xs ++ [x]) = x.addTo (r.addAll xs) := by
  rw [addAll, List.foldl_append]
  rfl

end Registry

/-- What can be asked of a matcher. -/
inductive Question where
  | clause (c : Clause) (state1 state2 : Option State) (before : List Capture)
  | run (mode : Mode) (r : Rule) (state1 state2 : Option State)
  | evaluation (r : Rule) (state1 state2 : Option State)
  | isMatch (r : Rule) (state1 state2 : Option State)
  | captures (r : Rule) (state1 state2 : Option State)
  | allMatching (available : Nat) (rules : List Rule) (state1 state2 : Option State)
  | allTags (available : Nat) (rules : List Rule) (state1 state2 : Option State)
  | allCaptures (available : Nat) (rules : List Rule) (state1 state2 : Option State)
  | issues (rules : List Rule)
  | isValid (r : Rule)
  | expression (text : String)
  | pattern (text : String)
  | found (path : String) (s : State)
  | reduction (s : State)

/-- A reply of a matcher. -/
inductive Reply where
  | clause (a : Answer)
  | run (result : Except RuleError Evaluation)
  | evaluation (ev : Evaluation)
  | isMatch (b : Bool)
  | captures (found : Option (List PlacedCapture))
  | allMatching (places : List Nat)
  | allTags (tags : NameSet)
  | allCaptures (found : List (Nat × List PlacedCapture))
  | issues (found : Outcome (List (Nat × Issue)))
  | isValid (b : Outcome Bool)
  | expression (e : Except RuleError Expression)
  | pattern (p : Option Pattern)
  | found (s : Outcome (Option State))
  | reduction (x : Outcome Reduction)

/-- A step of a session. -/
inductive SessionStep where
  | register (x : Extension)
  | clearOperations
  | ask (q : Question)

/-- The extensions in force after a step. -/
def SessionStep.inForce (xs : List Extension) : SessionStep → List Extension
  | register x => xs ++ [x]
  | clearOperations => xs.filter fun x => !x.isOperation
  | ask _ => xs

/-- The steps of a session, each at its time. -/
abbrev Session := List (Instant × SessionStep)

/-- The extensions in force after a session, in the order of their registration. -/
def Session.inForce (steps : Session) : List Extension :=
  steps.foldl (fun xs s => s.2.inForce xs) []

namespace Matcher

def atTime (m : Matcher) (t : Instant) : Matcher := { m with now := t }

/-- Asks a matcher, which may remember something of it. -/
def ask (m : Matcher) : Question → Matcher × Reply
  | .clause c s1 s2 before => (m.answerClause c s1 s2 before).map id .clause
  | .run mode r s1 s2 => (m.run mode r s1 s2).map id .run
  | .evaluation r s1 s2 => (m.evaluate r s1 s2).map id .evaluation
  | .isMatch r s1 s2 => (m.isMatch r s1 s2).map id .isMatch
  | .captures r s1 s2 => (m.captures? r s1 s2).map id .captures
  | .allMatching available rules s1 s2 =>
      (m.matching available rules s1 s2).map id .allMatching
  | .allTags available rules s1 s2 => (m.tags available rules s1 s2).map id .allTags
  | .allCaptures available rules s1 s2 =>
      (m.captures available rules s1 s2).map id .allCaptures
  | .issues rules => (m, .issues (m.issuesOfAll rules))
  | .isValid r => (m, .isValid (m.isValid r))
  | .expression text => (m.lookUpExpression text).map id .expression
  | .pattern text => (m.lookUpPattern text).map id .pattern
  | .found path s => (m, .found (m.follow path s))
  | .reduction s => (m, .reduction (m.reduce s))

/-- Takes a step of a session; only a question has a reply. -/
def take (m : Matcher) : SessionStep → Matcher × Option Reply
  | .register x => (m.register x.addTo, none)
  | .clearOperations => (m.register Registry.clearOperations, none)
  | .ask q => (m.ask q).map id some

/-- The matcher after a session. -/
def after (m : Matcher) : Session → Matcher
  | [] => m
  | s :: ss => after ((m.atTime s.1).take s.2).1 ss

/-- The replies in a session, one for each step. -/
def replies (m : Matcher) : Session → List (Option Reply)
  | [] => []
  | s :: ss => ((m.atTime s.1).take s.2).2 :: replies ((m.atTime s.1).take s.2).1 ss

/-- A matcher that remembers nothing, with extensions that have been registered in order. -/
def fresh (settings : Settings) (now : Instant) (xs : List Extension) : Matcher :=
  xs.foldl (fun m x => m.register x.addTo) (withSettings settings now)

section

variable {m m' : Matcher}

theorem lookUpExpression_snd (m : Matcher) (text : String) :
    (m.lookUpExpression text).2 = (Expression.read text).mapError (.invalidExpression text) := by
  simp only [lookUpExpression, Memo.lookUp_snd]

theorem lookUpPattern_snd (m : Matcher) (text : String) :
    (m.lookUpPattern text).2 = Pattern.ofText? m.settings.sizeLimit text := by
  simp only [lookUpPattern, Memo.lookUp_snd]

/-- A question changes nothing but the memories. -/
theorem eqUpToMemory_ask (m : Matcher) (q : Question) : m.EqUpToMemory (m.ask q).1 := by
  cases q with
  | clause c s1 s2 before => exact ⟨rfl, rfl, rfl⟩
  | run mode r s1 s2 => exact m.eqUpToMemory_run r s1 s2 mode
  | evaluation r s1 s2 => exact m.eqUpToMemory_evaluate r s1 s2
  | isMatch r s1 s2 => exact m.eqUpToMemory_evaluate r s1 s2
  | captures r s1 s2 => exact m.eqUpToMemory_evaluate r s1 s2
  | allMatching available rules s1 s2 =>
    exact ((m.gives_ifMatch s1 s2 id).evaluateEach available rules).1
  | allTags available rules s1 s2 =>
    exact ((m.gives_ifMatch s1 s2 Rule.tags).evaluateEach available rules).1
  | allCaptures available rules s1 s2 =>
    exact ((m.gives_captures? s1 s2).evaluateEach available rules).1
  | issues rules => exact .refl m
  | isValid r => exact .refl m
  | expression text => exact ⟨rfl, rfl, rfl⟩
  | pattern text => exact ⟨rfl, rfl, rfl⟩
  | found path s => exact .refl m
  | reduction s => exact .refl m

/-- The reply to a question does not depend on what is in memory. -/
theorem EqUpToMemory.ask_snd (h : m.EqUpToMemory m') (q : Question) :
    (m'.ask q).2 = (m.ask q).2 := by
  have hresult : ∀ {β : Type} (x : Rule → β) (s1 s2 : Option State),
      m'.resultOf s1 s2 x = m.resultOf s1 s2 x :=
    fun x s1 s2 => resultOf_congr s1 s2 h.context h.mode x
  cases q with
  | clause c s1 s2 before => simp only [ask, Prod.map_snd, answerClause_snd, h.context]
  | run mode r s1 s2 => simp only [ask, Prod.map_snd, run_snd, h.context]
  | evaluation r s1 s2 => simp only [ask, Prod.map_snd, evaluate_snd, h.context, h.mode]
  | isMatch r s1 s2 => simp only [ask, Prod.map_snd, isMatch_snd, h.context, h.mode]
  | captures r s1 s2 => simp only [ask, Prod.map_snd, captures?_snd, h.context, h.mode]
  | allMatching available rules s1 s2 => simp only [ask, Prod.map_snd, matching_snd, hresult]
  | allTags available rules s1 s2 => simp only [ask, Prod.map_snd, tags_snd, hresult]
  | allCaptures available rules s1 s2 =>
    simp only [ask, Prod.map_snd, captures_snd, h.context, h.mode]
  | issues rules =>
    have hissues : m'.issuesOf = m.issuesOf := by
      funext r
      rw [issuesOf, issuesOf, h.registry, h.settings]
    simp only [ask, issuesOfAll, hissues]
  | isValid r => simp only [ask, isValid, issuesOf, h.registry, h.settings]
  | expression text => simp only [ask, Prod.map_snd, lookUpExpression_snd]
  | pattern text => simp only [ask, Prod.map_snd, lookUpPattern_snd, h.settings]
  | found path s => simp only [ask, follow, h.registry]
  | reduction s => simp only [ask, reduce, h.registry]

/-- A matcher has settings and extensions that have been registered in order. -/
structure Has (m : Matcher) (settings : Settings) (xs : List Extension) : Prop where
  settings : m.settings = settings
  registry : m.registry = Registry.empty.addAll xs

section

variable {settings : Settings} {xs : List Extension}

theorem Has.atTime (h : m.Has settings xs) (t : Instant) : (m.atTime t).Has settings xs :=
  ⟨h.settings, h.registry⟩

/-- Registering extensions in order adds them in this order. -/
theorem foldl_register (m : Matcher) (xs : List Extension) :
    let m' := xs.foldl (fun m x => m.register x.addTo) m
    m'.settings = m.settings ∧ m'.registry = m.registry.addAll xs ∧ m'.now = m.now := by
  induction xs generalizing m with
  | nil => exact ⟨rfl, rfl, rfl⟩
  | cons x xs ih => exact ih (m.register x.addTo)

theorem has_fresh (settings : Settings) (now : Instant) (xs : List Extension) :
    (fresh settings now xs).Has settings xs ∧ (fresh settings now xs).now = now := by
  obtain ⟨hsettings, hregistry, hnow⟩ := foldl_register (withSettings settings now) xs
  exact ⟨⟨hsettings, hregistry⟩, hnow⟩

/-- What a matcher with the extensions of a fresh one replies is what the fresh one replies. -/
theorem Has.eqUpToMemory_fresh (h : m.Has settings xs) :
    (fresh settings m.now xs).EqUpToMemory m := by
  obtain ⟨hfresh, hnow⟩ := has_fresh settings m.now xs
  exact ⟨h.settings.trans hfresh.settings.symm, h.registry.trans hfresh.registry.symm, hnow.symm⟩

/-- A step changes the extensions in force as it says, and no settings. -/
theorem Has.take (h : m.Has settings xs) (s : SessionStep) :
    (m.take s).1.Has settings (s.inForce xs) := by
  cases s with
  | register x =>
    refine ⟨h.settings, ?_⟩
    rw [SessionStep.inForce, Registry.addAll_concat, ← h.registry]
    rfl
  | clearOperations =>
    refine ⟨h.settings, ?_⟩
    -- Reducers and property readers stay, in their order among themselves.
    have hcleared := Registry.clearOperations_addAll .empty xs
    rw [← h.registry] at hcleared
    exact hcleared
  | ask q =>
    have hask := m.eqUpToMemory_ask q
    exact ⟨hask.settings.trans h.settings, hask.registry.trans h.registry⟩

/-- What a matcher replies in a step is what a fresh matcher replies. -/
theorem Has.take_snd (h : m.Has settings xs) (s : SessionStep) :
    (m.take s).2 = ((fresh settings m.now xs).take s).2 := by
  cases s with
  | register x => rfl
  | clearOperations => rfl
  | ask q => exact congrArg some (h.eqUpToMemory_fresh.ask_snd q)

theorem Has.after (h : m.Has settings xs) (steps : Session) :
    (m.after steps).Has settings (steps.foldl (fun xs s => s.2.inForce xs) xs) := by
  induction steps generalizing m xs with
  | nil => exact h
  | cons s ss ih => exact ih ((h.atTime s.1).take s.2)

end

/-- The reply to a step is given by the matcher after the steps before it. -/
theorem getElem?_replies (m : Matcher) (steps : Session) (i : Nat) :
    (m.replies steps)[i]? =
      steps[i]?.map fun s => (((m.after (steps.take i)).atTime s.1).take s.2).2 := by
  induction steps generalizing m i with
  | nil => rfl
  | cons s ss ih =>
    cases i with
    | zero => rfl
    | succ i => exact ih _ i

/-- In a session every step has the reply of a fresh matcher with the extensions then in force, and
what cannot be read is reported in the same way each time, under the text that was asked for. -/
theorem session_transparent (settings : Settings) (start : Instant) (steps : Session) :
    let replies := (withSettings settings start).replies steps
    (∀ i, replies[i]? = steps[i]?.map fun s =>
      ((fresh settings s.1 (Session.inForce (steps.take i))).take s.2).2) ∧
    (∀ (i : Nat) t text, steps[i]? = some (t, SessionStep.ask (.expression text)) →
      replies[i]? = some (some (Reply.expression
        ((Expression.read text).mapError (.invalidExpression text))))) ∧
    (∀ (i : Nat) t text, steps[i]? = some (t, SessionStep.ask (.pattern text)) →
      replies[i]? = some (some (Reply.pattern (Pattern.ofText? settings.sizeLimit text)))) ∧
    ∀ (i : Nat) t mode r s1 s2 text flaw,
      steps[i]? = some (t, SessionStep.ask (.run mode r s1 s2)) →
      r.expression = some text → Expression.read text = .error flaw →
        replies[i]? = some (some (Reply.run (.error (.invalidExpression text flaw)))) := by
  intro replies
  have hstart : (withSettings settings start).Has settings [] := ⟨rfl, rfl⟩
  have hreplies : ∀ i, replies[i]? = steps[i]?.map fun s =>
      ((fresh settings s.1 (Session.inForce (steps.take i))).take s.2).2 := by
    intro i
    rw [getElem?_replies]
    congr 1
    funext s
    exact ((hstart.after (steps.take i)).atTime s.1).take_snd s.2
  refine ⟨hreplies, ?_, ?_, ?_⟩
  · intro i t text hi
    rw [hreplies, hi]
    simp only [Option.map_some, Matcher.take, ask, Prod.map_snd, lookUpExpression_snd]
  · intro i t text hi
    obtain ⟨hfresh, -⟩ := has_fresh settings t (Session.inForce (steps.take i))
    rw [hreplies, hi]
    simp only [Option.map_some, Matcher.take, ask, Prod.map_snd, lookUpPattern_snd,
      hfresh.settings]
  · intro i t mode r s1 s2 text flaw hi htext hread
    rw [hreplies, hi]
    simp only [Option.map_some, Matcher.take, ask, Prod.map_snd,
      run_of_read_eq_error htext hread]

end

private def halfSaid : Rule := (Rule.named "r" "half").withExpression "a AND"

private def heldBack : CustomOperation :=
  ⟨"x", fun _ => .value true, fun _ _ _ _ _ => .value (.error "not now"), fun _ _ => .value []⟩

/-- The text that could not be read is reported again after an operation has come and gone. -/
theorem session_reports_unreadable :
    let t : Instant := ⟨0, 0, by decide⟩
    let steps : Session :=
      [(t, .ask (.expression "a AND")), (t, .register (.operation heldBack)),
        (t, .ask (.evaluation halfSaid none none)), (t, .clearOperations),
        (t, .ask (.run ⟨true, false⟩ halfSaid none none))]
    ((withSettings .default t).replies steps)[4]? =
      some (some (.run (.error (.invalidExpression "a AND" (.expectedOperand
        Expression.endOfText))))) := by
  intro t steps
  obtain ⟨-, -, -, hrun⟩ := session_transparent .default t steps
  exact hrun 4 t ⟨true, false⟩ halfSaid none none "a AND" _ rfl rfl rfl

end Matcher

end RuleMatching
