import Mathlib.Logic.Relation
import SchemaSignature.Program.Shelf

/-!
The results that definitions keep, and which definitions an evaluation can add a result to. While an
interpreter evaluates a definition, only those that the definition is in need of get a result for the
interpreter, and each of them rests on definitions that come to an end. So a definition never gets a
result while it is itself being evaluated.
-/

namespace SchemaSignature.Program

namespace Expression

mutual

/-- The definitions that are evaluated along with an expression, in order. Those that the bodies of
its lazy nodes use are not among them. -/
def uses : Expression → List String
  | .defined name => [name]
  | .literalsOr _ fallback => uses fallback
  | .fields _ entries => usesOfEntries entries
  | .container _ element => uses element
  | .list _ members => usesOfMembers members
  | .sum _ members => usesOfEntries members
  | .primitive _ | .null | .raw _ | .stored _ | .constant _ | .produced _ | .probe _ | .literals _
  | .listOf _ _ | .lazy _ _ | .lazyOf _ _ => []

def usesOfMembers : List Expression → List String
  | [] => []
  | expression :: rest => uses expression ++ usesOfMembers rest

def usesOfEntries : List (Json × Expression) → List String
  | [] => []
  | (_, expression) :: rest => uses expression ++ usesOfEntries rest

end

mutual

/-- The stored values that are fetched along with an expression, in order. Those that the bodies of
its lazy nodes fetch are not among them. -/
def fetches : Expression → List String
  | .stored name => [name]
  | .literalsOr _ fallback => fetches fallback
  | .fields _ entries => fetchesOfEntries entries
  | .container _ element => fetches element
  | .list _ members => fetchesOfMembers members
  | .sum _ members => fetchesOfEntries members
  | .primitive _ | .null | .raw _ | .defined _ | .constant _ | .produced _ | .probe _ | .literals _
  | .listOf _ _ | .lazy _ _ | .lazyOf _ _ => []

def fetchesOfMembers : List Expression → List String
  | [] => []
  | expression :: rest => fetches expression ++ fetchesOfMembers rest

def fetchesOfEntries : List (Json × Expression) → List String
  | [] => []
  | (_, expression) :: rest => fetches expression ++ fetchesOfEntries rest

end

end Expression

namespace Definition

/-- What a definition has been made from. -/
def plan (definition : Definition) : Expression × Bool :=
  (definition.expression, definition.keepsResults)

/-- A definition that is about to be evaluated once more. -/
def counted (definition : Definition) : Definition :=
  { definition with calls := definition.calls + 1 }

/-- A definition with one more result. -/
def keeping (interpreter : Nat) (value : Value) (definition : Definition) : Definition :=
  { definition with results := definition.results ++ [(interpreter, value)] }

end Definition

namespace Shelf

def definition? (shelf : Shelf) (name : String) : Option Definition :=
  Table.find? (· == name) shelf.definitions

/-- The results that a definition keeps, oldest first. -/
def resultsOf (shelf : Shelf) (name : String) : List (Nat × Value) :=
  ((shelf.definition? name).map Definition.results).getD []

/-- The result that a definition keeps for an interpreter. -/
def result? (shelf : Shelf) (name : String) (interpreter : Nat) : Option Value :=
  (shelf.resultsOf name).lookup interpreter

/-- Changes a definition, if there is one of the name. -/
def amend (shelf : Shelf) (name : String) (change : Definition → Definition) : Shelf :=
  match shelf.definition? name with
  | some definition =>
      { shelf with definitions := Table.set (· == ·) name (change definition) shelf.definitions }
  | none => shelf

section Amend

variable {shelf : Shelf} {name other : String} {change : Definition → Definition}

theorem definition?_amend_self :
    (shelf.amend name change).definition? name = (shelf.definition? name).map change := by
  unfold amend
  split
  · next definition present =>
      rw [present]
      exact Table.find?_set_self name (change definition) shelf.definitions
  · next absent => rw [absent, Option.map_none]

theorem definition?_amend_of_ne (different : other ≠ name) :
    (shelf.amend name change).definition? other = shelf.definition? other := by
  unfold amend
  split
  · exact Table.find?_set_of_ne different _ _
  · rfl

theorem plan_amend
    (same : ∀ definition, (change definition).plan = definition.plan) (other : String) :
    ((shelf.amend name change).definition? other).map Definition.plan =
      (shelf.definition? other).map Definition.plan := by
  by_cases isSame : other = name
  · subst isSame
    rw [definition?_amend_self, Option.map_map]
    congr 1
    funext definition
    exact same definition
  · rw [definition?_amend_of_ne isSame]

theorem resultsOf_of_definition {definition : Definition}
    (present : shelf.definition? name = some definition) :
    shelf.resultsOf name = definition.results := by
  rw [resultsOf, present]
  rfl

theorem resultsOf_amend_of_ne (different : other ≠ name) :
    (shelf.amend name change).resultsOf other = shelf.resultsOf other := by
  rw [resultsOf, definition?_amend_of_ne different, resultsOf]

theorem resultsOf_amend_counted :
    (shelf.amend name Definition.counted).resultsOf other = shelf.resultsOf other := by
  by_cases isSame : other = name
  · subst isSame
    rw [resultsOf, definition?_amend_self, resultsOf, Option.map_map]
    rfl
  · exact resultsOf_amend_of_ne isSame

theorem resultsOf_amend_keeping {definition : Definition} (interpreter : Nat) (value : Value)
    (present : shelf.definition? name = some definition) :
    (shelf.amend name (Definition.keeping interpreter value)).resultsOf name =
      shelf.resultsOf name ++ [(interpreter, value)] := by
  rw [resultsOf, definition?_amend_self, present, resultsOf, present]
  rfl

theorem mem_resultsOf_amend_keeping {interpreter : Nat} {value : Value} {entry : Nat × Value}
    (isEntry : entry ∈ (shelf.amend name (Definition.keeping interpreter value)).resultsOf other) :
    entry ∈ shelf.resultsOf other ∨ entry = (interpreter, value) := by
  by_cases isSame : other = name
  · subst isSame
    cases present : shelf.definition? other with
    | none =>
        rw [amend, present] at isEntry
        exact Or.inl isEntry
    | some definition =>
        rw [resultsOf_amend_keeping interpreter value present] at isEntry
        exact (List.mem_append.mp isEntry).imp_right List.mem_singleton.mp
  · rw [resultsOf_amend_of_ne isSame] at isEntry
    exact Or.inl isEntry

theorem bodies_amend : (shelf.amend name change).bodies = shelf.bodies := by
  unfold amend
  split
  · rfl
  · rfl

/-- Nothing but the definitions is changed. -/
theorem exists_amend (shelf : Shelf) (name : String) (change : Definition → Definition) :
    ∃ definitions, shelf.amend name change = { shelf with definitions := definitions } := by
  unfold amend
  split
  · exact ⟨_, rfl⟩
  · exact ⟨shelf.definitions, rfl⟩

theorem bodies_extended_amend : shelf.bodies <+: (shelf.amend name change).bodies :=
  ⟨[], (List.append_nil _).trans bodies_amend.symm⟩

end Amend

/-- There is a definition along with which a stored value is fetched. -/
def Fetches (shelf : Shelf) (stored : String) : Prop :=
  ∃ name plan, (shelf.definition? name).map Definition.plan = some plan ∧ stored ∈ plan.1.fetches

theorem Fetches.of_plans
    {before after : Shelf} {stored : String} (fetches : before.Fetches stored)
    (plans : ∀ name, (after.definition? name).map Definition.plan =
      (before.definition? name).map Definition.plan) : after.Fetches stored := by
  obtain ⟨name, plan, made, isFetched⟩ := fetches
  exact ⟨name, plan, (plans name).trans made, isFetched⟩

/-- Something happens that concerns neither the definitions and their results nor the bodies of the
lazy nodes that are there already. It may concern how often definitions have been evaluated. -/
structure Idles (before after : Shelf) : Prop where
  plans : ∀ name, (after.definition? name).map Definition.plan =
    (before.definition? name).map Definition.plan
  results : ∀ name, after.resultsOf name = before.resultsOf name
  bodies : before.bodies <+: after.bodies

theorem Idles.of_definitions
    {before after : Shelf} (definitions : after.definitions = before.definitions)
    (bodies : before.bodies <+: after.bodies) : before.Idles after where
  plans name := by rw [definition?, definitions, definition?]
  results name := by rw [resultsOf, definition?, definitions, resultsOf, definition?]
  bodies := bodies

theorem idles_counted (shelf : Shelf) (name : String) :
    shelf.Idles (shelf.amend name Definition.counted) where
  plans := plan_amend fun _ => rfl
  results _ := resultsOf_amend_counted
  bodies := bodies_extended_amend

/-! ## Needs -/

/-- For a definition to get a result for an interpreter, another one has to get a result first: the
first uses the second, and neither has a result. -/
def Needs (shelf : Shelf) (interpreter : Nat) (upper lower : String) : Prop :=
  shelf.result? upper interpreter = none ∧ shelf.result? lower interpreter = none ∧
    ∃ definition, shelf.definition? upper = some definition ∧ lower ∈ definition.expression.uses

theorem absent_of_reach
    {shelf : Shelf} {interpreter : Nat} {upper lower : String}
    (path : Relation.ReflTransGen (shelf.Needs interpreter) upper lower)
    (absent : shelf.result? lower interpreter = none) : shelf.result? upper interpreter = none := by
  rcases path.cases_head with rfl | ⟨_, step, _⟩
  · exact absent
  · exact step.1

/-- All that a definition is in need of comes to an end. -/
def Grounded (shelf : Shelf) (interpreter : Nat) (name : String) : Prop :=
  Acc (fun lower upper => shelf.Needs interpreter upper lower) name

/-- A definition that has a result is in need of nothing. -/
theorem grounded_of_result
    {shelf : Shelf} {interpreter : Nat} {name : String} {value : Value}
    (kept : shelf.result? name interpreter = some value) : shelf.Grounded interpreter name := by
  refine .intro name fun lower needs => ?_
  cases kept.symm.trans needs.1

/-- A definition that comes to an end is not in need of itself. -/
theorem Grounded.not_cyclic
    {shelf : Shelf} {interpreter : Nat} {name lower : String}
    (grounded : shelf.Grounded interpreter name) (needs : shelf.Needs interpreter name lower)
    (back : Relation.ReflTransGen (shelf.Needs interpreter) lower name) : False := by
  induction grounded generalizing lower with
  | intro name _ inductionHypothesis =>
      rcases back.cases_head with rfl | ⟨next, step, rest⟩
      · exact inductionHypothesis lower needs needs .refl
      · exact inductionHypothesis lower needs step (rest.tail needs)

/-- A definition has got a result for an interpreter: it had none, it comes to an end, and it is one
of the given ones or something that they are in need of. -/
structure Gains (before : Shelf) (interpreter : Nat) (names : List String) (name : String)
    (after : Shelf) : Prop where
  absent : before.result? name interpreter = none
  appended : ∃ value, after.resultsOf name = before.resultsOf name ++ [(interpreter, value)]
  grounded : before.Grounded interpreter name
  reached : ∃ used ∈ names, Relation.ReflTransGen (before.Needs interpreter) used name

/-- What evaluating the given definitions for an interpreter does to the results. -/
structure Fills (interpreter : Nat) (names : List String) (before after : Shelf) : Prop where
  plans : ∀ name, (after.definition? name).map Definition.plan =
    (before.definition? name).map Definition.plan
  results : ∀ name, after.resultsOf name = before.resultsOf name ∨
    before.Gains interpreter names name after

section Fills

variable {interpreter : Nat} {names others : List String} {before middle after : Shelf}
  {name lower : String}

theorem Idles.fills (idles : before.Idles after) : Fills interpreter names before after where
  plans := idles.plans
  results name := Or.inl (idles.results name)

theorem Fills.mono (fills : Fills interpreter names before after) (more : names ⊆ others) :
    Fills interpreter others before after where
  plans := fills.plans
  results name := (fills.results name).imp_right fun gains =>
    { gains with
      reached := gains.reached.imp fun _ found => ⟨more found.1, found.2⟩ }

theorem Fills.absent
    (fills : Fills interpreter names before after)
    (absent : after.result? name interpreter = none) : before.result? name interpreter = none := by
  rcases fills.results name with same | gains
  · rw [result?, ← same]
    exact absent
  · exact gains.absent

theorem Fills.definition?
    (fills : Fills interpreter names before after) {definition : Definition}
    (present : before.definition? name = some definition) :
    ∃ later, after.definition? name = some later ∧ later.plan = definition.plan := by
  have same := fills.plans name
  rw [present, Option.map_some] at same
  exact Option.map_eq_some_iff.mp same

theorem Fills.needs
    (fills : Fills interpreter names before after)
    (needs : after.Needs interpreter name lower) : before.Needs interpreter name lower := by
  obtain ⟨upperAbsent, lowerAbsent, definition, present, isUsed⟩ := needs
  have same := fills.plans name
  rw [present, Option.map_some] at same
  obtain ⟨earlier, presentBefore, samePlan⟩ := Option.map_eq_some_iff.mp same.symm
  have sameExpression : earlier.expression = definition.expression := congrArg Prod.fst samePlan
  exact ⟨fills.absent upperAbsent, fills.absent lowerAbsent, earlier, presentBefore,
    sameExpression ▸ isUsed⟩

/-- What comes to an end afterwards does so from the beginning. -/
theorem Fills.grounded
    (fills : Fills interpreter names before after) (grounded : after.Grounded interpreter name) :
    before.Grounded interpreter name := by
  induction grounded with
  | intro name _ inductionHypothesis =>
      rcases fills.results name with same | gains
      · refine .intro name fun lower needs => ?_
        rcases fills.results lower with sameLower | gainsLower
        · refine inductionHypothesis lower ⟨?_, ?_, ?_⟩
          · rw [result?, same]
            exact needs.1
          · rw [result?, sameLower]
            exact needs.2.1
          · obtain ⟨_, _, definition, present, isUsed⟩ := needs
            obtain ⟨later, presentLater, samePlan⟩ := fills.definition? present
            have sameExpression : later.expression = definition.expression :=
              congrArg Prod.fst samePlan
            exact ⟨later, presentLater, sameExpression ▸ isUsed⟩
        · exact gainsLower.grounded
      · exact gains.grounded

theorem Fills.result?_ne_none_of_gains
    (gains : before.Gains interpreter names name after) :
    after.result? name interpreter ≠ none := by
  obtain ⟨value, appended⟩ := gains.appended
  rw [result?, appended, List.lookup_append]
  simp

theorem Fills.trans
    (first : Fills interpreter names before middle)
    (second : Fills interpreter others middle after) :
    Fills interpreter (names ++ others) before after where
  plans name := (second.plans name).trans (first.plans name)
  results name := by
    rcases first.results name with same | gains
    · rcases second.results name with sameLater | gainsLater
      · exact Or.inl (sameLater.trans same)
      · refine Or.inr ⟨first.absent gainsLater.absent, ?_, first.grounded gainsLater.grounded, ?_⟩
        · rw [← same]
          exact gainsLater.appended
        · obtain ⟨used, isUsed, path⟩ := gainsLater.reached
          exact ⟨used, List.mem_append_right names isUsed, path.lift id fun _ _ => first.needs⟩
    · rcases second.results name with sameLater | gainsLater
      · refine Or.inr ⟨gains.absent, ?_, gains.grounded, ?_⟩
        · rw [sameLater]
          exact gains.appended
        · obtain ⟨used, isUsed, path⟩ := gains.reached
          exact ⟨used, List.mem_append_left others isUsed, path⟩
      · exact absurd gainsLater.absent (Fills.result?_ne_none_of_gains gains)

/-! ## Evaluating a definition -/

variable {definition : Definition} {value : Value}

/-- A definition rests on the ones that it uses. -/
theorem grounded_of_uses
    (present : before.definition? name = some definition)
    (uses : ∀ used ∈ definition.expression.uses, before.Grounded interpreter used) :
    before.Grounded interpreter name := by
  refine .intro name fun lower needs => ?_
  obtain ⟨_, _, found, presentAgain, isUsed⟩ := needs
  cases present.symm.trans presentAgain
  exact uses lower isUsed

/-- A definition gets no result while it is being evaluated. -/
theorem Fills.own_results
    (fills : Fills interpreter definition.expression.uses before after)
    (present : before.definition? name = some definition)
    (absent : before.result? name interpreter = none) :
    after.resultsOf name = before.resultsOf name := by
  rcases fills.results name with same | gains
  · exact same
  · obtain ⟨used, isUsed, path⟩ := gains.reached
    have usedAbsent := absent_of_reach path absent
    exact (gains.grounded.not_cyclic ⟨absent, usedAbsent, definition, present, isUsed⟩ path).elim

/-- Evaluating a definition without keeping the result. -/
theorem Fills.evaluated
    (fills : Fills interpreter definition.expression.uses before after)
    (present : before.definition? name = some definition)
    (absent : before.result? name interpreter = none) :
    Fills interpreter [name] before after where
  plans := fills.plans
  results other := by
    refine (fills.results other).imp_right fun gains => ⟨gains.absent, gains.appended,
      gains.grounded, name, List.mem_singleton_self name, ?_⟩
    obtain ⟨used, isUsed, path⟩ := gains.reached
    have usedAbsent := absent_of_reach path gains.absent
    exact .head ⟨absent, usedAbsent, definition, present, isUsed⟩ path

/-- Evaluating a definition and keeping the result. -/
theorem Fills.kept
    (fills : Fills interpreter definition.expression.uses before after)
    (present : before.definition? name = some definition)
    (absent : before.result? name interpreter = none)
    (uses : ∀ used ∈ definition.expression.uses, before.Grounded interpreter used)
    (value : Value) :
    Fills interpreter [name] before
      (after.amend name (Definition.keeping interpreter value)) where
  plans other := by
    have same : ∀ definition, (Definition.keeping interpreter value definition).plan =
        definition.plan :=
      fun _ => rfl
    rw [plan_amend same, fills.plans other]
  results other := by
    by_cases isSame : other = name
    · subst isSame
      obtain ⟨later, presentLater, _⟩ := fills.definition? present
      refine Or.inr ⟨absent, ⟨value, ?_⟩, grounded_of_uses present uses, other,
        List.mem_singleton_self other, .refl⟩
      rw [resultsOf_amend_keeping interpreter value presentLater,
        fills.own_results present absent]
    · rcases (fills.evaluated present absent).results other with same | gains
      · exact Or.inl ((resultsOf_amend_of_ne isSame).trans same)
      · refine Or.inr { gains with appended := ?_ }
        rw [resultsOf_amend_of_ne isSame]
        exact gains.appended

end Fills

end Shelf

end SchemaSignature.Program
