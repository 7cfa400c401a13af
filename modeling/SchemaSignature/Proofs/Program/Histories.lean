import Mathlib.Data.List.Induction
import SchemaSignature.Proofs.Program.Evaluations

/-!
The histories of programs. Everything that a program does, in the middle of a rendering as well as
between its steps, is the occurrences of a history. What the definitions keep follows from the
history alone, and so does whether a definition has to be evaluated or returns what it keeps.
-/

namespace SchemaSignature

namespace Program

/-! ## Programs -/

/-- One desk leads to another by the occurrences of some history. -/
def Passing (desk after : Desk Cell Shelf) : Prop :=
  ∃ history, Passes history desk after

theorem passing_of_own {desk after : Desk Cell Shelf} (same : after.own = desk.own) :
    Passing desk after := by
  refine ⟨[], .idle ?_⟩
  rw [same]
  exact .of_definitions rfl List.prefix_rfl

theorem passing_of_ownRests {result : Type} {work : ProgramWork result}
    (rests : Work.Keeps Desk.OwnRests work) : Work.Keeps Passing work :=
  fun desk => passing_of_own (rests desk)

theorem stepwise_passing : Desk.Stepwise Passing where
  refl _ := passing_of_own rfl
  trans := by
    rintro desk middle after ⟨earlier, first⟩ ⟨later, second⟩
    exact ⟨earlier ++ later, first.andThen second⟩

/-- Everything that a program does is the occurrences of a history. -/
theorem conduct_passing : Conduct Passing where
  toCumulative := stepwise_passing.cumulative fun _ _ => passing_of_own rfl
  shelf _ _ widens := ⟨[], .idle (.of_definitions widens.definitions widens.bodies)⟩
  store _ _ _ := ⟨[], .idle (.of_definitions rfl List.prefix_rfl)⟩
  create _ _ _ := passing_of_own rfl
  mint namer := passing_of_ownRests (Desk.ownRests_mint namer)
  claim cell namer := passing_of_ownRests (Desk.ownRests_claim cell namer)
  enter cell namer := passing_of_ownRests (Desk.ownRests_enter cell namer)
  declare namer name expansion := passing_of_ownRests (Desk.ownRests_declare namer name expansion)
  define name expression keepsResults desk := ⟨_, .defined name expression keepsResults desk⟩
  call depth name interpreter desk :=
    (evaluates_call depth name interpreter desk fun _ => False.elim ∘ List.not_mem_nil).imp
      fun _ found => found.1

/-! ## Ledgers -/

/-- What the definition of each name has been made from, and the results that it keeps. -/
structure Ledger where
  plan? : String → Option (Expression × Bool)
  results : String → List (Nat × Value)

namespace Ledger

/-- There are no definitions. -/
def empty : Ledger where
  plan? _ := none
  results _ := []

/-- The result that the definition of a name keeps for an interpreter. -/
def answer? (ledger : Ledger) (name : String) (interpreter : Nat) : Option Value :=
  (ledger.results name).lookup interpreter

/-- An evaluation of the definition of a name with an interpreter comes to an outcome. -/
def Yields (ledger : Ledger) (name : String) (interpreter : Nat)
    (outcome : Except Failure Value) : Prop :=
  ∃ (expression : Expression) (depth : Nat) (desk after : Desk Cell Shelf),
    ledger.plan? name = some (expression, true) ∧
      (expression.build (call depth) interpreter).runOn desk = (outcome, after)

/-- The ledger after an occurrence. -/
def after (ledger : Ledger) : Occurrence → Ledger
  | .defined name expression keepsResults =>
      { plan? := Function.update ledger.plan? name (some (expression, keepsResults))
        results := Function.update ledger.results name [] }
  | .completed name interpreter value =>
      { ledger with
        results := Function.update ledger.results name
          (ledger.results name ++ [(interpreter, value)]) }
  | .fetched _ _ | .found _ _ _ | .begun _ _ | .raised _ _ _ => ledger

/-- The ledger after a history. -/
def afterAll (ledger : Ledger) (history : List Occurrence) : Ledger :=
  history.foldl after ledger

theorem afterAll_append (ledger : Ledger) (earlier later : List Occurrence) :
    ledger.afterAll (earlier ++ later) = (ledger.afterAll earlier).afterAll later :=
  List.foldl_append

end Ledger

namespace Occurrence

/-- What has to be the case for an occurrence: a definition returns the result that there is, and
from the beginning to the end of its evaluation there is none. -/
def Fits (answer? : String → Nat → Option Value) : Occurrence → Prop
  | .found name interpreter value => answer? name interpreter = some value
  | .begun name interpreter | .completed name interpreter _ | .raised name interpreter _ =>
      answer? name interpreter = none
  | .defined _ _ _ | .fetched _ _ => True

/-- An evaluation comes to what the expression of the definition comes to with the interpreter. -/
def Stems (ledger : Ledger) : Occurrence → Prop
  | .completed name interpreter value => ledger.Yields name interpreter (.ok value)
  | .raised name interpreter failure => ledger.Yields name interpreter (.error failure)
  | .defined _ _ _ | .fetched _ _ | .found _ _ _ | .begun _ _ => True

end Occurrence

/-- Every occurrence of a history fits the definitions and what they keep by then. -/
def Ledger.Admits : Ledger → List Occurrence → Prop
  | _, [] => True
  | ledger, occurrence :: rest =>
      (occurrence.Fits ledger.answer? ∧ occurrence.Stems ledger) ∧
        (ledger.after occurrence).Admits rest

theorem Ledger.admits_append {ledger : Ledger} {earlier later : List Occurrence} :
    ledger.Admits (earlier ++ later) ↔
      ledger.Admits earlier ∧ (ledger.afterAll earlier).Admits later := by
  induction earlier generalizing ledger with
  | nil => exact (and_iff_right trivial).symm
  | cons occurrence rest inductionHypothesis =>
      rw [List.cons_append, Admits, Admits, inductionHypothesis]
      exact and_assoc.symm

theorem Ledger.admits_concat
    {ledger : Ledger} {history : List Occurrence} {occurrence : Occurrence} :
    ledger.Admits (history ++ [occurrence]) ↔
      ledger.Admits history ∧ occurrence.Fits (ledger.afterAll history).answer? ∧
        occurrence.Stems (ledger.afterAll history) := by
  rw [admits_append, Admits, Admits, and_iff_left trivial]

/-- The ledger of a shelf. -/
def Shelf.ledger (shelf : Shelf) : Ledger where
  plan? name := (shelf.definition? name).map Definition.plan
  results := shelf.resultsOf

section Passes

variable {depth interpreter : Nat} {name : String} {definition : Definition}
  {desk after : Desk Cell Shelf} {outcome : Except Failure Value}

/-- What the evaluation of a definition does to the results of the definitions. -/
theorem fills_of_ran
    (present : desk.own.definition? name = some definition)
    (ran : (definition.expression.build (call depth) interpreter).runOn (begunOn name desk) =
      (outcome, after)) :
    Shelf.Fills interpreter definition.expression.uses desk.own after.own := by
  obtain ⟨_, _, fills, _⟩ :=
    evaluates_build (fun used => evaluates_call depth used interpreter) definition.expression
      (begunOn name desk) (fetches_begunOn present)
  have begins : Shelf.Fills interpreter [] desk.own (begunOn name desk).own :=
    (Shelf.idles_counted desk.own name).fills
  rw [ran] at fills
  exact begins.trans fills

theorem Shelf.Idles.ledger {before after : Shelf} (idles : before.Idles after) :
    after.ledger = before.ledger := by
  rw [Shelf.ledger, Shelf.ledger, funext idles.plans, funext idles.results]

theorem ledger_definedOn
    (definition : Definition) (fresh : definition.results = []) (name : String)
    (desk : Desk Cell Shelf) :
    (definedOn name definition desk).own.ledger =
      desk.own.ledger.after (.defined name definition.expression definition.keepsResults) := by
  have self : (definedOn name definition desk).own.definition? name = some definition :=
    Table.find?_set_self name definition desk.own.definitions
  have others {other : String} (isOther : other ≠ name) :
      (definedOn name definition desk).own.definition? other = desk.own.definition? other :=
    Table.find?_set_of_ne isOther definition desk.own.definitions
  rw [Shelf.ledger, Ledger.after, Ledger.mk.injEq]
  constructor
  · funext other
    by_cases isSame : other = name
    · rw [isSame, Function.update_self, self]
      rfl
    · rw [Function.update_of_ne isSame, others isSame]
      rfl
  · funext other
    by_cases isSame : other = name
    · rw [isSame, Function.update_self, Shelf.resultsOf_of_definition self, fresh]
    · rw [Function.update_of_ne isSame, Shelf.resultsOf, others isSame]
      rfl

theorem ledger_keptOn
    (present : desk.own.definition? name = some definition) (interpreter : Nat) (value : Value) :
    (keptOn name interpreter value desk).own.ledger =
      desk.own.ledger.after (.completed name interpreter value) := by
  rw [Shelf.ledger, Ledger.after, Ledger.mk.injEq]
  constructor
  · funext other
    have same : ∀ definition, (Definition.keeping interpreter value definition).plan =
        definition.plan :=
      fun _ => rfl
    exact Shelf.plan_amend same other
  · funext other
    by_cases isSame : other = name
    · subst isSame
      rw [Function.update_self]
      exact Shelf.resultsOf_amend_keeping interpreter value present
    · rw [Function.update_of_ne isSame]
      exact Shelf.resultsOf_amend_of_ne isSame

/-- The history of an evaluation up to its end, which is still to come. -/
theorem Shelf.Fills.admits_begun
    {history : List Occurrence}
    (fills : Shelf.Fills interpreter definition.expression.uses desk.own after.own)
    (present : desk.own.definition? name = some definition)
    (absent : desk.own.result? name interpreter = none)
    (inside : (begunOn name desk).own.ledger.Admits history ∧
      (begunOn name desk).own.ledger.afterAll history = after.own.ledger) :
    desk.own.ledger.Admits (.begun name interpreter :: history) ∧
      desk.own.ledger.afterAll (.begun name interpreter :: history) = after.own.ledger ∧
      after.own.ledger.answer? name interpreter = none := by
  have begins : (begunOn name desk).own.ledger = desk.own.ledger :=
    (Shelf.idles_counted desk.own name).ledger
  rw [begins] at inside
  refine ⟨⟨⟨absent, trivial⟩, inside.1⟩, inside.2, ?_⟩
  change (after.own.resultsOf name).lookup interpreter = none
  rw [fills.own_results present absent]
  exact absent

/-- What an evaluation comes to, seen from its end. -/
theorem Shelf.Fills.yields
    (fills : Shelf.Fills interpreter definition.expression.uses desk.own after.own)
    (present : desk.own.definition? name = some definition) (keeps : definition.keepsResults = true)
    (ran : (definition.expression.build (call depth) interpreter).runOn (begunOn name desk) =
      (outcome, after)) :
    after.own.ledger.Yields name interpreter outcome := by
  refine ⟨definition.expression, depth, begunOn name desk, after, ?_, ran⟩
  have same := fills.plans name
  rw [present, Option.map_some, Definition.plan, keeps] at same
  exact same

/-- The ledger admits the occurrences of a history, and the ledger in the end follows from the
history. -/
theorem Passes.admits {history : List Occurrence} (passes : Passes history desk after) :
    desk.own.ledger.Admits history ∧ desk.own.ledger.afterAll history = after.own.ledger := by
  induction passes with
  | idle idles => exact ⟨trivial, idles.ledger.symm⟩
  | andThen _ _ first second =>
      rw [Ledger.admits_append, Ledger.afterAll_append, first.2]
      exact ⟨⟨first.1, second.1⟩, second.2⟩
  | defined name expression keepsResults desk =>
      refine ⟨⟨⟨trivial, trivial⟩, trivial⟩, ?_⟩
      rw [ledger_definedOn { expression := expression, keepsResults := keepsResults } rfl]
      rfl
  | fetched => exact ⟨⟨⟨trivial, trivial⟩, trivial⟩, rfl⟩
  | found kept => exact ⟨⟨⟨kept, trivial⟩, trivial⟩, rfl⟩
  | completed present keeps absent ran _ _ inside =>
      have fills := fills_of_ran present ran
      obtain ⟨_, still, _⟩ := fills.definition? present
      obtain ⟨admits, ends, absentStill⟩ := fills.admits_begun present absent inside
      rw [← List.cons_append, Ledger.admits_concat, Ledger.afterAll_append, ends,
        ledger_keptOn still]
      exact ⟨⟨admits, absentStill, fills.yields present keeps ran⟩, rfl⟩
  | raised present keeps absent ran _ inside =>
      have fills := fills_of_ran present ran
      obtain ⟨admits, ends, absentStill⟩ := fills.admits_begun present absent inside
      rw [← List.cons_append, Ledger.admits_concat, Ledger.afterAll_append, ends]
      exact ⟨⟨admits, absentStill, fills.yields present keeps ran⟩, rfl⟩

end Passes

/-! ## Returned results -/

/-- No definition takes the name during a history. -/
def Steady (name : String) (history : List Occurrence) : Prop :=
  ∀ expression keepsResults, .defined name expression keepsResults ∉ history

theorem steady_append {name : String} {earlier later : List Occurrence} :
    Steady name (earlier ++ later) ↔ Steady name earlier ∧ Steady name later := by
  simp only [Steady, List.mem_append, not_or, forall_and]

/-- A definition returns a value for an interpreter, because it keeps it or has just built it. -/
def Occurrence.Returns (name : String) (interpreter : Nat) (value : Value)
    (occurrence : Occurrence) : Prop :=
  occurrence = .found name interpreter value ∨ occurrence = .completed name interpreter value

namespace Ledger

variable {name : String} {interpreter : Nat} {value other : Value} {ledger : Ledger}
  {history earlier middle later : List Occurrence} {first second occurrence : Occurrence}

theorem answer?_defined (ledger : Ledger) (newName : String) (expression : Expression)
    (keepsResults : Bool) (name : String) (interpreter : Nat) :
    (ledger.after (.defined newName expression keepsResults)).answer? name interpreter =
      if name = newName then none else ledger.answer? name interpreter := by
  change (Function.update ledger.results newName [] name).lookup interpreter = _
  rw [Function.update_apply]
  split <;> rfl

theorem plan?_defined (ledger : Ledger) (newName : String) (expression : Expression)
    (keepsResults : Bool) (name : String) :
    (ledger.after (.defined newName expression keepsResults)).plan? name =
      if name = newName then some (expression, keepsResults) else ledger.plan? name :=
  Function.update_apply ledger.plan? newName _ name

theorem answer?_completed (ledger : Ledger) (newName : String) (owner : Nat) (result : Value)
    (name : String) (interpreter : Nat) :
    (ledger.after (.completed newName owner result)).answer? name interpreter =
      (ledger.answer? name interpreter).or
        (if name = newName ∧ interpreter = owner then some result else none) := by
  change (Function.update ledger.results newName _ name).lookup interpreter = _
  by_cases isSame : name = newName
  · subst isSame
    rw [Function.update_self, List.lookup_append, List.lookup_cons, Ledger.answer?]
    by_cases isOwner : interpreter = owner
    · rw [if_pos ⟨rfl, isOwner⟩, beq_iff_eq.mpr isOwner]
    · rw [if_neg fun both => isOwner both.2, beq_false_of_ne isOwner]
      rfl
  · rw [Function.update_of_ne isSame, if_neg fun both => isSame both.1, Option.or_none, answer?]

/-- What is kept after an occurrence has been kept before, or it has just been completed. -/
theorem answer?_after (answered : (ledger.after occurrence).answer? name interpreter = some value) :
    Steady name [occurrence] ∧ (ledger.answer? name interpreter = some value ∨
      occurrence = .completed name interpreter value) := by
  cases occurrence with
  | fetched | found | begun | raised => exact ⟨by simp [Steady], Or.inl answered⟩
  | defined newName expression keepsResults =>
      rw [answer?_defined] at answered
      split at answered
      · cases answered
      · next isOther => exact ⟨by simp [Steady, isOther], Or.inl answered⟩
  | completed newName owner result =>
      refine ⟨by simp [Steady], ?_⟩
      rw [answer?_completed] at answered
      rcases Option.or_eq_some_iff.mp answered with isOld | ⟨_, isNew⟩
      · exact Or.inl isOld
      · split at isNew
        · next same =>
            obtain ⟨rfl, rfl⟩ := same
            cases isNew
            exact Or.inr rfl
        · cases isNew

/-- What is kept stays until another definition takes the name. -/
theorem answer?_after_of_kept
    (steady : Steady name [occurrence]) (answered : ledger.answer? name interpreter = some value) :
    (ledger.after occurrence).answer? name interpreter = some value := by
  cases occurrence with
  | fetched | found | begun | raised => exact answered
  | defined newName expression keepsResults =>
      have isOther : name ≠ newName := by
        rintro rfl
        exact steady expression keepsResults (List.mem_singleton_self _)
      rw [answer?_defined, if_neg isOther]
      exact answered
  | completed newName owner result => rw [answer?_completed, answered, Option.some_or]

/-- A result that is kept has been kept from the beginning or has been completed since, by the
definition that the name has in the end. -/
theorem completed_of_answer?
    (answered : (ledger.afterAll history).answer? name interpreter = some value) :
    (ledger.answer? name interpreter = some value ∧ Steady name history) ∨
      ∃ earlier later, history = earlier ++ .completed name interpreter value :: later ∧
        Steady name later := by
  induction history using List.reverseRecOn with
  | nil => exact Or.inl ⟨answered, by simp [Steady]⟩
  | append_singleton history occurrence inductionHypothesis =>
      rw [afterAll_append] at answered
      obtain ⟨steady, isOld | rfl⟩ := answer?_after answered
      · rcases inductionHypothesis isOld with ⟨since, before⟩ | ⟨earlier, later, rfl, before⟩
        · exact Or.inl ⟨since, steady_append.mpr ⟨before, steady⟩⟩
        · refine Or.inr ⟨earlier, later ++ [occurrence], ?_, steady_append.mpr ⟨before, steady⟩⟩
          rw [List.append_assoc, List.cons_append]
      · exact Or.inr ⟨history, [], rfl, by simp [Steady]⟩

theorem answer?_afterAll
    (answered : ledger.answer? name interpreter = some value) (steady : Steady name history) :
    (ledger.afterAll history).answer? name interpreter = some value := by
  induction history generalizing ledger with
  | nil => exact answered
  | cons occurrence rest inductionHypothesis =>
      have parts : Steady name ([occurrence] ++ rest) := steady
      obtain ⟨steadyFirst, steadyRest⟩ := steady_append.mp parts
      exact inductionHypothesis (answer?_after_of_kept steadyFirst answered) steadyRest

/-- The definition of a name is the one that it has had from the beginning, or the last one that has
taken the name. -/
theorem defined_of_plan? {expression : Expression} {keepsResults : Bool}
    (made : (ledger.afterAll history).plan? name = some (expression, keepsResults)) :
    (ledger.plan? name = some (expression, keepsResults) ∧ Steady name history) ∨
      ∃ earlier later, history = earlier ++ .defined name expression keepsResults :: later ∧
        Steady name later := by
  induction history using List.reverseRecOn with
  | nil => exact Or.inl ⟨made, by simp [Steady]⟩
  | append_singleton history occurrence inductionHypothesis =>
      rw [afterAll_append] at made
      have continued (before : (ledger.afterAll history).plan? name =
          some (expression, keepsResults)) (steady : Steady name [occurrence]) :
          (ledger.plan? name = some (expression, keepsResults) ∧
              Steady name (history ++ [occurrence])) ∨
            ∃ earlier later, history ++ [occurrence] =
                earlier ++ .defined name expression keepsResults :: later ∧ Steady name later := by
        rcases inductionHypothesis before with ⟨since, earlier⟩ | ⟨front, back, rfl, earlier⟩
        · exact Or.inl ⟨since, steady_append.mpr ⟨earlier, steady⟩⟩
        · refine Or.inr ⟨front, back ++ [occurrence], ?_, steady_append.mpr ⟨earlier, steady⟩⟩
          rw [List.append_assoc, List.cons_append]
      cases occurrence with
      | fetched | found | begun | raised | completed => exact continued made (by simp [Steady])
      | defined newName newExpression newKeeps =>
          change ((ledger.afterAll history).after
            (.defined newName newExpression newKeeps)).plan? name = _ at made
          rw [plan?_defined] at made
          split at made
          · next isSame =>
              cases isSame
              cases made
              exact Or.inr ⟨history, [], rfl, by simp [Steady]⟩
          · next isOther => exact continued made (by simp [Steady, isOther])

theorem Admits.at (admits : ledger.Admits (earlier ++ occurrence :: later)) :
    occurrence.Fits (ledger.afterAll earlier).answer? ∧ occurrence.Stems (ledger.afterAll earlier) :=
  (admits_append.mp admits).2.1

/-- A value that a definition has returned for an interpreter is what it keeps from then on. -/
theorem answer?_after_of_returns
    (returns : occurrence.Returns name interpreter value) (fits : occurrence.Fits ledger.answer?) :
    (ledger.after occurrence).answer? name interpreter = some value := by
  rcases returns with rfl | rfl
  · exact fits
  · have nothing : ledger.answer? name interpreter = none := fits
    rw [answer?_completed, nothing, Option.none_or, if_pos ⟨rfl, rfl⟩]

/-- Whatever a definition has returned for an interpreter it finds again each time, until another
definition takes its name. -/
theorem Admits.found_again
    (admits : ledger.Admits (earlier ++ first :: (middle ++ second :: later)))
    (returns : first.Returns name interpreter value)
    (returnsAgain : second.Returns name interpreter other) (steady : Steady name middle) :
    second = .found name interpreter value := by
  have answered := answer?_after_of_returns returns admits.at.1
  have fits : second.Fits (((ledger.afterAll earlier).after first).afterAll middle).answer? :=
    (Admits.at (admits_append.mp admits).2.2).1
  have still := answer?_afterAll answered steady
  rcases returnsAgain with rfl | rfl
  · cases fits.symm.trans still
    rfl
  · cases fits.symm.trans still

end Ledger

end Program

end SchemaSignature
