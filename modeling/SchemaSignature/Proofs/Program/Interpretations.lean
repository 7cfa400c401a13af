import SchemaSignature.Proofs.Program.Addresses
import SchemaSignature.Proofs.Program.Names
import SchemaSignature.Proofs.Program.Ownership

/-!
One result of each definition for each interpreter. However a program creates interpreters, evaluates
definitions with them, also from within the bodies of lazy nodes, and lets go of them, a definition
that keeps its results is completed at most once for an interpreter, and it returns to the interpreter
what it has built for it and nothing else. If it fails it is evaluated again at the next call.
-/

namespace SchemaSignature.Program

/-- What comes of a call of a definition that keeps its results: the result that is kept, or else
what its expression evaluates to. The evaluation leaves the results of the definition as they are; a
value is kept then, and after a failure nothing is. -/
inductive Answers (depth : Nat) (name : String) (interpreter : Nat) (definition : Definition)
    (desk : Desk Cell Shelf) : Except Failure Value → Desk Cell Shelf → Prop where
  | kept {value : Value} (kept : desk.own.result? name interpreter = some value) :
      Answers depth name interpreter definition desk (.ok value) desk
  | completed {value : Value} {after : Desk Cell Shelf}
      (absent : desk.own.result? name interpreter = none)
      (ran : (definition.expression.build (call depth) interpreter).runOn (begunOn name desk) =
        (.ok value, after))
      (untouched : after.own.resultsOf name = desk.own.resultsOf name)
      (keeps : (keptOn name interpreter value after).own.resultsOf name =
        desk.own.resultsOf name ++ [(interpreter, value)]) :
      Answers depth name interpreter definition desk (.ok value)
        (keptOn name interpreter value after)
  | raised {failure : Failure} {after : Desk Cell Shelf}
      (absent : desk.own.result? name interpreter = none)
      (ran : (definition.expression.build (call depth) interpreter).runOn (begunOn name desk) =
        (.error failure, after))
      (untouched : after.own.resultsOf name = desk.own.resultsOf name) :
      Answers depth name interpreter definition desk (.error failure) after

/-- On every desk, also in the middle of other evaluations and of renderings, a call is answered. -/
theorem answers_call
    {definition : Definition} {desk : Desk Cell Shelf} {name : String}
    (present : desk.own.definition? name = some definition) (keeps : definition.keepsResults = true)
    (depth interpreter : Nat) :
    Answers depth name interpreter definition desk
      ((call (depth + 1) name interpreter).runOn desk).1
      ((call (depth + 1) name interpreter).runOn desk).2 := by
  cases kept : desk.own.result? name interpreter with
  | some value =>
      rw [runOn_call_of_kept present kept]
      exact .kept kept
  | none =>
      rcases ran : (definition.expression.build (call depth) interpreter).runOn (begunOn name desk)
        with ⟨outcome, after⟩
      have fills := fills_of_ran present ran
      have untouched := fills.own_results present kept
      cases outcome with
      | error failure =>
          rw [runOn_call_of_error present kept ran]
          exact .raised kept ran untouched
      | ok value =>
          obtain ⟨later, still, _⟩ := fills.definition? present
          rw [runOn_call_of_ok present kept keeps ran still]
          refine .completed kept ran untouched ?_
          rw [keptOn, Shelf.resultsOf_amend_keeping interpreter value still, untouched]

/-- What holds of the results of definitions after a history. -/
structure Faithful (history : List Occurrence) (desk : Desk Cell Shelf) : Prop where
  /-- What is completed for an interpreter is what the expression of the definition evaluates to with
  this interpreter. -/
  evaluated : ∀ earlier later name interpreter value,
    history = earlier ++ .completed name interpreter value :: later →
    ∃ front back expression depth before after,
      earlier = front ++ .defined name expression true :: back ∧ Steady name back ∧
        (expression.build (call depth) interpreter).runOn before = (.ok value, after)
  /-- A definition keeps for an interpreter what it has completed for it. -/
  kept : ∀ name interpreter value, desk.own.result? name interpreter = some value ↔
    ∃ earlier later, history = earlier ++ .completed name interpreter value :: later ∧
      Steady name later
  /-- A definition finds for an interpreter what it has completed for it. -/
  found : ∀ earlier later name interpreter value,
    history = earlier ++ .found name interpreter value :: later →
    ∃ front back, earlier = front ++ .completed name interpreter value :: back ∧ Steady name back
  /-- A definition is completed at most once for an interpreter. -/
  once : ∀ earlier middle later name interpreter first second,
    history = earlier ++ .completed name interpreter first ::
      (middle ++ .completed name interpreter second :: later) →
    ¬Steady name middle
  /-- All that a definition returns for an interpreter is one value. -/
  shared : ∀ earlier middle later first second name interpreter value other,
    history = earlier ++ first :: (middle ++ second :: later) →
    first.Returns name interpreter value → second.Returns name interpreter other →
    Steady name middle → other = value
  /-- After a failure a definition finds nothing for an interpreter before it has been completed. -/
  retried : ∀ earlier middle later name interpreter failure value,
    history = earlier ++ .raised name interpreter failure ::
      (middle ++ .found name interpreter value :: later) →
    .completed name interpreter value ∈ middle
  /-- What a definition returns has only lazy leaves of the interpreter, apart from those in stored
  values that have been fetched for it. -/
  owned : ∀ occurrence ∈ history, ∀ name interpreter value,
    occurrence.Returns name interpreter value →
    ∀ cell ∈ value.cells, Owned history desk.own interpreter cell
  /-- If no definition refers to a stored value, all lazy leaves that are returned to an interpreter
  have been made for it. -/
  own : Sealed history → ∀ occurrence ∈ history, ∀ name interpreter value,
    occurrence.Returns name interpreter value →
    ∀ cell ∈ value.cells, ∃ index bound body, cell = .built index bound ∧
      desk.own.bodies[index]? = some body ∧ body.interpreter = interpreter
  /-- If no definition refers to a stored value, no lazy leaf is returned to two interpreters. -/
  apart : Sealed history → ∀ first ∈ history, ∀ second ∈ history,
    ∀ name other interpreter owner value result,
    first.Returns name interpreter value → second.Returns other owner result →
    interpreter ≠ owner → ∀ cell ∈ value.cells, cell ∉ result.cells
  /-- In any case a lazy leaf that a definition returns to one interpreter is returned to another one
  only if the program has stored it and a definition has fetched it for one of the two. -/
  borrowed : ∀ first ∈ history, ∀ second ∈ history, ∀ name other interpreter owner value result,
    first.Returns name interpreter value → second.Returns other owner result →
    interpreter ≠ owner → ∀ cell ∈ value.cells, cell ∈ result.cells →
      ∃ stored, cell ∈ stored.cells ∧
        (.fetched interpreter stored ∈ history ∨ .fetched owner stored ∈ history)
  /-- Wherever the interpreters are in memory while they are alive, tables by address answer as the
  definitions do. -/
  addressed : ∀ incidents, Memory.AllowsAll {} incidents →
    incidents.filterMap Incident.occurrence? = history →
    ∀ earlier later occurrence, incidents = earlier ++ .occurred occurrence :: later →
      occurrence.Fits (Memory.afterAll {} earlier).answer?

/-- What a definition keeps after a history has been completed in it. -/
theorem exists_completed
    {front : List Occurrence} {name : String} {interpreter : Nat} {value : Value}
    (answered : (Ledger.empty.afterAll front).answer? name interpreter = some value) :
    ∃ earlier later, front = earlier ++ .completed name interpreter value :: later ∧
      Steady name later := by
  rcases Ledger.completed_of_answer? answered with ⟨impossible, _⟩ | found
  · cases impossible
  · exact found

section Histories

variable {history : List Occurrence} {desk : Desk Cell Shelf} (passes : Passes history initial desk)

include passes

theorem ownsReturned_of_passes : OwnsReturned history history desk.own := by
  have nothing : OwnsResults [] initial.own := fun _ _ _ impossible => by cases impossible
  exact (passes.owns nothing).2

theorem not_fetched_of_passes (isSealed : Sealed history) :
    ∀ interpreter value, .fetched interpreter value ∉ history := by
  refine (passes.unfetched isSealed ?_).1
  rintro stored ⟨_, _, made, _⟩
  cases made

theorem faithful_of_passes : Faithful history desk where
  evaluated := by
    rintro earlier later name interpreter value rfl
    obtain ⟨expression, depth, before, after, made, ran⟩ := passes.admits.1.at.2
    rcases Ledger.defined_of_plan? made with ⟨impossible, _⟩ | ⟨front, back, split, steady⟩
    · cases impossible
    · exact ⟨front, back, expression, depth, before, after, split, steady, ran⟩
  kept name interpreter value := by
    have ends : Ledger.empty.afterAll history = desk.own.ledger := passes.admits.2
    constructor
    · intro kept
      refine exists_completed ?_
      rw [ends]
      exact kept
    · rintro ⟨earlier, later, rfl, steady⟩
      have answered := Ledger.answer?_after_of_returns (Or.inr rfl) passes.admits.1.at.1
      have still := Ledger.answer?_afterAll answered steady
      have whole : ((initial.own.ledger.afterAll earlier).after
          (.completed name interpreter value)).afterAll later = desk.own.ledger :=
        (Ledger.afterAll_append _ earlier _).symm.trans ends
      rw [whole] at still
      exact still
  found := by
    rintro earlier later name interpreter value rfl
    exact exists_completed passes.admits.1.at.1
  once := by
    rintro earlier middle later name interpreter first second rfl steady
    cases passes.admits.1.found_again (Or.inr rfl) (Or.inr rfl) steady
  shared := by
    rintro earlier middle later first second name interpreter value other rfl returns returnsAgain
      steady
    have isFound := passes.admits.1.found_again returns returnsAgain steady
    rcases returnsAgain with same | same
    · cases same.symm.trans isFound
      rfl
    · cases same.symm.trans isFound
  retried := by
    rintro earlier middle later name interpreter failure value rfl
    have admits : Ledger.empty.Admits _ := passes.admits.1
    have nothing : (Ledger.empty.afterAll earlier).answer? name interpreter = none := admits.at.1
    have answered : ((Ledger.empty.afterAll earlier).afterAll middle).answer? name interpreter =
        some value :=
      (Ledger.Admits.at (Ledger.admits_append.mp admits).2.2).1
    rcases Ledger.completed_of_answer? answered with ⟨impossible, _⟩ | ⟨front, back, rfl, _⟩
    · cases nothing.symm.trans impossible
    · exact List.mem_append_right front List.mem_cons_self
  owned occurrence isOccurrence name interpreter value returns :=
    ownsReturned_of_passes passes name interpreter value occurrence isOccurrence returns
  own isSealed occurrence isOccurrence name interpreter value returns cell isLeaf :=
    (ownsReturned_of_passes passes name interpreter value occurrence isOccurrence returns cell
      isLeaf).exists_body (not_fetched_of_passes passes isSealed)
  apart := by
    intro isSealed first isFirst second isSecond name other interpreter owner value result returns
      returnsOther isOther cell isLeaf isLeafOther
    have owned := ownsReturned_of_passes passes
    have unfetched := not_fetched_of_passes passes isSealed
    obtain ⟨_, _, _, rfl, present, own⟩ :=
      (owned name interpreter value first isFirst returns cell isLeaf).exists_body unfetched
    obtain ⟨_, _, _, same, presentOther, ownOther⟩ :=
      (owned other owner result second isSecond returnsOther _ isLeafOther).exists_body unfetched
    cases same
    cases present.symm.trans presentOther
    exact isOther (own.symm.trans ownOther)
  borrowed := by
    intro first isFirst second isSecond name other interpreter owner value result returns
      returnsOther isOther cell isLeaf isLeafOther
    have owned := ownsReturned_of_passes passes
    cases owned name interpreter value first isFirst returns cell isLeaf with
    | fetched fetched isStored => exact ⟨_, isStored, Or.inl fetched⟩
    | made present own =>
        cases owned other owner result second isSecond returnsOther _ isLeafOther with
        | fetched fetched isStored => exact ⟨_, isStored, Or.inr fetched⟩
        | made presentOther ownOther =>
            cases present.symm.trans presentOther
            exact (isOther (own.symm.trans ownOther)).elim
  addressed := by
    rintro incidents allows rfl earlier later occurrence split
    exact Memory.fits_of_admits Memory.mirrors_empty allows passes.admits.1 split

end Histories

/-- Every program passes through a history. On every desk each call of a definition that keeps its
results is answered with what it keeps for the interpreter, or it is evaluated. And whatever the
history of a desk is, the results of the definitions are faithful to it. -/
theorem one_result_for_each_interpreter (depth : Nat) (steps : List Step) :
    (∃ history, Passes history initial (deskAfter depth steps)) ∧
    (∀ desk name definition, desk.own.definition? name = some definition →
      definition.keepsResults = true → ∀ depth interpreter,
        Answers depth name interpreter definition desk
          ((call (depth + 1) name interpreter).runOn desk).1
          ((call (depth + 1) name interpreter).runOn desk).2) ∧
    ∀ history desk, Passes history initial desk → Faithful history desk :=
  ⟨conduct_passing.performAll depth steps initial, fun _ _ _ => answers_call,
    fun _ _ => faithful_of_passes⟩

/-- The body of the lazy node calls the definition again, and finds the lazy node itself. -/
example : run 4
    [.define "list" (.lazy (.container .array (.defined "list")) none) true,
      .interpret "list" .standard (some "node") none, .render "node" none,
      .interpret "list" .standard none (some "node")] =
    [.done, .interpreted 1 none none, .rendered "Array<$Ref1>" [],
      .interpreted 1 none (some true)] := by
  rfl

/-! ## Two interpreters at one address -/

/-- A definition of arrays of strings. -/
def textsExpression : Expression :=
  .container .array (.primitive .string)

/-- A result of the definition. -/
def texts (mark : Nat) : Value :=
  ⟨some mark, .node (.container .array (.primitive .string))⟩

/-- A program that interprets a definition with an interpreter, lets go of the interpreter, and
interprets the definition twice with another one. -/
def interpretInTurn : List Step :=
  [.define "texts" textsExpression true, .bindNamer "first" "default",
    .interpret "texts" (.named "first") none none, .forget "first", .bindNamer "second" "default",
    .interpret "texts" (.named "second") none none, .interpret "texts" (.named "second") none none]

/-- What happens to the definition in the program. -/
def occurrencesInTurn : List Occurrence :=
  [.defined "texts" textsExpression true, .begun "texts" 1, .completed "texts" 1 (texts 0),
    .begun "texts" 2, .completed "texts" 2 (texts 1), .found "texts" 2 (texts 1)]

/-- What happens in memory if the second interpreter comes to be where the first one was. -/
def incidentsInTurn : List Incident :=
  [.occurred (.defined "texts" textsExpression true), .created 1 64, .occurred (.begun "texts" 1),
    .occurred (.completed "texts" 1 (texts 0)), .collected 1, .created 2 64,
    .occurred (.begun "texts" 2), .occurred (.completed "texts" 2 (texts 1)),
    .occurred (.found "texts" 2 (texts 1))]

/-- The desk after some steps of the program, given the interpreters that there have been, their
names, how often the definition has been evaluated, and the results that it keeps. -/
def deskInTurn (interpreters : List Interpreter) (names : List (String × Nat)) (evaluations : Nat)
    (results : List (Nat × Value)) : Desk Cell Shelf where
  namers := [Namer.standard]
  own :=
    { interpreters := interpreters
      interpreterNames := names
      definitions := [("texts",
        { expression := textsExpression
          keepsResults := true
          calls := evaluations
          results := results })]
      marks := evaluations }

theorem deskAfter_interpretInTurn :
    deskAfter 2 interpretInTurn =
      deskInTurn [.standard, .bound 0, .bound 0] [("second", 2)] 2 [(1, texts 0), (2, texts 1)] :=
  rfl

/-- Building an array of strings is all that happens between the beginning and the end. -/
theorem passes_texts
    {interpreters : List Interpreter} {names : List (String × Nat)} {evaluations interpreter : Nat}
    {results : List (Nat × Value)} (absent : results.lookup interpreter = none)
    (ran : (textsExpression.build (call 1) interpreter).runOn
        (begunOn "texts" (deskInTurn interpreters names evaluations results)) =
      (.ok (texts evaluations), deskInTurn interpreters names (evaluations + 1) results)) :
    Passes [.begun "texts" interpreter, .completed "texts" interpreter (texts evaluations)]
      (deskInTurn interpreters names evaluations results)
      (deskInTurn interpreters names (evaluations + 1)
        (results ++ [(interpreter, texts evaluations)])) := by
  have present : (deskInTurn interpreters names evaluations results).own.definition? "texts" =
      some ⟨textsExpression, true, evaluations, results⟩ :=
    rfl
  have missing :
      (deskInTurn interpreters names evaluations results).own.result? "texts" interpreter = none :=
    absent
  have inside : Passes [] (begunOn "texts" (deskInTurn interpreters names evaluations results))
      (deskInTurn interpreters names (evaluations + 1) results) :=
    .idle (.of_definitions rfl List.prefix_rfl)
  exact .completed present rfl missing ran inside fun _ isLeaf => by cases isLeaf

theorem passes_inTurn : Passes occurrencesInTurn initial (deskAfter 2 interpretInTurn) := by
  rw [deskAfter_interpretInTurn]
  have defined : Passes [.defined "texts" textsExpression true] initial
      (deskInTurn [.standard] [] 0 []) :=
    .defined "texts" textsExpression true initial
  have bound : Passes [] (deskInTurn [.standard] [] 0 [])
      (deskInTurn [.standard, .bound 0] [("first", 1)] 0 []) :=
    .idle (.of_definitions rfl List.prefix_rfl)
  have first : Passes [.begun "texts" 1, .completed "texts" 1 (texts 0)]
      (deskInTurn [.standard, .bound 0] [("first", 1)] 0 [])
      (deskInTurn [.standard, .bound 0] [("first", 1)] 1 [(1, texts 0)]) :=
    passes_texts rfl rfl
  have boundAgain : Passes [] (deskInTurn [.standard, .bound 0] [("first", 1)] 1 [(1, texts 0)])
      (deskInTurn [.standard, .bound 0, .bound 0] [("second", 2)] 1 [(1, texts 0)]) :=
    .idle (.of_definitions rfl List.prefix_rfl)
  have second : Passes [.begun "texts" 2, .completed "texts" 2 (texts 1)]
      (deskInTurn [.standard, .bound 0, .bound 0] [("second", 2)] 1 [(1, texts 0)])
      (deskInTurn [.standard, .bound 0, .bound 0] [("second", 2)] 2 [(1, texts 0), (2, texts 1)]) :=
    passes_texts rfl rfl
  have again : Passes [.found "texts" 2 (texts 1)]
      (deskInTurn [.standard, .bound 0, .bound 0] [("second", 2)] 2 [(1, texts 0), (2, texts 1)])
      (deskInTurn [.standard, .bound 0, .bound 0] [("second", 2)] 2 [(1, texts 0), (2, texts 1)]) :=
    .found rfl
  exact defined.andThen (bound.andThen (first.andThen (boundAgain.andThen (second.andThen again))))

theorem allowsAll_inTurn : Memory.AllowsAll {} incidentsInTurn := by
  simp [Memory.AllowsAll, incidentsInTurn, Memory.Allows, Memory.after, Memory.put,
    Occurrence.interpreter?, Function.update_apply]

/-- The second interpreter comes to be at the address of the first one. The definition is evaluated
for it, and then it finds its own result. -/
theorem one_result_for_each_interpreter_inTurn :
    Passes occurrencesInTurn initial (deskAfter 2 interpretInTurn) ∧
      Memory.AllowsAll {} incidentsInTurn ∧
      incidentsInTurn.filterMap Incident.occurrence? = occurrencesInTurn ∧
      (Memory.afterAll {} (incidentsInTurn.take 6)).answer? "texts" 2 = none ∧
      (Memory.afterAll {} (incidentsInTurn.take 8)).answer? "texts" 2 = some (texts 1) := by
  obtain ⟨_, _, faithful⟩ := one_result_for_each_interpreter 2 interpretInTurn
  have addressed := (faithful _ _ passes_inTurn).addressed incidentsInTurn allowsAll_inTurn rfl
  refine ⟨passes_inTurn, allowsAll_inTurn, rfl, ?_, ?_⟩
  · exact addressed (incidentsInTurn.take 6) (incidentsInTurn.drop 7) (.begun "texts" 2) rfl
  · exact addressed (incidentsInTurn.take 8) [] (.found "texts" 2 (texts 1)) rfl

end SchemaSignature.Program
