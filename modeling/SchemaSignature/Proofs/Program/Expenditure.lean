import SchemaSignature.Proofs.Program.Histories
import SchemaSignature.Proofs.Program.Reserves
import SchemaSignature.Proofs.Program.Shallowness

/-!
Evaluations and renderings end. While everything stays within a horizon, evaluating an expression of a
guarded family adds at most the leaves of the expression to the reserve, and a definition adds none,
since its leaves have been in the reserve before it had a result. Hence a leaf that is rendered for
the first time takes more from the reserve than its body gives back, and rendering ends.
-/

namespace SchemaSignature.Program

open Outcome (FailsOnly)
open Work (End Ends EndsWithin Shallow)

namespace Horizon

variable {horizon : Horizon}

/-- The lazy leaves of a value lie within the horizon. -/
def Knows (horizon : Horizon) (value : Value) : Prop :=
  ∀ cell ∈ value.cells, horizon.Allows cell

/-- Everything lies within the horizon, and at most so many leaves can still be given a name. -/
structure Holds (horizon : Horizon) (limit : Nat) (desk : Desk Cell Shelf) : Prop where
  covers : horizon.Covers desk.own
  within : horizon.reserve desk.names desk.own ≤ limit

/-- Work that ends within the horizon. If it succeeds, the reserve is at most of the second size,
given that it was at most of the first one. -/
def Spends {result : Type} (horizon : Horizon) (least most : Nat) (known : result → Prop)
    (work : Nat → Nat → ProgramWork result) : Prop :=
  Ends (horizon.Holds least) (fun value desk => horizon.Holds most desk ∧ known value)
    (fun desk => horizon.Covers desk.own) work

section Holds

variable {limit : Nat} {desk : Desk Cell Shelf}

theorem Holds.grows {least : Nat} (holds : horizon.Holds least desk) (fewer : least ≤ limit) :
    horizon.Holds limit desk :=
  ⟨holds.covers, Nat.le_trans holds.within fewer⟩

/-- What a program keeps besides does not matter. -/
theorem Covers.of_same
    {shelf after : Shelf} (covers : horizon.Covers shelf)
    (definitions : after.definitions = shelf.definitions) (values : after.values = shelf.values)
    (bodies : after.bodies = shelf.bodies) (namers : after.namers = shelf.namers)
    (interpreters : after.interpreters = shelf.interpreters)
    (documents : after.documents = shelf.documents) : horizon.Covers after where
  definitions := by
    unfold Shelf.Adheres Shelf.definition?
    rw [definitions]
    exact covers.definitions
  results := by
    unfold Shelf.resultsOf Shelf.definition?
    rw [definitions]
    exact covers.results
  values := values ▸ covers.values
  bodies := bodies ▸ covers.bodies
  unbound := covers.unbound
  namers := namers ▸ covers.namers
  interpreters := interpreters ▸ covers.interpreters
  documents := documents ▸ covers.documents

theorem Covers.result
    {shelf : Shelf} {name : String} {interpreter : Nat} {value : Value}
    (covers : horizon.Covers shelf) (kept : shelf.result? name interpreter = some value) :
    horizon.Knows value := by
  obtain ⟨before, after, results, _⟩ := List.lookup_eq_some_iff.mp kept
  have isResult : (interpreter, value) ∈ shelf.resultsOf name := by
    rw [results]
    exact List.mem_append_right before List.mem_cons_self
  exact covers.results name _ isResult

end Holds

section Work

variable {least middle most : Nat} {first second : Type} {known : first → Prop}
  {knownLater : second → Prop} {work : Nat → Nat → ProgramWork first}
  {next : first → Nat → Nat → ProgramWork second}

theorem Spends.bind
    (spends : horizon.Spends least middle known work)
    (spendsLater : ∀ value, known value → horizon.Spends middle most knownLater (next value)) :
    horizon.Spends least most knownLater fun calls nesting =>
      work calls nesting >>= fun value => next value calls nesting :=
  Ends.bind spends fun value desk start => spendsLater value start.2 desk start.1

theorem Spends.pure {value : first} (isKnown : known value) :
    horizon.Spends least least known fun _ _ => pure value :=
  Ends.pure fun _ start => ⟨start, isKnown⟩

theorem Spends.throw {failure : Failure} (isOther : failure ≠ .outOfFuel) :
    horizon.Spends least most known fun _ _ => throw failure :=
  Ends.throw isOther fun _ start => start.covers

/-- Work that only looks at the desk. -/
theorem Spends.of_look
    {step : ProgramWork first} (shallow : Shallow step) (same : ∀ desk, (step.runOn desk).2 = desk)
    (isKnown : ∀ desk value, horizon.Covers desk.own → (step.runOn desk).1 = .ok value →
      known value) : horizon.Spends least least known fun _ _ => step := by
  refine Ends.of_shallow shallow (fun desk value start ran => ?_) fun desk failure start ran => ?_
  · rw [same]
    exact ⟨start, isKnown desk value start.covers ran⟩
  · rw [same]
    exact start.covers

end Work

/-! ## Looking things up -/

section Lookups

variable {limit : Nat}

theorem spends_stored (name : String) :
    horizon.Spends limit limit horizon.Knows fun _ _ => Shelf.find Shelf.values name := by
  refine .of_look (shallow_find _ name) (runOn_find_self _ name) fun desk value covers ran => ?_
  obtain ⟨entry, isEntry, rfl⟩ := mem_of_runOn_find ran
  exact covers.values entry isEntry

theorem runOn_interpreterAt_self (index : Nat) (desk : Desk Cell Shelf) :
    ((Shelf.interpreterAt index).runOn desk).2 = desk := by
  cases present : desk.own.interpreters[index]? with
  | some found => rw [runOn_interpreterAt_of_present present]
  | none => rw [runOn_interpreterAt_of_absent present]

/-- An interpreter that is bound is bound to a namer within the horizon. -/
theorem spends_interpreterAt (index : Nat) :
    horizon.Spends limit limit (fun found => ∀ namer, found = .bound namer →
      some namer ∈ horizon.namers) fun _ _ => Shelf.interpreterAt index := by
  refine .of_look (shallow_interpreterAt index) (runOn_interpreterAt_self index)
    fun desk found covers ran => ?_
  cases present : desk.own.interpreters[index]? with
  | some other =>
      rw [runOn_interpreterAt_of_present present] at ran
      cases ran
      rintro namer rfl
      exact covers.interpreters (List.mem_of_getElem? present)
  | none =>
      rw [runOn_interpreterAt_of_absent present] at ran
      cases ran

theorem spends_namerOf? (name : Option String) :
    horizon.Spends limit limit (· ∈ horizon.namers) fun _ _ => namerOf? name := by
  cases name with
  | none =>
      intro desk start
      exact Spends.pure (start.covers.unbound) desk start
  | some name =>
      have found : horizon.Spends limit limit (fun index => some index ∈ horizon.namers)
          fun _ _ => Shelf.find Shelf.namers name := by
        refine .of_look (shallow_find _ name) (runOn_find_self _ name)
          fun desk index covers ran => ?_
        obtain ⟨entry, isEntry, rfl⟩ := mem_of_runOn_find ran
        exact covers.namers entry isEntry
      simp only [namerOf?, ← bind_pure_comp]
      exact found.bind fun index isNamer => .pure isNamer

end Lookups

/-! ## Making values -/

section Values

variable {limit : Nat} {interpreter : Nat}

theorem spends_newValue
    {content : Operand Cell} (allowed : ∀ cell ∈ content.keys, horizon.Allows cell) :
    horizon.Spends limit limit horizon.Knows fun _ _ => Shelf.newValue content := by
  refine Ends.of_run fun desk start => ?_
  rw [runOn_newValue]
  have covers : horizon.Covers { desk.own with marks := desk.own.marks + 1 } :=
    start.covers.of_same rfl rfl rfl rfl rfl rfl
  have same : horizon.reserve desk.names { desk.own with marks := desk.own.marks + 1 } = _ :=
    reserve_congr rfl rfl fun _ => rfl
  exact .done ⟨⟨covers, same.trans_le start.within⟩, allowed⟩

theorem spends_construct
    {node : Except Failure (Node Cell)} {text : Option String}
    (fails : FailsOnly (· ≠ .outOfFuel) node)
    (allowed : ∀ made, node = .ok made → ∀ cell ∈ made.keys, horizon.Allows cell) :
    horizon.Spends limit limit horizon.Knows
      fun _ _ => (do (← Shelf.interpreterAt interpreter).construct node text) := by
  refine (spends_interpreterAt interpreter).bind fun found _ => ?_
  cases found with
  | standard | bound namer =>
      cases node with
      | ok node => exact spends_newValue (allowed node rfl)
      | error failure => exact .throw (fails failure rfl)
  | toy uri lasting =>
      cases text with
      | some text => exact spends_newValue nofun
      | none => exact .throw nofun
  | bare lasting => exact .throw nofun

theorem spends_primitive (kind : Primitive) :
    horizon.Spends limit limit horizon.Knows
      fun _ _ => (do (← Shelf.interpreterAt interpreter).primitive kind) := by
  refine (spends_interpreterAt interpreter).bind fun found _ => ?_
  unfold Interpreter.primitive
  split
  · exact .pure nofun
  · exact .pure nofun
  · exact .pure nofun
  · exact .throw nofun

/-- A lazy node adds itself and what its body can make to the reserve. -/
theorem spends_built
    {expression : Expression} {bound : Option Nat}
    (isInterpreter : interpreter ∈ horizon.interpreters) (isNamer : bound ∈ horizon.namers) :
    horizon.Spends limit (limit + (Expression.lazy expression none).leaves horizon.namers.length)
      horizon.Knows fun _ _ => (do
        Shelf.newValue (.node (.lazy (.built
          (← Shelf.addBody { expression := expression, interpreter := interpreter }) bound)))) := by
  refine Ends.of_run fun desk start => ?_
  have covers : horizon.Covers { desk.own with
      bodies := desk.own.bodies ++ [{ expression := expression, interpreter := interpreter }]
      marks := desk.own.marks + 1 } :=
    { start.covers with
      bodies := by
        intro body isBody
        rcases List.mem_append.mp isBody with isOld | isNew
        · exact start.covers.bodies body isOld
        · cases List.mem_singleton.mp isNew
          exact isInterpreter }
  have added : horizon.reserve desk.names { desk.own with
      bodies := desk.own.bodies ++ [{ expression := expression, interpreter := interpreter }]
      marks := desk.own.marks + 1 } ≤ _ :=
    reserve_body { expression := expression, interpreter := interpreter } rfl rfl fun _ => rfl
  refine .done ⟨⟨covers, Nat.le_trans added ?_⟩, ?_⟩
  · rw [Expression.leaves]
    exact Nat.add_le_add_right start.within _
  · intro cell isLeaf
    cases List.mem_singleton.mp isLeaf
    exact isNamer

theorem spends_lazyNode
    {expression : Expression} {namer : Option Nat} (name : Option String)
    (isInterpreter : interpreter ∈ horizon.interpreters) (isNamer : namer ∈ horizon.namers) :
    horizon.Spends limit (limit + (Expression.lazy expression name).leaves horizon.namers.length)
      horizon.Knows fun _ _ => (do
        (← Shelf.interpreterAt interpreter).lazyNode namer
          (.ok { expression := expression, interpreter := interpreter })) := by
  refine (spends_interpreterAt interpreter).bind fun found isBound => ?_
  rw [Expression.leaves]
  cases found with
  | standard => exact spends_built isInterpreter isNamer
  | bound own =>
      unfold Interpreter.lazyNode
      simp only
      split
      · exact .throw nofun
      · exact spends_built isInterpreter (isBound own rfl)
  | toy uri lasting => exact .throw nofun
  | bare lasting => exact .throw nofun

theorem spends_lazyOf (namer : Option Nat) (kind : Json.Kind) :
    horizon.Spends limit limit horizon.Knows fun _ _ => (do
      (← Shelf.interpreterAt interpreter).lazyNode namer (.error (.bodyNotDeferred kind))) := by
  refine (spends_interpreterAt interpreter).bind fun found isBound => ?_
  cases found with
  | bound own =>
      unfold Interpreter.lazyNode
      simp only
      split
      · exact .throw nofun
      · exact .throw nofun
  | _ => exact .throw nofun

end Values

/-! ## Expressions -/

section Expressions

variable {call : Nat → String → Nat → ProgramWork Value} {interpreter : Nat}

/-- The leaves of the values in a table lie within the horizon. -/
def KnowsEntries (horizon : Horizon) (table : List (Json × Value)) : Prop :=
  ∀ cell ∈ cellsOfEntries table, horizon.Allows cell

def KnowsMembers (horizon : Horizon) (members : List Value) : Prop :=
  ∀ cell ∈ cellsOfMembers members, horizon.Allows cell

/-- Named definitions leave the reserve as it is. -/
def CallsSpendNothing (horizon : Horizon) (call : Nat → String → Nat → ProgramWork Value)
    (interpreter : Nat) (names : List String) : Prop :=
  ∀ name ∈ names, ∀ limit,
    horizon.Spends limit limit horizon.Knows fun depth _ => call depth name interpreter

mutual

/-- Evaluating an expression adds at most its leaves to the reserve. -/
theorem spends_build (isInterpreter : interpreter ∈ horizon.interpreters) (limit : Nat) :
    (expression : Expression) → horizon.CallsSpendNothing call interpreter expression.uses →
      horizon.Spends limit (limit + expression.leaves horizon.namers.length) horizon.Knows
        fun depth _ => expression.build (call depth) interpreter
  | .primitive kind, _ => by
      simp only [Expression.build, Expression.leaves]
      exact spends_primitive kind
  | .null, _ | .raw _, _ => by
      simp only [Expression.build, Expression.leaves]
      exact .pure nofun
  | .stored name, _ => by
      simp only [Expression.build, Expression.leaves]
      exact spends_stored name
  | .defined name, calls => by
      simp only [Expression.build, Expression.leaves]
      exact calls name (List.mem_singleton_self name) limit
  | .constant _, _ | .probe _, _ => by
      simp only [Expression.build, Expression.leaves]
      exact spends_newValue nofun
  | .produced _, _ => by
      simp only [Expression.build]
      exact .throw nofun
  | .literals values, _ => by
      simp only [Expression.build, Expression.leaves]
      refine spends_construct ?_ fun made isMade => ?_
      · exact (failsOnly_sizedElements values).bind fun items _ =>
          (Construction.failsOnly_literals items).mono fun _ isFault => isFault.isOther
      · obtain ⟨_, _, isMade⟩ := Outcome.bind_eq_ok_iff.mp isMade
        rw [Construction.keys_literals isMade]
        exact nofun
  | .literalsOr values fallback, calls => by
      simp only [Expression.build, Expression.leaves]
      refine (spends_build isInterpreter limit fallback calls).bind fun other known => ?_
      refine spends_construct ?_ fun made isMade => ?_
      · exact (failsOnly_sizedElements values).bind fun items _ => failsOnly_literalsOr items _
      · obtain ⟨_, _, isMade⟩ := Outcome.bind_eq_ok_iff.mp isMade
        rw [Construction.keys_literalsOr isMade]
        exact known
  | .fields presence entries, calls => by
      simp only [Expression.build, Expression.leaves]
      refine (spends_buildEntries isInterpreter limit [] nofun entries calls).bind
        fun table known => ?_
      refine spends_construct ?_ fun made isMade => ?_
      · exact (Construction.failsOnly_fields presence _).mono fun _ isFault => isFault.isOther
      · rw [Construction.keys_fields isMade, keys_operandEntries]
        exact known
  | .container kind element, calls => by
      simp only [Expression.build, Expression.leaves]
      refine (spends_build isInterpreter limit element calls).bind fun inner known => ?_
      refine spends_construct ?_ fun made isMade => ?_
      · exact (Construction.failsOnly_container kind _).mono fun _ isFault => isFault.isOther
      · rw [Construction.keys_container isMade]
        exact known
  | .list kind members, calls => by
      simp only [Expression.build, Expression.leaves]
      refine (spends_buildAll isInterpreter limit members calls).bind fun built known => ?_
      refine spends_construct (failsOnly_listNode kind _) fun made isMade => ?_
      rw [ListConstructor.keys_node isMade, List.flatMap_map]
      exact known
  | .listOf kind members, _ => by
      simp only [Expression.build, Expression.leaves]
      refine spends_construct ?_ fun made isMade => ?_
      · exact (failsOnly_operandsOf members).bind fun operands _ => failsOnly_listNode kind operands
      · obtain ⟨operands, listed, isMade⟩ := Outcome.bind_eq_ok_iff.mp isMade
        rw [ListConstructor.keys_node isMade, keys_operandsOf listed]
        exact nofun
  | .sum tag members, calls => by
      simp only [Expression.build, Expression.leaves]
      refine (spends_buildEntries isInterpreter limit [] nofun members calls).bind
        fun table known => ?_
      refine spends_construct ?_ fun made isMade => ?_
      · exact (Construction.failsOnly_sum tag _).mono fun _ isFault => isFault.isOther
      · rw [Construction.keys_sum isMade, List.flatMap_map]
        exact known
  | .lazy body namer, _ => by
      simp only [Expression.build]
      exact (spends_namerOf? namer).bind fun bound isNamer =>
        spends_lazyNode namer isInterpreter isNamer
  | .lazyOf producer namer, _ => by
      simp only [Expression.build, Expression.leaves]
      exact (spends_namerOf? namer).bind fun bound _ => spends_lazyOf bound producer.kind

theorem spends_buildAll (isInterpreter : interpreter ∈ horizon.interpreters) (limit : Nat) :
    (expressions : List Expression) →
      horizon.CallsSpendNothing call interpreter (Expression.usesOfMembers expressions) →
      horizon.Spends limit
        (limit + Expression.leavesOfMembers horizon.namers.length expressions)
        horizon.KnowsMembers fun depth _ => Expression.buildAll (call depth) interpreter expressions
  | [], _ => by
      simp only [Expression.buildAll, Expression.leavesOfMembers]
      exact .pure nofun
  | expression :: rest, calls => by
      simp only [Expression.buildAll, Expression.leavesOfMembers, ← Nat.add_assoc]
      refine (spends_build isInterpreter limit expression fun name isUsed =>
        calls name (List.mem_append_left _ isUsed)).bind fun first known => ?_
      refine (spends_buildAll isInterpreter _ rest fun name isUsed =>
        calls name (List.mem_append_right _ isUsed)).bind fun others knownRest => ?_
      exact .pure fun cell isLeaf => (List.mem_append.mp isLeaf).elim (known cell) (knownRest cell)

theorem spends_buildEntries (isInterpreter : interpreter ∈ horizon.interpreters) (limit : Nat)
    (table : List (Json × Value)) (knownTable : horizon.KnowsEntries table) :
    (entries : List (Json × Expression)) →
      horizon.CallsSpendNothing call interpreter (Expression.usesOfEntries entries) →
      horizon.Spends limit (limit + Expression.leavesOfEntries horizon.namers.length entries)
        horizon.KnowsEntries
        fun depth _ => Expression.buildEntries (call depth) interpreter table entries
  | [], _ => by
      simp only [Expression.buildEntries, Expression.leavesOfEntries]
      exact .pure knownTable
  | (key, expression) :: rest, calls => by
      simp only [Expression.buildEntries, Expression.leavesOfEntries, ← Nat.add_assoc]
      refine (spends_build isInterpreter limit expression fun name isUsed =>
        calls name (List.mem_append_left _ isUsed)).bind fun value known => ?_
      split
      · refine spends_buildEntries isInterpreter _ _ (fun cell isLeaf => ?_) rest fun name isUsed =>
          calls name (List.mem_append_right _ isUsed)
        have among := cellsOfEntries_set_subset table key value isLeaf
        exact (List.mem_append.mp among).elim (knownTable cell) (known cell)
      · exact .throw nofun

end

end Expressions

/-! ## Definitions -/

section Calls

variable {name : String} {interpreter limit : Nat} {definition : Definition} {value : Value}
  {desk : Desk Cell Shelf}

theorem Covers.counted {shelf : Shelf} (covers : horizon.Covers shelf) :
    horizon.Covers (shelf.amend name Definition.counted) := by
  obtain ⟨definitions, amended⟩ := Shelf.exists_amend shelf name Definition.counted
  have adheres := covers.definitions.of_plans (Shelf.idles_counted shelf name).plans
  have results : ∀ other, (shelf.amend name Definition.counted).resultsOf other = _ :=
    fun other => Shelf.resultsOf_amend_counted
  rw [amended] at adheres results ⊢
  exact { covers with
    definitions := adheres
    results := fun other => (results other).symm ▸ covers.results other }

theorem Holds.begunOn (holds : horizon.Holds limit desk) :
    horizon.Holds limit (begunOn name desk) := by
  refine ⟨holds.covers.counted, ?_⟩
  obtain ⟨definitions, amended⟩ := Shelf.exists_amend desk.own name Definition.counted
  refine (reserve_congr ?_ ?_ fun _ => Shelf.resultsOf_amend_counted).trans_le holds.within
  · rw [amended]
  · rw [amended]

theorem Covers.kept
    {shelf : Shelf} (covers : horizon.Covers shelf) (known : horizon.Knows value) :
    horizon.Covers (shelf.amend name (Definition.keeping interpreter value)) := by
  have samePlan (definition : Definition) :
      (definition.keeping interpreter value).plan = definition.plan := rfl
  have adheres : (shelf.amend name (Definition.keeping interpreter value)).Adheres _ :=
    covers.definitions.of_plans (Shelf.plan_amend samePlan)
  have results : ∀ other, ∀ entry ∈
      (shelf.amend name (Definition.keeping interpreter value)).resultsOf other,
      ∀ cell ∈ entry.2.cells, horizon.Allows cell := by
    intro other entry isEntry
    rcases Shelf.mem_resultsOf_amend_keeping isEntry with isOld | rfl
    · exact covers.results other entry isOld
    · exact known
  obtain ⟨definitions, amended⟩ :=
    Shelf.exists_amend shelf name (Definition.keeping interpreter value)
  rw [amended] at adheres results ⊢
  exact { covers with
    definitions := adheres
    results := results }

/-- A definition that keeps its result has paid for it: what its expression has added to the reserve
is taken out again, since the definition has no more leaves to make. -/
theorem Holds.keptOn
    (holds : horizon.Holds (limit + definition.expression.leaves horizon.namers.length) desk)
    (known : horizon.Knows value) (present : desk.own.definition? name = some definition)
    (absent : desk.own.result? name interpreter = none)
    (isInterpreter : interpreter ∈ horizon.interpreters) :
    horizon.Holds limit (keptOn name interpreter value desk) := by
  refine ⟨holds.covers.kept known, ?_⟩
  have isMember := (holds.covers.definitions _ _ present).1
  have taken : horizon.reserve desk.names (desk.own.amend name _) + _ ≤ _ :=
    reserve_kept value present absent isMember isInterpreter
  have within := holds.within
  change horizon.reserve desk.names (desk.own.amend name _) ≤ limit
  omega

/-- A definition without a result is evaluated, which ends if that of its expression does. -/
theorem spends_evaluated
    (isInterpreter : interpreter ∈ horizon.interpreters) (holds : horizon.Holds limit desk)
    (present : desk.own.definition? name = some definition)
    (absent : desk.own.result? name interpreter = none)
    (calls : horizon.CallsSpendNothing call interpreter definition.expression.uses) :
    ∃ bound outcome later,
      End (fun value desk => horizon.Holds limit desk ∧ horizon.Knows value)
        (fun desk => horizon.Covers desk.own) outcome later ∧
      ∀ depth, bound ≤ depth →
        (call (depth + 1) name interpreter).runOn desk = (outcome, later) := by
  obtain ⟨bound, outcome, after, ended, runs⟩ :=
    spends_build isInterpreter limit definition.expression calls (begunOn name desk) holds.begunOn
  cases ended with
  | failed isOther covers =>
      exact ⟨bound, _, after, .failed isOther covers, fun depth enough =>
        runOn_call_of_error present absent (runs depth depth enough enough)⟩
  | @done value _ held =>
      obtain ⟨_, _, fills, _⟩ := evaluates_build (evaluates_call bound · interpreter)
        definition.expression (begunOn name desk) (fetches_begunOn present)
      rw [runs bound bound (Nat.le_refl _) (Nat.le_refl _)] at fills
      have begins : Shelf.Fills interpreter [] desk.own (begunOn name desk).own :=
        (Shelf.idles_counted desk.own name).fills
      have whole : Shelf.Fills interpreter definition.expression.uses desk.own after.own :=
        begins.trans fills
      obtain ⟨later, still, samePlan⟩ := whole.definition? present
      have sameExpression : later.expression = definition.expression := congrArg Prod.fst samePlan
      have absentLater : after.own.result? name interpreter = none := by
        rw [Shelf.result?, whole.own_results present absent]
        exact absent
      have keeps := (holds.covers.definitions _ _ present).2
      refine ⟨bound, _, keptOn name interpreter value after, .done ⟨?_, held.2⟩,
        fun depth enough =>
          runOn_call_of_ok present absent keeps (runs depth depth enough enough) still⟩
      rw [← sameExpression] at held
      exact held.1.keptOn held.2 still absentLater isInterpreter

/-- Evaluating a definition of a guarded family ends and leaves the reserve as it is. The induction is
on what the definition depends on. -/
theorem spends_call
    (guarded : horizon.family.Guarded) (isInterpreter : interpreter ∈ horizon.interpreters)
    (name : String) (limit : Nat) :
    horizon.Spends limit limit horizon.Knows fun depth _ => call depth name interpreter := by
  induction guarded.acc name generalizing limit with
  | intro name _ inductionHypothesis =>
      intro desk holds
      have ends : ∃ bound outcome later,
          End (fun value desk => horizon.Holds limit desk ∧ horizon.Knows value)
            (fun desk => horizon.Covers desk.own) outcome later ∧
          ∀ depth, bound ≤ depth →
            (call (depth + 1) name interpreter).runOn desk = (outcome, later) := by
        cases present : desk.own.definition? name with
        | none =>
            have isOther : Failure.undefined ≠ .outOfFuel := nofun
            exact ⟨0, _, desk, .failed isOther holds.covers, fun _ _ =>
              runOn_call_of_undefined present⟩
        | some definition =>
            cases kept : desk.own.result? name interpreter with
            | some value =>
                exact ⟨0, _, desk, .done ⟨holds, holds.covers.result kept⟩, fun _ _ =>
                  runOn_call_of_kept present kept⟩
            | none =>
                have isMember := (holds.covers.definitions _ _ present).1
                exact spends_evaluated isInterpreter holds present kept
                  fun used isUsed => inductionHypothesis used ⟨_, isMember, isUsed⟩
      obtain ⟨bound, outcome, later, ended, runs⟩ := ends
      refine ⟨bound + 1, outcome, later, ended, fun calls nesting enough _ => ?_⟩
      obtain ⟨depth, rfl⟩ := Nat.exists_eq_add_of_le' (Nat.le_trans (Nat.le_add_left 1 bound) enough)
      exact runs depth (Nat.le_of_succ_le_succ enough)

theorem spends_evaluate
    (guarded : horizon.family.Guarded) (isInterpreter : interpreter ∈ horizon.interpreters)
    (expression : Expression) (limit : Nat) :
    horizon.Spends limit (limit + expression.leaves horizon.namers.length) horizon.Knows
      fun depth _ => evaluate depth expression interpreter :=
  spends_build isInterpreter limit expression fun name _ => spends_call guarded isInterpreter name

end Calls

end Horizon

end SchemaSignature.Program
