import Mathlib.Algebra.GroupWithZero.Nat
import Mathlib.Algebra.Order.BigOperators.Group.List
import Mathlib.Algebra.Order.Group.Nat
import Mathlib.Data.Fintype.EquivFin
import Mathlib.Order.RelClasses
import SchemaSignature.Proofs.Document.References
import SchemaSignature.Proofs.Program.Occurrences
import SchemaSignature.Proofs.Program.Results

/-!
Families of definitions in which every way back from a definition to itself passes through the body
of a lazy node, and how many lazy leaves can still be given a name. There is a reserve of leaves,
which consists of those that have been made and have no name, together with the ones that their bodies
can make, and of those that the definitions without a result can make. A leaf that gets its name takes
itself and its body out of the reserve; evaluating the body puts back at most what the body can make;
and a definition that gets its result has been paid for in advance.
-/

namespace SchemaSignature.Program

/-! ## Guarded families -/

/-- Definitions by name. There may be several of one name, of which a program has one at a time. -/
abbrev Family : Type :=
  List (String × Expression)

namespace Family

variable {family : Family}

/-- One definition is evaluated whenever another one is. -/
def Depends (family : Family) (lower upper : String) : Prop :=
  ∃ expression, (upper, expression) ∈ family ∧ lower ∈ expression.uses

/-- Every chain of uses that leads back to a definition passes through the body of a lazy node. -/
def Guarded (family : Family) : Prop :=
  ∀ name, ¬Relation.TransGen family.Depends name name

/-- One member of a family is evaluated, by way of others perhaps, whenever another one is. -/
def Below (family : Family) (lower upper : { name // name ∈ family.map Prod.fst }) : Prop :=
  Relation.TransGen family.Depends lower.1 upper.1

/-- A family is finite, so that nothing but a way back could lead down for ever. -/
theorem Guarded.wellFounded (guarded : family.Guarded) : WellFounded family.Below := by
  have transitive : IsTrans _ family.Below := ⟨fun _ _ _ => Relation.TransGen.trans⟩
  have irreflexive : Std.Irrefl family.Below := ⟨fun member => guarded member.1⟩
  exact Finite.wellFounded_of_trans_of_irrefl family.Below

theorem Depends.mem {lower upper : String} (depends : family.Depends lower upper) :
    upper ∈ family.map Prod.fst := by
  obtain ⟨expression, isEntry, _⟩ := depends
  exact List.mem_map.mpr ⟨(upper, expression), isEntry, rfl⟩

/-- What a definition depends on in a guarded family comes to an end. -/
theorem Guarded.acc (guarded : family.Guarded) (name : String) : Acc family.Depends name := by
  have members (member : { name // name ∈ family.map Prod.fst }) :
      Acc family.Depends member.1 := by
    induction member using guarded.wellFounded.induction with
    | _ member inductionHypothesis =>
        refine .intro _ fun lower depends => ?_
        by_cases among : lower ∈ family.map Prod.fst
        · exact inductionHypothesis ⟨lower, among⟩ (.single depends)
        · exact .intro _ fun _ impossible => absurd impossible.mem among
  by_cases among : name ∈ family.map Prod.fst
  · exact members ⟨name, among⟩
  · exact .intro _ fun _ impossible => absurd impossible.mem among

end Family

/-- The definitions on a shelf are some of a family, and they keep their results. -/
def Shelf.Adheres (family : Family) (shelf : Shelf) : Prop :=
  ∀ name definition, shelf.definition? name = some definition →
    (name, definition.expression) ∈ family ∧ definition.keepsResults = true

theorem Shelf.Adheres.of_plans
    {family : Family} {before after : Shelf} (adheres : before.Adheres family)
    (plans : ∀ name, (after.definition? name).map Definition.plan =
      (before.definition? name).map Definition.plan) : after.Adheres family := by
  intro name definition present
  have same := plans name
  rw [present, Option.map_some] at same
  obtain ⟨earlier, presentBefore, samePlan⟩ := Option.map_eq_some_iff.mp same.symm
  obtain ⟨isEntry, keeps⟩ := adheres name earlier presentBefore
  have sameExpression : earlier.expression = definition.expression := congrArg Prod.fst samePlan
  have sameKeeps : earlier.keepsResults = definition.keepsResults := congrArg Prod.snd samePlan
  exact ⟨sameExpression ▸ isEntry, sameKeeps ▸ keeps⟩

/-! ## Reserves -/

namespace Expression

mutual

/-- How many lazy leaves can come of an expression if the bodies of its lazy nodes are evaluated as
well, apart from what definitions make. Each lazy node counts once for each namer it can have. -/
def leaves (namers : Nat) : Expression → Nat
  | .lazy body _ => namers * (1 + leaves namers body)
  | .literalsOr _ fallback => leaves namers fallback
  | .fields _ entries => leavesOfEntries namers entries
  | .container _ element => leaves namers element
  | .list _ members => leavesOfMembers namers members
  | .sum _ members => leavesOfEntries namers members
  | .primitive _ | .null | .raw _ | .stored _ | .defined _ | .constant _ | .produced _ | .probe _
  | .literals _ | .listOf _ _ | .lazyOf _ _ => 0

def leavesOfMembers (namers : Nat) : List Expression → Nat
  | [] => 0
  | expression :: rest => leaves namers expression + leavesOfMembers namers rest

def leavesOfEntries (namers : Nat) : List (Json × Expression) → Nat
  | [] => 0
  | (_, expression) :: rest => leaves namers expression + leavesOfEntries namers rest

end

end Expression

/-- What can come into play: the definitions, the interpreters of bodies, the namers of lazy leaves,
and the targets of references. -/
structure Horizon where
  family : Family
  interpreters : List Nat
  namers : List (Option Nat)
  targets : List String

namespace Horizon

variable (horizon : Horizon)

/-- A lazy leaf lies within the horizon. -/
def Allows : Cell → Prop
  | .built _ bound => bound ∈ horizon.namers
  | .reference _ target bound => target ∈ horizon.targets ∧ bound ∈ horizon.namers
  | .alone _ => True

/-- Everything that a shelf has lies within the horizon. -/
structure Covers (shelf : Shelf) : Prop where
  definitions : shelf.Adheres horizon.family
  results : ∀ name, ∀ entry ∈ shelf.resultsOf name, ∀ cell ∈ entry.2.cells, horizon.Allows cell
  values : ∀ entry ∈ shelf.values, ∀ cell ∈ entry.2.cells, horizon.Allows cell
  bodies : ∀ body ∈ shelf.bodies, body.interpreter ∈ horizon.interpreters
  unbound : none ∈ horizon.namers
  namers : ∀ entry ∈ shelf.namers, some entry.2 ∈ horizon.namers
  interpreters : ∀ {namer}, .bound namer ∈ shelf.interpreters → some namer ∈ horizon.namers
  documents : ∀ root ∈ shelf.documents, root.references ⊆ horizon.targets

/-- The lazy leaves of the first bodies. -/
def builtCells (count : Nat) : List Cell :=
  (List.range count).flatMap fun index => horizon.namers.map fun bound => .built index bound

/-- The references in the first documents. -/
def referenceCells (count : Nat) : List Cell :=
  (List.range count).flatMap fun document =>
    horizon.targets.flatMap fun target =>
      horizon.namers.map fun bound => .reference document target bound

/-- The leaves that there can be for the bodies and documents of a shelf. -/
def cells (shelf : Shelf) : List Cell :=
  horizon.builtCells shelf.bodies.length ++ horizon.referenceCells shelf.documents.length

/-- How many leaves the body of a leaf can make. -/
def leavesWithin (shelf : Shelf) : Cell → Nat
  | .built index _ =>
      (shelf.bodies[index]?.map fun body => body.expression.leaves horizon.namers.length).getD 0
  | .reference .. | .alone _ => 0

/-- What a leaf contributes to the reserve. -/
def pending (names : List (Cell × String)) (shelf : Shelf) (cell : Cell) : Nat :=
  if (names.lookup cell).isSome then 0 else 1 + horizon.leavesWithin shelf cell

/-- What a definition contributes to the reserve for an interpreter. -/
def promised (shelf : Shelf) (entry : (String × Expression) × Nat) : Nat :=
  if (shelf.result? entry.1.1 entry.2).isSome then 0
  else entry.1.2.leaves horizon.namers.length

/-- The definitions that can be evaluated, each with every interpreter. -/
def uses : List ((String × Expression) × Nat) :=
  horizon.family.flatMap fun definition => horizon.interpreters.map fun index => (definition, index)

/-- How many leaves can still be given a name. -/
def reserve (names : List (Cell × String)) (shelf : Shelf) : Nat :=
  ((horizon.cells shelf).map (horizon.pending names shelf)).sum +
    (horizon.uses.map (horizon.promised shelf)).sum

/-! ## Sums -/

/-- If every summand grows and one of them by at least a certain amount, so does the sum. -/
theorem sum_map_add_le
    {content : Type} {lesser greater : content → Nat} {values : List content}
    (grows : ∀ value ∈ values, lesser value ≤ greater value) {value : content}
    (isValue : value ∈ values) {gap : Nat} (grown : lesser value + gap ≤ greater value) :
    (values.map lesser).sum + gap ≤ (values.map greater).sum := by
  induction values with
  | nil => cases isValue
  | cons first rest inductionHypothesis =>
      have growsFirst := grows first List.mem_cons_self
      have growsRest : ∀ value ∈ rest, lesser value ≤ greater value :=
        fun value later => grows value (List.mem_cons_of_mem _ later)
      rw [List.map_cons, List.map_cons, List.sum_cons, List.sum_cons]
      rcases List.mem_cons.mp isValue with rfl | later
      · have others : (rest.map lesser).sum ≤ (rest.map greater).sum :=
          List.sum_le_sum growsRest
        omega
      · have others := inductionHypothesis growsRest later
        omega

variable {horizon} {names : List (Cell × String)} {shelf after : Shelf}

theorem mem_builtCells {index count : Nat} {bound : Option Nat} (isIndex : index < count)
    (isNamer : bound ∈ horizon.namers) : .built index bound ∈ horizon.builtCells count :=
  List.mem_flatMap.mpr ⟨index, List.mem_range.mpr isIndex,
    List.mem_map.mpr ⟨bound, isNamer, rfl⟩⟩

theorem mem_referenceCells
    {document count : Nat} {target : String} {bound : Option Nat} (isDocument : document < count)
    (isTarget : target ∈ horizon.targets) (isNamer : bound ∈ horizon.namers) :
    .reference document target bound ∈ horizon.referenceCells count :=
  List.mem_flatMap.mpr ⟨document, List.mem_range.mpr isDocument, List.mem_flatMap.mpr
    ⟨target, isTarget, List.mem_map.mpr ⟨bound, isNamer, rfl⟩⟩⟩

theorem lt_of_mem_builtCells {index count : Nat} {bound : Option Nat}
    (isCell : .built index bound ∈ horizon.builtCells count) : index < count := by
  obtain ⟨other, isIndex, isCell⟩ := List.mem_flatMap.mp isCell
  obtain ⟨_, _, same⟩ := List.mem_map.mp isCell
  cases same
  exact List.mem_range.mp isIndex

theorem mem_uses {name : String} {expression : Expression} {interpreter : Nat}
    (isMember : (name, expression) ∈ horizon.family)
    (isInterpreter : interpreter ∈ horizon.interpreters) :
    ((name, expression), interpreter) ∈ horizon.uses :=
  List.mem_flatMap.mpr ⟨_, isMember, List.mem_map.mpr ⟨interpreter, isInterpreter, rfl⟩⟩

/-! ## What changes the reserve -/

/-- The reserve rests on the names, the bodies, the number of the documents and the results. -/
theorem reserve_congr
    (bodies : after.bodies = shelf.bodies) (documents : after.documents = shelf.documents)
    (results : ∀ name, after.resultsOf name = shelf.resultsOf name) :
    horizon.reserve names after = horizon.reserve names shelf := by
  have samePending : horizon.pending names after = horizon.pending names shelf := by
    funext cell
    cases cell with
    | built index bound => simp only [pending, leavesWithin, bodies]
    | reference document target bound => rfl
    | alone index => rfl
  have samePromised : horizon.promised after = horizon.promised shelf := by
    funext entry
    rw [promised, promised, Shelf.result?, Shelf.result?, results]
  rw [reserve, reserve, cells, cells, bodies, documents, samePending, samePromised]

/-- A leaf that gets its name takes itself and what its body can make out of the reserve. -/
theorem reserve_named
    {leaf : Cell} (isCell : leaf ∈ horizon.cells shelf) (unnamed : names.lookup leaf = none)
    (name : String) :
    horizon.reserve (names ++ [(leaf, name)]) shelf + (1 + horizon.leavesWithin shelf leaf) ≤
      horizon.reserve names shelf := by
  have fewer : ∀ cell ∈ horizon.cells shelf,
      horizon.pending (names ++ [(leaf, name)]) shelf cell ≤ horizon.pending names shelf cell := by
    intro cell _
    unfold pending
    rw [List.lookup_append]
    cases names.lookup cell with
    | some given => exact Nat.le_refl 0
    | none =>
        rw [Option.none_or]
        split
        · exact Nat.zero_le _
        · exact Nat.le_refl _
  have own : horizon.pending (names ++ [(leaf, name)]) shelf leaf +
      (1 + horizon.leavesWithin shelf leaf) ≤ horizon.pending names shelf leaf := by
    have isNamed : ((names ++ [(leaf, name)]).lookup leaf).isSome = true := by
      rw [List.lookup_append, unnamed, Option.none_or, List.lookup_cons_self]
      rfl
    rw [pending, if_pos isNamed, pending, unnamed, Nat.zero_add]
    exact Nat.le_refl _
  have taken := sum_map_add_le fewer isCell own
  unfold reserve
  omega

/-- A leaf that is made puts itself and what its body can make into the reserve. -/
theorem reserve_body (body : Body) (bodies : after.bodies = shelf.bodies ++ [body])
    (documents : after.documents = shelf.documents)
    (results : ∀ name, after.resultsOf name = shelf.resultsOf name) :
    horizon.reserve names after ≤ horizon.reserve names shelf +
      horizon.namers.length * (1 + body.expression.leaves horizon.namers.length) := by
  have samePromised : horizon.promised after = horizon.promised shelf := by
    funext entry
    rw [promised, promised, Shelf.result?, Shelf.result?, results]
  have sameOld : ∀ cell ∈ horizon.builtCells shelf.bodies.length,
      horizon.pending names after cell = horizon.pending names shelf cell := by
    rintro cell isCell
    cases cell with
    | built index bound =>
        have isOld := lt_of_mem_builtCells isCell
        simp only [pending, leavesWithin, bodies, List.getElem?_append_left isOld]
    | reference document target bound => rfl
    | alone index => rfl
  have sameReferences : ∀ cell ∈ horizon.referenceCells shelf.documents.length,
      horizon.pending names after cell = horizon.pending names shelf cell := by
    intro cell isCell
    obtain ⟨_, _, isCell⟩ := List.mem_flatMap.mp isCell
    obtain ⟨_, _, isCell⟩ := List.mem_flatMap.mp isCell
    obtain ⟨_, _, rfl⟩ := List.mem_map.mp isCell
    rfl
  have new : ((horizon.namers.map (Cell.built shelf.bodies.length)).map
      (horizon.pending names after)).sum ≤
        horizon.namers.length * (1 + body.expression.leaves horizon.namers.length) := by
    have each : ∀ amount ∈ (horizon.namers.map (Cell.built shelf.bodies.length)).map
        (horizon.pending names after),
        amount ≤ 1 + body.expression.leaves horizon.namers.length := by
      intro amount isAmount
      obtain ⟨_, isCell, rfl⟩ := List.mem_map.mp isAmount
      obtain ⟨bound, _, rfl⟩ := List.mem_map.mp isCell
      have found : after.bodies[shelf.bodies.length]? = some body := by
        rw [bodies, List.getElem?_concat_length]
      rw [pending, leavesWithin, found]
      split
      · exact Nat.zero_le _
      · exact Nat.le_refl _
    have atMost := List.sum_le_card_nsmul _ _ each
    rw [List.length_map, List.length_map] at atMost
    exact atMost
  have built : horizon.builtCells after.bodies.length =
      horizon.builtCells shelf.bodies.length ++
        horizon.namers.map (Cell.built shelf.bodies.length) := by
    rw [bodies, List.length_append, builtCells, List.length_singleton, List.range_succ,
      List.flatMap_append, List.flatMap_singleton, builtCells]
  unfold reserve cells
  rw [built, documents, samePromised, List.append_assoc, List.map_append, List.map_append,
    List.map_append, List.sum_append, List.sum_append, List.sum_append,
    List.map_congr_left sameOld, List.map_congr_left sameReferences]
  omega

/-- A definition that gets a result takes out of the reserve what its expression can make. -/
theorem reserve_kept
    {name : String} {definition : Definition} {interpreter : Nat} (value : Value)
    (present : shelf.definition? name = some definition)
    (absent : shelf.result? name interpreter = none)
    (isMember : (name, definition.expression) ∈ horizon.family)
    (isInterpreter : interpreter ∈ horizon.interpreters) :
    horizon.reserve names (shelf.amend name (Definition.keeping interpreter value)) +
      definition.expression.leaves horizon.namers.length ≤ horizon.reserve names shelf := by
  obtain ⟨definitions, amended⟩ :=
    Shelf.exists_amend shelf name (Definition.keeping interpreter value)
  have samePending :
      horizon.pending names (shelf.amend name (Definition.keeping interpreter value)) =
        horizon.pending names shelf := by
    funext cell
    rw [amended]
    cases cell <;> rfl
  have sameCells : horizon.cells (shelf.amend name (Definition.keeping interpreter value)) =
      horizon.cells shelf := by
    rw [amended]
    rfl
  have kept := Shelf.resultsOf_amend_keeping interpreter value present
  have fewer : ∀ entry ∈ horizon.uses,
      horizon.promised (shelf.amend name (Definition.keeping interpreter value)) entry ≤
        horizon.promised shelf entry := by
    rintro ⟨⟨other, expression⟩, index⟩ _
    unfold promised Shelf.result?
    by_cases isSame : other = name
    · rw [isSame, kept, List.lookup_append]
      cases (shelf.resultsOf name).lookup index with
      | some result => exact Nat.le_refl 0
      | none =>
          rw [Option.none_or]
          split
          · exact Nat.zero_le _
          · exact Nat.le_refl _
    · rw [Shelf.resultsOf_amend_of_ne isSame]
  have own : horizon.promised (shelf.amend name (Definition.keeping interpreter value))
      ((name, definition.expression), interpreter) +
        definition.expression.leaves horizon.namers.length ≤
          horizon.promised shelf ((name, definition.expression), interpreter) := by
    have isKept : ((shelf.amend name (Definition.keeping interpreter value)).result? name
        interpreter).isSome = true := by
      rw [Shelf.result?, kept, List.lookup_append, ← Shelf.result?, absent, Option.none_or,
        List.lookup_cons_self]
      rfl
    rw [promised, if_pos isKept, promised, absent, Nat.zero_add]
    exact Nat.le_refl _
  have taken := sum_map_add_le fewer (mem_uses isMember isInterpreter) own
  unfold reserve
  rw [samePending, sameCells]
  omega

end Horizon

end SchemaSignature.Program
