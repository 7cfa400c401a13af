import SchemaSignature.Proofs.Program.Conduct
import SchemaSignature.Proofs.Program.Occurrences
import SchemaSignature.Proofs.Signature.Construction

/-!
What evaluating an expression does. It passes through a history of occurrences, it gives results to
definitions that the expression is in need of only, and the lazy leaves of the value that it builds
have been made for its interpreter, fetched or found. The proof is an induction on how deeply
definitions use one another, and for each depth on the expression.
-/

namespace SchemaSignature.Program

theorem tolerant_idles :
    Tolerant fun before after : Desk Cell Shelf => before.own.Idles after.own where
  refl _ := .of_definitions rfl List.prefix_rfl
  trans first second :=
    { plans := fun name => (second.plans name).trans (first.plans name)
      results := fun name => (second.results name).trans (first.results name)
      bodies := first.bodies.trans second.bodies }
  shelf _ _ widens := .of_definitions widens.definitions widens.bodies
  store _ _ _ := .of_definitions rfl List.prefix_rfl

/-- Work of an interpreter that evaluates the given definitions and fetches the given stored values.
Besides those that are made, fetched or found on the way, the result has only the given leaves. -/
def Evaluates
    (interpreter : Nat) (names fetched : List String) (given : List Cell) {result : Type}
    (cells : result → List Cell) (work : ProgramWork result) : Prop :=
  ∀ desk, (∀ stored ∈ fetched, desk.own.Fetches stored) →
    ∃ history, Passes history desk (work.runOn desk).2 ∧
    Shelf.Fills interpreter names desk.own (work.runOn desk).2.own ∧
    ∀ value, (work.runOn desk).1 = .ok value →
      (∀ used ∈ names, desk.own.Grounded interpreter used) ∧
      ∀ cell ∈ cells value, cell ∈ given ∨
        Drawn interpreter history desk.own (work.runOn desk).2.own cell

/-- Work whose result has only certain leaves. -/
def Gives {result : Type} (given : List Cell) (cells : result → List Cell)
    (work : ProgramWork result) : Prop :=
  ∀ desk value, (work.runOn desk).1 = .ok value → cells value ⊆ given

section Work

variable {interpreter : Nat} {names others fetched fetchedLater : List String} {given : List Cell}
  {first second : Type} {cells : first → List Cell} {cellsLater : second → List Cell}
  {work : ProgramWork first} {next : first → ProgramWork second}

theorem Evaluates.of_idles
    (idles : Work.Keeps (fun before after => before.own.Idles after.own) work)
    (gives : Gives given cells work) : Evaluates interpreter [] [] given cells work := by
  intro desk _
  refine ⟨[], .idle (idles desk), (idles desk).fills, fun value ran => ⟨?_, ?_⟩⟩
  · intro used isUsed
    cases isUsed
  · exact fun cell isLeaf => Or.inl (gives desk value ran isLeaf)

theorem Evaluates.throw (failure : Failure) :
    Evaluates interpreter names fetched given cells (throw failure) := by
  intro desk _
  refine ⟨[], .idle (tolerant_idles.throw failure desk), (tolerant_idles.throw failure desk).fills,
    fun value ran => ?_⟩
  cases ran

theorem Evaluates.bind
    (earlier : Evaluates interpreter names fetched given cells work)
    (later : ∀ value,
      Evaluates interpreter others fetchedLater (given ++ cells value) cellsLater (next value)) :
    Evaluates interpreter (names ++ others) (fetched ++ fetchedLater) given cellsLater
      (work >>= next) := by
  intro desk fetches
  obtain ⟨history, passes, fills, sound⟩ :=
    earlier desk fun stored isFetched => fetches stored (List.mem_append_left _ isFetched)
  rcases ran : work.runOn desk with ⟨outcome, middle⟩
  rw [ran] at passes fills sound
  cases outcome with
  | error failure =>
      rw [Work.runOn_bind_of_error ran]
      refine ⟨history, passes, fills.mono (List.subset_append_left names others), ?_⟩
      intro value impossible
      cases impossible
  | ok value =>
      obtain ⟨grounded, drawn⟩ := sound value rfl
      have fetchesLater : ∀ stored ∈ fetchedLater, middle.own.Fetches stored :=
        fun stored isFetched =>
          (fetches stored (List.mem_append_right _ isFetched)).of_plans fills.plans
      obtain ⟨rest, passesLater, fillsLater, soundLater⟩ := later value middle fetchesLater
      rw [Work.runOn_bind_of_ok ran]
      refine ⟨history ++ rest, passes.andThen passesLater, fills.trans fillsLater, ?_⟩
      intro result ranLater
      obtain ⟨groundedLater, drawnLater⟩ := soundLater result ranLater
      refine ⟨fun used isUsed => ?_, fun cell isLeaf => ?_⟩
      · rcases List.mem_append.mp isUsed with isUsed | isUsed
        · exact grounded used isUsed
        · exact fills.grounded (groundedLater used isUsed)
      · rcases drawnLater cell isLeaf with isKnown | isDrawn
        · rcases List.mem_append.mp isKnown with isGiven | isEarlier
          · exact Or.inl isGiven
          · exact (drawn cell isEarlier).imp_right fun isDrawn =>
              isDrawn.ahead passesLater.bodies
        · exact Or.inr (isDrawn.behind passes.bodies)

/-- Work after which nothing more is evaluated. -/
theorem Evaluates.bind_last
    (earlier : Evaluates interpreter names fetched given cells work)
    (later : ∀ value, Evaluates interpreter [] [] (given ++ cells value) cellsLater (next value)) :
    Evaluates interpreter names fetched given cellsLater (work >>= next) := by
  have whole := earlier.bind later
  rwa [List.append_nil, List.append_nil] at whole

theorem Evaluates.mono
    {more : List Cell} (evaluates : Evaluates interpreter names fetched given cells work)
    (known : given ⊆ more) : Evaluates interpreter names fetched more cells work := by
  intro desk fetches
  obtain ⟨history, passes, fills, sound⟩ := evaluates desk fetches
  exact ⟨history, passes, fills, fun value ran => ⟨(sound value ran).1, fun cell isLeaf =>
    ((sound value ran).2 cell isLeaf).imp_left fun isGiven => known isGiven⟩⟩

theorem Gives.pure {value : first} (known : cells value ⊆ given) :
    Gives given cells (pure value : ProgramWork first) := by
  rintro _ _ ⟨⟩
  exact known

theorem Gives.throw (failure : Failure) :
    Gives given cells (throw failure : ProgramWork first) := by
  rintro _ _ ⟨⟩

theorem Gives.nothing : Gives given (fun _ => []) work :=
  fun _ _ _ => List.nil_subset given

theorem Evaluates.pure {value : first} (known : cells value ⊆ given) :
    Evaluates interpreter [] [] given cells (pure value) :=
  .of_idles (tolerant_idles.pure value) (.pure known)

end Work

section Find

variable {content : Type} {table : Shelf → List (String × content)} {name : String}
  {desk : Desk Cell Shelf}

theorem runOn_find_of_present
    {found : content} (present : Table.find? (· == name) (table desk.own) = some found) :
    (Shelf.find table name).runOn desk = (.ok found, desk) := by
  have looked : Shelf.current.runOn desk = (.ok desk.own, desk) := rfl
  rw [Shelf.find, Work.runOn_bind_of_ok looked, present]
  rfl

theorem runOn_find_of_absent (absent : Table.find? (· == name) (table desk.own) = none) :
    (Shelf.find table name).runOn desk = (.error .undefined, desk) := by
  have looked : Shelf.current.runOn desk = (.ok desk.own, desk) := rfl
  rw [Shelf.find, Work.runOn_bind_of_ok looked, absent]
  rfl

theorem runOn_find_self (table : Shelf → List (String × content)) (name : String)
    (desk : Desk Cell Shelf) : ((Shelf.find table name).runOn desk).2 = desk := by
  cases present : Table.find? (· == name) (table desk.own) with
  | some found => rw [runOn_find_of_present present]
  | none => rw [runOn_find_of_absent present]

/-- What is found in a table is in it. -/
theorem mem_of_runOn_find
    {found : content} (ran : ((Shelf.find table name).runOn desk).1 = .ok found) :
    ∃ entry ∈ table desk.own, entry.2 = found := by
  cases present : Table.find? (· == name) (table desk.own) with
  | some other =>
      rw [runOn_find_of_present present] at ran
      cases ran
      exact Table.exists_mem_of_find? present
  | none =>
      rw [runOn_find_of_absent present] at ran
      cases ran

theorem runOn_interpreterAt_of_present
    {interpreter : Nat} {found : Interpreter}
    (present : desk.own.interpreters[interpreter]? = some found) :
    (Shelf.interpreterAt interpreter).runOn desk = (.ok found, desk) := by
  have looked : Shelf.current.runOn desk = (.ok desk.own, desk) := rfl
  rw [Shelf.interpreterAt, Work.runOn_bind_of_ok looked, present]
  rfl

theorem runOn_interpreterAt_of_absent
    {interpreter : Nat} (absent : desk.own.interpreters[interpreter]? = none) :
    (Shelf.interpreterAt interpreter).runOn desk = (.error .undefined, desk) := by
  have looked : Shelf.current.runOn desk = (.ok desk.own, desk) := rfl
  rw [Shelf.interpreterAt, Work.runOn_bind_of_ok looked, absent]
  rfl

end Find

section Values

variable {interpreter : Nat} {given : List Cell}

theorem runOn_newValue (content : Operand Cell) (desk : Desk Cell Shelf) :
    (Shelf.newValue content).runOn desk =
      (.ok ⟨some desk.own.marks, content⟩,
        { desk with own := { desk.own with marks := desk.own.marks + 1 } }) :=
  rfl

theorem gives_newValue {content : Operand Cell} (known : content.keys ⊆ given) :
    Gives given Value.cells (Shelf.newValue content) := by
  intro desk value ran
  rw [runOn_newValue] at ran
  cases ran
  exact known

theorem gives_construct
    (found : Interpreter) {node : Except Failure (Node Cell)} {text : Option String}
    (known : ∀ made, node = .ok made → made.keys ⊆ given) :
    Gives given Value.cells (found.construct node text) := by
  unfold Interpreter.construct
  repeat' split
  all_goals first
    | exact .throw _
    | exact gives_newValue (known _ rfl)
    | exact gives_newValue (List.nil_subset given)

theorem gives_primitive (found : Interpreter) (kind : Primitive) :
    Gives given Value.cells (found.primitive kind) := by
  unfold Interpreter.primitive
  split
  · exact .pure (List.nil_subset given)
  · exact .pure (List.nil_subset given)
  · exact .pure (List.nil_subset given)
  · exact .throw _

theorem evaluates_interpreted
    {names fetched : List String} {result : Type} {cells : result → List Cell}
    {work : Interpreter → ProgramWork result}
    (evaluates : ∀ found, Evaluates interpreter names fetched given cells (work found)) :
    Evaluates interpreter names fetched given cells
      (do work (← Shelf.interpreterAt interpreter)) := by
  have looked : Evaluates interpreter [] [] given (fun _ => [])
      (Shelf.interpreterAt interpreter) :=
    .of_idles (tolerant_idles.interpreterAt interpreter) .nothing
  refine looked.bind fun found => ?_
  rw [List.append_nil]
  exact evaluates found

/-- A constructor is applied to parts that are there. -/
theorem evaluates_construct
    {node : Except Failure (Node Cell)} {text : Option String}
    (known : ∀ made, node = .ok made → made.keys ⊆ given) :
    Evaluates interpreter [] [] given Value.cells
      (do (← Shelf.interpreterAt interpreter).construct node text) :=
  evaluates_interpreted fun found =>
    .of_idles (tolerant_idles.construct found node text) (gives_construct found known)

/-- A lazy node is made for the interpreter of its body. -/
theorem evaluates_lazyNode (found : Interpreter) (namer : Option Nat) (expression : Expression) :
    Evaluates interpreter [] [] given Value.cells
      (found.lazyNode namer (.ok { expression := expression, interpreter := interpreter })) := by
  have made (bound : Option Nat) : Evaluates interpreter [] [] given Value.cells (do
      Shelf.newValue (.node (.lazy (.built
        (← Shelf.addBody { expression := expression, interpreter := interpreter }) bound)))) := by
    intro desk _
    have idles : desk.own.Idles
        { desk.own with
          bodies := desk.own.bodies ++ [{ expression := expression, interpreter := interpreter }]
          marks := desk.own.marks + 1 } :=
      .of_definitions rfl (List.prefix_append _ _)
    refine ⟨[], .idle idles, idles.fills, ?_⟩
    rintro value ⟨⟩
    refine ⟨fun _ isUsed => absurd isUsed List.not_mem_nil, fun cell isLeaf => Or.inr ?_⟩
    cases List.mem_singleton.mp isLeaf
    exact .made (Nat.le_refl _) List.getElem?_concat_length rfl
  cases found with
  | standard => exact made namer
  | bound own =>
      unfold Interpreter.lazyNode
      simp only
      split
      · exact .throw _
      · exact made (some own)
  | toy uri lasting => exact .throw _
  | bare lasting => exact .throw _

theorem evaluates_lazyOf (found : Interpreter) (namer : Option Nat) (failure : Failure) :
    Evaluates interpreter [] [] given Value.cells (found.lazyNode namer (.error failure)) := by
  cases found with
  | bound own =>
      unfold Interpreter.lazyNode
      simp only
      split
      · exact .throw _
      · exact .throw failure
  | _ => exact .throw _

theorem evaluates_namerOf? (name : Option String) :
    Evaluates interpreter [] [] given (fun _ => []) (namerOf? name) :=
  .of_idles (tolerant_idles.namerOf? name) .nothing

theorem evaluates_stored (name : String) :
    Evaluates interpreter [] [name] given Value.cells (Shelf.find Shelf.values name) := by
  intro desk fetches
  have idles := tolerant_idles.refl desk
  cases present : Table.find? (· == name) desk.own.values with
  | none =>
      rw [runOn_find_of_absent present]
      refine ⟨[], .idle idles, idles.fills, ?_⟩
      intro value impossible
      cases impossible
  | some value =>
      rw [runOn_find_of_present present]
      have isFetched := fetches name (List.mem_singleton_self name)
      refine ⟨[.fetched interpreter value], .fetched interpreter present isFetched, idles.fills, ?_⟩
      rintro _ ⟨⟩
      refine ⟨fun _ isUsed => absurd isUsed List.not_mem_nil, fun cell isLeaf => Or.inr ?_⟩
      exact .fetched (List.mem_singleton_self _) isLeaf

end Values

/-! ## Expressions -/

/-- The lazy leaves of the parts of a node. -/
def cellsOfMembers (members : List Value) : List Cell :=
  members.flatMap Value.cells

/-- The lazy leaves of the contents of a table. -/
def cellsOfEntries (entries : List (Json × Value)) : List Cell :=
  entries.flatMap fun entry => entry.2.cells

theorem cellsOfEntries_set_subset (table : List (Json × Value)) (key : Json) (value : Value) :
    cellsOfEntries (Table.set Json.equal key value table) ⊆ cellsOfEntries table ++ value.cells := by
  intro cell isLeaf
  obtain ⟨entry, isEntry, isLeaf⟩ := List.mem_flatMap.mp isLeaf
  rcases Table.mem_set isEntry with isOld | isNew
  · exact List.mem_append_left _ (List.mem_flatMap.mpr ⟨entry, isOld, isLeaf⟩)
  · exact List.mem_append_right _ (isNew ▸ isLeaf)

theorem keys_operandEntries (table : List (Json × Value)) :
    ((operandEntries table).flatMap fun entry => entry.2.keys) = cellsOfEntries table := by
  rw [operandEntries, List.flatMap_map]
  rfl

theorem ListConstructor.keys_node
    {kind : ListConstructor} {members : List (Operand Cell)} {node : Node Cell}
    (made : kind.node members = .ok node) : node.keys = members.flatMap Operand.keys := by
  cases kind with
  | tuple => exact Construction.keys_tuple made
  | intersection => exact Construction.keys_intersection made
  | union => exact Construction.keys_union made

/-- The elements of a plain value have no lazy leaves. -/
theorem keys_operandsOf
    {value : Json} {members : List (Operand Cell)} (listed : operandsOf value = .ok members) :
    members.flatMap Operand.keys = [] := by
  unfold operandsOf at listed
  split at listed
  · cases listed
    rw [List.flatMap_map, List.flatMap_eq_nil_iff]
    intro item _
    rfl
  · cases listed

section Expressions

variable {call : String → Nat → ProgramWork Value} {interpreter : Nat}

mutual

theorem evaluates_build
    (calls : ∀ name, Evaluates interpreter [name] [] [] Value.cells (call name interpreter)) :
    (expression : Expression) →
      Evaluates interpreter expression.uses expression.fetches [] Value.cells
        (expression.build call interpreter)
  | .primitive kind => by
      rw [Expression.build]
      exact evaluates_interpreted fun found =>
        .of_idles (tolerant_idles.primitive found kind) (gives_primitive found kind)
  | .null | .raw _ => by
      rw [Expression.build]
      exact .pure (List.nil_subset [])
  | .stored name => by
      rw [Expression.build]
      exact evaluates_stored name
  | .defined name => by
      rw [Expression.build]
      exact calls name
  | .constant _ | .probe _ => by
      rw [Expression.build]
      exact .of_idles (tolerant_idles.newValue _) (gives_newValue (List.nil_subset []))
  | .produced _ => by
      rw [Expression.build]
      exact .throw _
  | .literals values => by
      rw [Expression.build]
      refine evaluates_construct fun made isMade => ?_
      obtain ⟨_, _, isMade⟩ := Outcome.bind_eq_ok_iff.mp isMade
      rw [Construction.keys_literals isMade]
      exact List.nil_subset []
  | .literalsOr values fallback => by
      rw [Expression.build, Expression.uses, Expression.fetches]
      refine (evaluates_build calls fallback).bind_last fun other => ?_
      refine evaluates_construct fun made isMade => ?_
      obtain ⟨_, _, isMade⟩ := Outcome.bind_eq_ok_iff.mp isMade
      rw [Construction.keys_literalsOr isMade]
      exact List.subset_append_right [] _
  | .fields presence entries => by
      rw [Expression.build, Expression.uses, Expression.fetches]
      refine (evaluates_buildEntries calls [] entries).bind_last fun table => ?_
      refine evaluates_construct fun made isMade => ?_
      rw [Construction.keys_fields isMade, keys_operandEntries]
      exact List.subset_append_right _ _
  | .container kind element => by
      rw [Expression.build, Expression.uses, Expression.fetches]
      refine (evaluates_build calls element).bind_last fun inner => ?_
      refine evaluates_construct fun made isMade => ?_
      rw [Construction.keys_container isMade]
      exact List.subset_append_right [] _
  | .list kind members => by
      rw [Expression.build, Expression.uses, Expression.fetches]
      refine (evaluates_buildAll calls members).bind_last fun built => ?_
      refine evaluates_construct fun made isMade => ?_
      rw [ListConstructor.keys_node isMade, List.flatMap_map]
      exact List.subset_append_right [] _
  | .listOf kind members => by
      rw [Expression.build]
      refine evaluates_construct fun made isMade => ?_
      obtain ⟨operands, listed, isMade⟩ := Outcome.bind_eq_ok_iff.mp isMade
      rw [ListConstructor.keys_node isMade, keys_operandsOf listed]
      exact List.nil_subset []
  | .sum tag members => by
      rw [Expression.build, Expression.uses, Expression.fetches]
      refine (evaluates_buildEntries calls [] members).bind_last fun table => ?_
      refine evaluates_construct fun made isMade => ?_
      rw [Construction.keys_sum isMade, List.flatMap_map]
      exact List.subset_append_right _ _
  | .lazy body namer => by
      rw [Expression.build]
      refine (evaluates_namerOf? namer).bind fun bound => ?_
      exact evaluates_interpreted fun found => evaluates_lazyNode found bound body
  | .lazyOf producer namer => by
      rw [Expression.build]
      refine (evaluates_namerOf? namer).bind fun bound => ?_
      exact evaluates_interpreted fun found => evaluates_lazyOf found bound _

theorem evaluates_buildAll
    (calls : ∀ name, Evaluates interpreter [name] [] [] Value.cells (call name interpreter)) :
    (expressions : List Expression) →
      Evaluates interpreter (Expression.usesOfMembers expressions)
        (Expression.fetchesOfMembers expressions) [] cellsOfMembers
        (Expression.buildAll call interpreter expressions)
  | [] => by
      rw [Expression.buildAll]
      exact .pure (List.nil_subset [])
  | expression :: rest => by
      rw [Expression.buildAll, Expression.usesOfMembers, Expression.fetchesOfMembers]
      refine (evaluates_build calls expression).bind fun first => ?_
      refine ((evaluates_buildAll calls rest).mono (List.nil_subset _)).bind_last fun others => ?_
      exact .pure fun cell isLeaf => isLeaf

theorem evaluates_buildEntries
    (calls : ∀ name, Evaluates interpreter [name] [] [] Value.cells (call name interpreter))
    (table : List (Json × Value)) :
    (entries : List (Json × Expression)) →
      Evaluates interpreter (Expression.usesOfEntries entries)
        (Expression.fetchesOfEntries entries) (cellsOfEntries table) cellsOfEntries
        (Expression.buildEntries call interpreter table entries)
  | [] => by
      rw [Expression.buildEntries]
      exact .pure fun cell isLeaf => isLeaf
  | (key, expression) :: rest => by
      rw [Expression.buildEntries, Expression.usesOfEntries, Expression.fetchesOfEntries]
      refine ((evaluates_build calls expression).mono (List.nil_subset _)).bind fun value => ?_
      split
      · exact (evaluates_buildEntries calls _ rest).mono (cellsOfEntries_set_subset table key value)
      · exact .throw _

end

end Expressions

/-! ## Definitions -/

section Calls

variable {depth interpreter : Nat} {name : String} {definition : Definition}
  {desk after : Desk Cell Shelf} {value : Value} {failure : Failure}

theorem runOn_call_of_undefined (absent : desk.own.definition? name = none) :
    (call (depth + 1) name interpreter).runOn desk = (.error .undefined, desk) := by
  rw [call, Work.runOn_bind_of_error (runOn_find_of_absent absent)]

/-- A definition that keeps a result for an interpreter returns it, and nothing happens. -/
theorem runOn_call_of_kept
    (present : desk.own.definition? name = some definition)
    (kept : desk.own.result? name interpreter = some value) :
    (call (depth + 1) name interpreter).runOn desk = (.ok value, desk) := by
  rw [Shelf.result?, Shelf.resultsOf_of_definition present] at kept
  rw [call, Work.runOn_bind_of_ok (runOn_find_of_present present), kept]
  rfl

/-- A definition that keeps no result for an interpreter is evaluated. -/
theorem runOn_call_of_absent
    (present : desk.own.definition? name = some definition)
    (absent : desk.own.result? name interpreter = none) :
    (call (depth + 1) name interpreter).runOn desk =
      Work.runOn (do
        let value ← definition.expression.build (call depth) interpreter
        if definition.keepsResults then
          let evaluated ← Shelf.find Shelf.definitions name
          Shelf.putDefinition name
            { evaluated with results := evaluated.results ++ [(interpreter, value)] }
        pure value) (begunOn name desk) := by
  have begun : (Shelf.putDefinition name
      { definition with calls := definition.calls + 1 }).runOn desk =
        (.ok (), begunOn name desk) := by
    rw [begunOn, Shelf.amend, present]
    rfl
  rw [Shelf.result?, Shelf.resultsOf_of_definition present] at absent
  rw [call, Work.runOn_bind_of_ok (runOn_find_of_present present), absent]
  exact Work.runOn_bind_of_ok begun

theorem runOn_call_of_error
    (present : desk.own.definition? name = some definition)
    (absent : desk.own.result? name interpreter = none)
    (ran : (definition.expression.build (call depth) interpreter).runOn (begunOn name desk) =
      (.error failure, after)) :
    (call (depth + 1) name interpreter).runOn desk = (.error failure, after) := by
  rw [runOn_call_of_absent present absent, Work.runOn_bind_of_error ran]

theorem runOn_call_of_plain
    (present : desk.own.definition? name = some definition)
    (absent : desk.own.result? name interpreter = none)
    (plain : definition.keepsResults = false)
    (ran : (definition.expression.build (call depth) interpreter).runOn (begunOn name desk) =
      (.ok value, after)) :
    (call (depth + 1) name interpreter).runOn desk = (.ok value, after) := by
  rw [runOn_call_of_absent present absent, Work.runOn_bind_of_ok ran, plain]
  rfl

theorem runOn_call_of_ok
    (present : desk.own.definition? name = some definition)
    (absent : desk.own.result? name interpreter = none)
    (keeps : definition.keepsResults = true)
    (ran : (definition.expression.build (call depth) interpreter).runOn (begunOn name desk) =
      (.ok value, after))
    {later : Definition} (still : after.own.definition? name = some later) :
    (call (depth + 1) name interpreter).runOn desk =
      (.ok value, keptOn name interpreter value after) := by
  have put : (Shelf.putDefinition name
      { later with results := later.results ++ [(interpreter, value)] }).runOn after =
        (.ok (), keptOn name interpreter value after) := by
    rw [keptOn, Shelf.amend, still]
    rfl
  rw [runOn_call_of_absent present absent, Work.runOn_bind_of_ok ran, if_pos keeps,
    Work.runOn_bind_of_ok (runOn_find_of_present still)]
  exact Work.runOn_bind_of_ok put

end Calls

/-- A definition that is evaluated is there, and so it fetches what its expression refers to. -/
theorem fetches_begunOn
    {name : String} {definition : Definition} {desk : Desk Cell Shelf}
    (present : desk.own.definition? name = some definition) :
    ∀ stored ∈ definition.expression.fetches, (begunOn name desk).own.Fetches stored := by
  intro stored isFetched
  have made : (desk.own.definition? name).map Definition.plan = some definition.plan := by
    rw [present, Option.map_some]
  have fetches : desk.own.Fetches stored := ⟨name, definition.plan, made, isFetched⟩
  exact fetches.of_plans (Shelf.idles_counted desk.own name).plans

/-- What the evaluation of a definition without a result comes to. -/
theorem evaluates_absent
    {depth interpreter : Nat} {name : String} {definition : Definition} {desk : Desk Cell Shelf}
    (calls : ∀ name, Evaluates interpreter [name] [] [] Value.cells (call depth name interpreter))
    (present : desk.own.definition? name = some definition)
    (absent : desk.own.result? name interpreter = none) :
    ∃ history, Passes history desk ((call (depth + 1) name interpreter).runOn desk).2 ∧
      Shelf.Fills interpreter [name] desk.own
        ((call (depth + 1) name interpreter).runOn desk).2.own ∧
      ∀ value, ((call (depth + 1) name interpreter).runOn desk).1 = .ok value →
        (∀ used ∈ [name], desk.own.Grounded interpreter used) ∧
        ∀ cell ∈ value.cells, cell ∈ [] ∨
          Drawn interpreter history desk.own
            ((call (depth + 1) name interpreter).runOn desk).2.own cell := by
  have idles : desk.own.Idles (begunOn name desk).own := Shelf.idles_counted desk.own name
  obtain ⟨history, passes, fills, sound⟩ :=
    evaluates_build calls definition.expression (begunOn name desk) (fetches_begunOn present)
  rcases ran : (definition.expression.build (call depth) interpreter).runOn (begunOn name desk)
    with ⟨outcome, after⟩
  rw [ran] at passes fills sound
  have begins : Shelf.Fills interpreter [] desk.own (begunOn name desk).own := idles.fills
  have whole : Shelf.Fills interpreter definition.expression.uses desk.own after.own :=
    begins.trans fills
  cases outcome with
  | error failure =>
      rw [runOn_call_of_error present absent ran]
      have noValue (value : Value) : (Except.error failure : Except Failure Value) ≠ .ok value :=
        fun impossible => by cases impossible
      cases keeps : definition.keepsResults with
      | true =>
          exact ⟨_, .raised present keeps absent ran passes, whole.evaluated present absent,
            fun value impossible => (noValue value impossible).elim⟩
      | false =>
          exact ⟨_, .andThen (.idle idles) passes, whole.evaluated present absent,
            fun value impossible => (noValue value impossible).elim⟩
  | ok value =>
      have grounded : ∀ used ∈ definition.expression.uses, desk.own.Grounded interpreter used :=
        fun used isUsed => begins.grounded ((sound value rfl).1 used isUsed)
      have drawn : ∀ cell ∈ value.cells, Drawn interpreter history desk.own after.own cell := by
        intro cell isLeaf
        rcases (sound value rfl).2 cell isLeaf with impossible | isDrawn
        · cases impossible
        · have sinceBegun : Drawn interpreter ([] ++ history) desk.own after.own cell :=
            isDrawn.behind idles.bodies
          exact sinceBegun
      have ends : ∀ used ∈ [name], desk.own.Grounded interpreter used := by
        intro used isUsed
        cases List.mem_singleton.mp isUsed
        exact Shelf.grounded_of_uses present grounded
      cases keeps : definition.keepsResults with
      | true =>
          obtain ⟨later, still, _⟩ := whole.definition? present
          rw [runOn_call_of_ok present absent keeps ran still]
          refine ⟨_, .completed present keeps absent ran passes drawn,
            whole.kept present absent grounded value, ?_⟩
          rintro _ ⟨⟩
          refine ⟨ends, fun cell isLeaf => Or.inr ?_⟩
          have bodies : after.own.bodies <+: (keptOn name interpreter value after).own.bodies :=
            Shelf.bodies_extended_amend
          have sinceBegun : Drawn interpreter ([.begun name interpreter] ++ history) desk.own
              after.own cell :=
            (drawn cell isLeaf).behind List.prefix_rfl
          exact sinceBegun.ahead bodies
      | false =>
          rw [runOn_call_of_plain present absent keeps ran]
          refine ⟨_, .andThen (.idle idles) passes, whole.evaluated present absent, ?_⟩
          rintro _ ⟨⟩
          exact ⟨ends, fun cell isLeaf => Or.inr (drawn cell isLeaf)⟩

/-- Evaluating a definition, whether its result is kept or not. -/
theorem evaluates_call (depth : Nat) (name : String) (interpreter : Nat) :
    Evaluates interpreter [name] [] [] Value.cells (call depth name interpreter) := by
  induction depth generalizing name with
  | zero => exact .throw _
  | succ depth inductionHypothesis =>
      intro desk _
      cases present : desk.own.definition? name with
      | none =>
          have idles := tolerant_idles.refl desk
          rw [runOn_call_of_undefined present]
          refine ⟨[], .idle idles, idles.fills, ?_⟩
          intro value impossible
          cases impossible
      | some definition =>
          cases kept : desk.own.result? name interpreter with
          | some value =>
              rw [runOn_call_of_kept present kept]
              refine ⟨[.found name interpreter value], .found kept, (tolerant_idles.refl desk).fills,
                ?_⟩
              rintro _ ⟨⟩
              refine ⟨fun used isUsed => ?_, fun cell isLeaf => Or.inr ?_⟩
              · cases List.mem_singleton.mp isUsed
                exact Shelf.grounded_of_result kept
              · exact .found (List.mem_singleton_self _) isLeaf
          | none => exact evaluates_absent inductionHypothesis present kept

end SchemaSignature.Program
