import SchemaSignature.Proofs.Program.Binding
import SchemaSignature.Proofs.Program.Ownership

/-!
The bodies of lazy leaves. A lazy leaf is made together with its body, and a name is given only to a
leaf that a rendering has come across. So in whatever state a program leaves the desk, the leaves of
the stored values, of the results that definitions keep and of the names have their bodies, and the
first interpreter is still the standard one.
-/

namespace SchemaSignature.Program

/-- A lazy leaf that an expression has built has a body. -/
def Shelf.HasBody (shelf : Shelf) (cell : Cell) : Prop :=
  ∀ index bound, cell = .built index bound → index < shelf.bodies.length

theorem Shelf.HasBody.mono
    {before after : Shelf} {cell : Cell} (hasBody : before.HasBody cell)
    (bodies : before.bodies <+: after.bodies) : after.HasBody cell :=
  fun index bound isBuilt => Nat.lt_of_lt_of_le (hasBody index bound isBuilt) bodies.length_le

theorem Shelf.hasBody_alone (shelf : Shelf) (index : Nat) : shelf.HasBody (.alone index) :=
  nofun

theorem Shelf.hasBody_reference
    (shelf : Shelf) (document : Nat) (target : String) (bound : Option Nat) :
    shelf.HasBody (.reference document target bound) :=
  nofun

/-- Every lazy leaf that is stored, kept or named has its body, and the first interpreter is the
standard one. -/
structure Complete (names : List (Cell × String)) (shelf : Shelf) : Prop where
  values : ∀ entry ∈ shelf.values, ∀ cell ∈ entry.2.cells, shelf.HasBody cell
  results : ∀ name, ∀ entry ∈ shelf.resultsOf name, ∀ cell ∈ entry.2.cells, shelf.HasBody cell
  names : ∀ entry ∈ names, shelf.HasBody entry.1
  standard : shelf.interpreters[standardInterpreter]? = some .standard

/-- If nothing lacks a body before, nothing does afterwards, and no body is lost. -/
def StaysComplete (desk after : Desk Cell Shelf) : Prop :=
  Complete desk.names desk.own →
    desk.own.bodies <+: after.own.bodies ∧ Complete after.names after.own

section Complete

variable {names : List (Cell × String)} {before after : Shelf}

theorem Complete.widened (complete : Complete names before) (widens : before.Widens after) :
    Complete names after where
  values entry isEntry cell isLeaf :=
    (complete.values entry (widens.values ▸ isEntry) cell isLeaf).mono widens.bodies
  results name entry isEntry cell isLeaf := by
    rw [Shelf.resultsOf, Shelf.definition?, widens.definitions] at isEntry
    exact (complete.results name entry isEntry cell isLeaf).mono widens.bodies
  names entry isEntry := (complete.names entry isEntry).mono widens.bodies
  standard := by
    obtain ⟨rest, extended⟩ := widens.interpreters
    have inRange := (List.getElem?_eq_some_iff.mp complete.standard).1
    rw [← extended, List.getElem?_append_left inRange]
    exact complete.standard

/-- Definitions may change as long as their results have their bodies. -/
theorem Complete.redefined
    (complete : Complete names before) (definitions : List (String × Definition))
    (results : ∀ name, ∀ entry ∈ { before with definitions := definitions }.resultsOf name,
      ∀ cell ∈ entry.2.cells, before.HasBody cell) :
    Complete names { before with definitions := definitions } where
  values := complete.values
  results := results
  names := complete.names
  standard := complete.standard

theorem Complete.amended
    (complete : Complete names before) {name : String} {change : Definition → Definition}
    (results : ∀ other, ∀ entry ∈ (before.amend name change).resultsOf other,
      ∀ cell ∈ entry.2.cells, before.HasBody cell) :
    Complete names (before.amend name change) := by
  obtain ⟨definitions, amended⟩ := Shelf.exists_amend before name change
  rw [amended] at results ⊢
  exact complete.redefined definitions results

theorem Complete.kept
    (complete : Complete names before) (name : String) (interpreter : Nat) {value : Value}
    (known : ∀ cell ∈ value.cells, before.HasBody cell) :
    Complete names (before.amend name (Definition.keeping interpreter value)) := by
  refine complete.amended fun other entry isEntry cell isLeaf => ?_
  rcases Shelf.mem_resultsOf_amend_keeping isEntry with isOld | rfl
  · exact complete.results other entry isOld cell isLeaf
  · exact known cell isLeaf

theorem Complete.counted (complete : Complete names before) (name : String) :
    Complete names (before.amend name Definition.counted) := by
  refine complete.amended fun other entry isEntry => ?_
  rw [Shelf.resultsOf_amend_counted] at isEntry
  exact complete.results other entry isEntry

theorem Complete.named
    (complete : Complete names before) {leaf : Cell} (hasBody : before.HasBody leaf)
    (name : String) : Complete (names ++ [(leaf, name)]) before where
  values := complete.values
  results := complete.results
  names entry isEntry := by
    rcases List.mem_append.mp isEntry with isOld | isNew
    · exact complete.names entry isOld
    · cases List.mem_singleton.mp isNew
      exact hasBody
  standard := complete.standard

theorem lenient_staysComplete : Lenient StaysComplete where
  refl _ complete := ⟨List.prefix_rfl, complete⟩
  trans first second complete := by
    obtain ⟨bodies, completeMiddle⟩ := first complete
    obtain ⟨bodiesLater, completeAfter⟩ := second completeMiddle
    exact ⟨bodies.trans bodiesLater, completeAfter⟩
  shelf _ _ widens complete := ⟨widens.bodies, complete.widened widens⟩

theorem cumulative_staysComplete : Desk.Cumulative StaysComplete :=
  lenient_staysComplete.cumulative fun _ _ complete => ⟨List.prefix_rfl, complete⟩

end Complete

/-! ## Work with lazy leaves -/

/-- What has come of work on a desk: no body is lost, nothing lacks its body, and the leaves of the
result have theirs. -/
structure Provided {result : Type} (cells : result → List Cell) (desk : Desk Cell Shelf)
    (ran : Except Failure result × Desk Cell Shelf) : Prop where
  bodies : desk.own.bodies <+: ran.2.own.bodies
  complete : Complete ran.2.names ran.2.own
  leaves : ∀ value, ran.1 = .ok value → ∀ cell ∈ cells value, ran.2.own.HasBody cell

/-- Work on given leaves that leaves nothing without its body if those leaves have theirs. -/
def Provides {result : Type} (given : List Cell) (cells : result → List Cell)
    (work : ProgramWork result) : Prop :=
  ∀ desk, Complete desk.names desk.own → (∀ cell ∈ given, desk.own.HasBody cell) →
    Provided cells desk (work.runOn desk)

section Work

variable {given more : List Cell} {first second : Type} {cells : first → List Cell}
  {cellsLater : second → List Cell} {work : ProgramWork first}
  {next : first → ProgramWork second}

theorem Provides.of_keeps
    (keeps : Work.Keeps StaysComplete work) (gives : Gives given cells work) :
    Provides given cells work := by
  intro desk complete known
  obtain ⟨bodies, completeAfter⟩ := keeps desk complete
  exact ⟨bodies, completeAfter, fun value ran cell isLeaf =>
    (known cell (gives desk value ran isLeaf)).mono bodies⟩

theorem Provides.keeps (provides : Provides [] cells work) : Work.Keeps StaysComplete work := by
  intro desk complete
  obtain ⟨bodies, completeAfter, _⟩ := provides desk complete nofun
  exact ⟨bodies, completeAfter⟩

theorem Provides.mono (provides : Provides given cells work) (fewer : given ⊆ more) :
    Provides more cells work :=
  fun desk complete known => provides desk complete fun cell isGiven => known cell (fewer isGiven)

theorem Provides.pure {value : first} (known : cells value ⊆ given) :
    Provides given cells (pure value : ProgramWork first) :=
  .of_keeps (lenient_staysComplete.pure value) (.pure known)

theorem Provides.throw (failure : Failure) :
    Provides given cells (throw failure : ProgramWork first) :=
  .of_keeps (lenient_staysComplete.throw failure) (.throw failure)

theorem Provides.bind
    (provides : Provides given cells work)
    (providesLater : ∀ value, Provides (given ++ cells value) cellsLater (next value)) :
    Provides given cellsLater (work >>= next) := by
  intro desk complete known
  obtain ⟨bodies, completeMiddle, leaves⟩ := provides desk complete known
  rcases ran : work.runOn desk with ⟨outcome, middle⟩
  rw [ran] at bodies completeMiddle leaves
  cases outcome with
  | error failure =>
      rw [Work.runOn_bind_of_error ran]
      exact ⟨bodies, completeMiddle, nofun⟩
  | ok value =>
      rw [Work.runOn_bind_of_ok ran]
      have knownLater : ∀ cell ∈ given ++ cells value, middle.own.HasBody cell := by
        intro cell isGiven
        rcases List.mem_append.mp isGiven with isGiven | isLeaf
        · exact (known cell isGiven).mono bodies
        · exact leaves value rfl cell isLeaf
      obtain ⟨bodiesLater, completeAfter, leavesLater⟩ :=
        providesLater value middle completeMiddle knownLater
      exact ⟨bodies.trans bodiesLater, completeAfter, leavesLater⟩

/-- Work that comes after something that makes no leaves. -/
theorem Provides.after
    (keeps : Work.Keeps StaysComplete work)
    (providesLater : ∀ value, Provides given cellsLater (next value)) :
    Provides given cellsLater (work >>= next) := by
  have provides : Provides given (fun _ => []) work := .of_keeps keeps .nothing
  refine provides.bind fun value => ?_
  rw [List.append_nil]
  exact providesLater value

theorem Provides.compositional :
    Work.Compositional fun work : Unit → ProgramWork _ =>
      Provides given (fun _ => []) (work ()) where
  pure _ := .pure (List.nil_subset given)
  bind provides providesLater := provides.bind fun value => by
    rw [List.append_nil]
    exact providesLater value

theorem Provides.withActive
    (provides : Provides given cells work) (active : Option Nat) :
    Provides given cells (Work.withActive active work) := by
  intro desk complete known
  obtain ⟨bodies, completeAfter, leaves⟩ := provides { desk with active := active } complete known
  exact ⟨bodies, completeAfter, leaves⟩

end Work

/-! ## Evaluation -/

section Values

variable {interpreter : Nat} {given : List Cell}

theorem provides_construct
    {node : Except Failure (Node Cell)} {text : Option String}
    (known : ∀ made, node = .ok made → made.keys ⊆ given) :
    Provides given Value.cells
      (do (← Shelf.interpreterAt interpreter).construct node text) :=
  .after (lenient_staysComplete.interpreterAt interpreter) fun found =>
    .of_keeps (lenient_staysComplete.construct found node text) (gives_construct found known)

/-- A lazy node is made after its body. -/
theorem provides_built (body : Body) (bound : Option Nat) :
    Provides given Value.cells (do
      Shelf.newValue (.node (.lazy (.built (← Shelf.addBody body) bound)))) := by
  intro desk complete _
  have widens : desk.own.Widens
      { desk.own with bodies := desk.own.bodies ++ [body], marks := desk.own.marks + 1 } :=
    ⟨rfl, rfl, List.prefix_rfl, List.prefix_append _ _⟩
  refine ⟨widens.bodies, complete.widened widens, ?_⟩
  rintro _ ⟨⟩ cell isLeaf
  cases List.mem_singleton.mp isLeaf
  rintro _ _ ⟨⟩
  have inRange : desk.own.bodies.length < (desk.own.bodies ++ [body]).length := by
    rw [List.length_append]
    exact Nat.lt_succ_self _
  exact inRange

theorem provides_lazyNode
    (found : Interpreter) (namer : Option Nat) (body : Except Failure Body) :
    Provides given Value.cells (found.lazyNode namer body) := by
  cases found with
  | standard =>
      cases body with
      | ok body => exact provides_built body namer
      | error failure => exact .throw failure
  | bound own =>
      unfold Interpreter.lazyNode
      simp only
      split
      · exact .throw _
      · cases body with
        | ok body => exact provides_built body (some own)
        | error failure => exact .throw failure
  | toy uri lasting => exact .throw _
  | bare lasting => exact .throw _

theorem provides_stored (name : String) :
    Provides given Value.cells (Shelf.find Shelf.values name) := by
  intro desk complete _
  obtain ⟨bodies, completeAfter⟩ := lenient_staysComplete.find Shelf.values name desk complete
  refine ⟨bodies, completeAfter, fun value ran cell isLeaf => ?_⟩
  obtain ⟨entry, isEntry, rfl⟩ := mem_of_runOn_find ran
  exact (complete.values entry isEntry cell isLeaf).mono bodies

end Values

section Expressions

variable {call : String → Nat → ProgramWork Value} {interpreter : Nat}

mutual

theorem provides_build
    (calls : ∀ name, Provides [] Value.cells (call name interpreter)) :
    (expression : Expression) → Provides [] Value.cells (expression.build call interpreter)
  | .primitive kind => by
      rw [Expression.build]
      exact .after (lenient_staysComplete.interpreterAt interpreter) fun found =>
        .of_keeps (lenient_staysComplete.primitive found kind) (gives_primitive found kind)
  | .null | .raw _ => by
      rw [Expression.build]
      exact .pure (List.nil_subset [])
  | .stored name => by
      rw [Expression.build]
      exact provides_stored name
  | .defined name => by
      rw [Expression.build]
      exact calls name
  | .constant _ | .probe _ => by
      rw [Expression.build]
      exact .of_keeps (lenient_staysComplete.newValue _) (gives_newValue (List.nil_subset []))
  | .produced _ => by
      rw [Expression.build]
      exact .throw _
  | .literals values => by
      rw [Expression.build]
      refine provides_construct fun made isMade => ?_
      obtain ⟨_, _, isMade⟩ := Outcome.bind_eq_ok_iff.mp isMade
      rw [Construction.keys_literals isMade]
      exact List.nil_subset []
  | .literalsOr values fallback => by
      rw [Expression.build]
      refine (provides_build calls fallback).bind fun other => ?_
      refine provides_construct fun made isMade => ?_
      obtain ⟨_, _, isMade⟩ := Outcome.bind_eq_ok_iff.mp isMade
      rw [Construction.keys_literalsOr isMade]
      exact List.subset_append_right [] _
  | .fields presence entries => by
      rw [Expression.build]
      refine (provides_buildEntries calls [] entries).bind fun table => ?_
      refine provides_construct fun made isMade => ?_
      rw [Construction.keys_fields isMade, keys_operandEntries]
      exact List.subset_append_right _ _
  | .container kind element => by
      rw [Expression.build]
      refine (provides_build calls element).bind fun inner => ?_
      refine provides_construct fun made isMade => ?_
      rw [Construction.keys_container isMade]
      exact List.subset_append_right [] _
  | .list kind members => by
      rw [Expression.build]
      refine (provides_buildAll calls members).bind fun built => ?_
      refine provides_construct fun made isMade => ?_
      rw [ListConstructor.keys_node isMade, List.flatMap_map]
      exact List.subset_append_right [] _
  | .listOf kind members => by
      rw [Expression.build]
      refine provides_construct fun made isMade => ?_
      obtain ⟨operands, listed, isMade⟩ := Outcome.bind_eq_ok_iff.mp isMade
      rw [ListConstructor.keys_node isMade, keys_operandsOf listed]
      exact List.nil_subset []
  | .sum tag members => by
      rw [Expression.build]
      refine (provides_buildEntries calls [] members).bind fun table => ?_
      refine provides_construct fun made isMade => ?_
      rw [Construction.keys_sum isMade, List.flatMap_map]
      exact List.subset_append_right _ _
  | .lazy _ namer | .lazyOf _ namer => by
      rw [Expression.build]
      refine .after (lenient_staysComplete.namerOf? namer) fun bound => ?_
      exact .after (lenient_staysComplete.interpreterAt interpreter) fun found =>
        provides_lazyNode found bound _

theorem provides_buildAll
    (calls : ∀ name, Provides [] Value.cells (call name interpreter)) :
    (expressions : List Expression) →
      Provides [] cellsOfMembers (Expression.buildAll call interpreter expressions)
  | [] => by
      rw [Expression.buildAll]
      exact .pure (List.nil_subset [])
  | expression :: rest => by
      rw [Expression.buildAll]
      refine (provides_build calls expression).bind fun first => ?_
      refine ((provides_buildAll calls rest).mono (List.nil_subset _)).bind fun others => ?_
      exact .pure fun cell isLeaf => isLeaf

theorem provides_buildEntries
    (calls : ∀ name, Provides [] Value.cells (call name interpreter))
    (table : List (Json × Value)) :
    (entries : List (Json × Expression)) →
      Provides (cellsOfEntries table) cellsOfEntries
        (Expression.buildEntries call interpreter table entries)
  | [] => by
      rw [Expression.buildEntries]
      exact .pure fun cell isLeaf => isLeaf
  | (key, expression) :: rest => by
      rw [Expression.buildEntries]
      refine ((provides_build calls expression).mono (List.nil_subset _)).bind fun value => ?_
      split
      · exact (provides_buildEntries calls _ rest).mono (cellsOfEntries_set_subset table key value)
      · exact .throw _

end

end Expressions

/-- What comes of the evaluation of a definition without a result, whether the result is then kept
or not. -/
theorem provided_absent
    {depth interpreter : Nat} {name : String} {definition : Definition} {desk : Desk Cell Shelf}
    (calls : ∀ name, Provides [] Value.cells (call depth name interpreter))
    (present : desk.own.definition? name = some definition)
    (absent : desk.own.result? name interpreter = none)
    (complete : Complete desk.names desk.own) :
    Provided Value.cells desk ((call (depth + 1) name interpreter).runOn desk) := by
  have begun : desk.own.bodies = (begunOn name desk).own.bodies := Shelf.bodies_amend.symm
  obtain ⟨bodies, completeAfter, leaves⟩ :=
    provides_build calls definition.expression (begunOn name desk) (complete.counted name) nofun
  rcases ran : (definition.expression.build (call depth) interpreter).runOn (begunOn name desk)
    with ⟨outcome, after⟩
  rw [ran, ← begun] at bodies
  rw [ran] at completeAfter leaves
  cases outcome with
  | error failure =>
      rw [runOn_call_of_error present absent ran]
      exact ⟨bodies, completeAfter, nofun⟩
  | ok value =>
      cases keeps : definition.keepsResults with
      | false =>
          rw [runOn_call_of_plain present absent keeps ran]
          exact ⟨bodies, completeAfter, leaves⟩
      | true =>
          -- The evaluation may have changed the definition, but it has not removed it.
          obtain ⟨_, still, _⟩ := (fills_of_ran present ran).definition? present
          rw [runOn_call_of_ok present absent keeps ran still]
          have more : after.own.bodies <+: (keptOn name interpreter value after).own.bodies :=
            Shelf.bodies_extended_amend
          refine ⟨bodies.trans more, completeAfter.kept name interpreter (leaves value rfl), ?_⟩
          rintro _ ⟨⟩ cell isLeaf
          exact (leaves value rfl cell isLeaf).mono more

theorem provides_call (depth : Nat) (name : String) (interpreter : Nat) :
    Provides [] Value.cells (call depth name interpreter) := by
  induction depth generalizing name with
  | zero => exact .throw _
  | succ depth inductionHypothesis =>
      intro desk complete _
      cases present : desk.own.definition? name with
      | none =>
          rw [runOn_call_of_undefined present]
          exact ⟨List.prefix_rfl, complete, nofun⟩
      | some definition =>
          cases kept : desk.own.result? name interpreter with
          | some value =>
              rw [runOn_call_of_kept present kept]
              refine ⟨List.prefix_rfl, complete, ?_⟩
              rintro _ ⟨⟩
              exact complete.results name _ (mem_of_result? kept)
          | none => exact provided_absent inductionHypothesis present kept complete

theorem provides_evaluate (depth : Nat) (expression : Expression) (interpreter : Nat) :
    Provides [] Value.cells (evaluate depth expression interpreter) :=
  provides_build (fun name => provides_call depth name interpreter) expression

/-! ## Rendering -/

theorem provides_requireNode (value : Value) :
    Provides value.cells Node.keys (requireNode value) := by
  refine .of_keeps (lenient_staysComplete.requireNode value) ?_
  obtain ⟨mark, content⟩ := value
  cases content with
  | node node => exact .pure fun cell isKey => isKey
  | plain content => exact .throw _

/-- The leaves of a document are references. -/
theorem provides_documentNode
    {given : List Cell} (document : Nat) (bound : Option Nat) (root schema : Json) :
    Provides given Node.keys (documentNode document bound root schema) := by
  unfold documentNode
  split
  · intro desk complete _
    refine ⟨List.prefix_rfl, complete, ?_⟩
    rintro _ ⟨⟩ cell isKey
    rw [Node.keys_map] at isKey
    obtain ⟨target, _, rfl⟩ := List.mem_map.mp isKey
    exact desk.own.hasBody_reference document target bound
  · exact .throw _

theorem provides_bodyOf (depth : Nat) (cell : Cell) :
    Provides [] Node.keys (bodyOf depth cell) := by
  cases cell with
  | built index bound =>
      refine .after lenient_staysComplete.current fun shelf => ?_
      split
      · exact (provides_evaluate depth _ _).bind provides_requireNode
      · exact .throw _
  | reference document target bound =>
      refine .after lenient_staysComplete.current fun shelf => ?_
      split
      · split
        · exact provides_documentNode _ _ _ _
        · exact .throw _
      · exact .throw _
  | alone index => exact .throw _

theorem staysComplete_mint (namer : Nat) : Work.Keeps StaysComplete (Work.mint namer) := by
  refine lenient_staysComplete.bind (lenient_staysComplete.namerAt namer) fun found => ?_
  refine lenient_staysComplete.bind (fun _ complete => ⟨List.prefix_rfl, complete⟩) fun _ => ?_
  refine lenient_staysComplete.bind (lenient_staysComplete.ofExcept _) fun name => ?_
  exact lenient_staysComplete.bind (fun _ complete => ⟨List.prefix_rfl, complete⟩) fun _ =>
    lenient_staysComplete.pure name

theorem staysComplete_declare (namer : Nat) (name : String) (expansion : Signature) :
    Work.Keeps StaysComplete (Work.declare namer name expansion) :=
  lenient_staysComplete.bind (lenient_staysComplete.namerAt namer) fun _ _ complete =>
    ⟨List.prefix_rfl, complete⟩

/-- A leaf that has its body may be given a name. -/
theorem provides_claim (leaf : Cell) (namer : Nat) :
    Provides [leaf] (fun _ => []) (Work.claim leaf namer) := by
  refine .after lenient_staysComplete.get fun desk => ?_
  split
  · exact .pure (List.nil_subset _)
  · refine .after (staysComplete_mint namer) fun given => ?_
    have named : Provides [leaf] (fun _ => []) (modify fun desk : Desk Cell Shelf =>
        { desk with names := desk.names ++ [(leaf, given)] }) := fun desk complete known =>
      ⟨List.prefix_rfl, complete.named (known leaf List.mem_cons_self) given, nofun⟩
    exact named.bind fun _ => .pure (List.nil_subset _)

theorem provides_enter (leaf : Cell) (namer : Nat) :
    Provides [leaf] (fun _ => []) (Work.enter leaf namer) := by
  refine (provides_claim leaf namer).bind fun claimed => ?_
  split
  · exact .after (fun _ complete => ⟨List.prefix_rfl, complete⟩) fun _ =>
      .pure (List.nil_subset _)
  · exact .pure (List.nil_subset _)

/-- Rebuilding a node looks at its own leaves only. -/
theorem provides_traverse
    (depth : Nat) {inner : Cell → ProgramWork Signature}
    (inside : ∀ leaf, Provides [leaf] (fun _ => []) (inner leaf)) (node : Node Cell) :
    Provides node.keys (fun _ => []) (node.traverse inner (workshop depth).watch) := by
  have watches (name : String) :
      Provides node.keys (fun _ => []) ((workshop depth).watch name) :=
    .of_keeps (lenient_staysComplete.watch depth name) .nothing
  refine Provides.compositional.traverse (fun _ => inner) (fun _ => (workshop depth).watch) watches
    node fun key isKey => ?_
  exact (inside key).mono (List.cons_subset.mpr ⟨isKey, List.nil_subset _⟩)

theorem provides_expandWith
    (depth : Nat) {inner : Cell → ProgramWork Signature}
    (inside : ∀ leaf, Provides [leaf] (fun _ => []) (inner leaf)) (leaf : Cell) :
    Provides [leaf] (fun _ => []) ((workshop depth).expandWith inner leaf) := by
  have rendered : Provides [] (fun _ => []) ((workshop depth).renderBody inner leaf) :=
    (provides_bodyOf depth leaf).bind (provides_traverse depth inside)
  -- The name is given before the body is looked at, so only the leaf itself may be relied on there.
  rw [Workshop.expandWith_eq]
  refine .after lenient_staysComplete.get fun desk => ?_
  refine (provides_enter leaf _).bind fun claimed => ?_
  split
  · refine .after rendered.keeps fun expansion => ?_
    exact .after (staysComplete_declare _ _ expansion) fun _ => .pure (List.nil_subset _)
  · exact .pure (List.nil_subset _)

theorem provides_expand (depth nesting : Nat) (leaf : Cell) :
    Provides [leaf] (fun _ => []) ((workshop depth).expand nesting leaf) := by
  induction nesting generalizing leaf with
  | zero => exact provides_expandWith depth (fun _ => .throw .outOfFuel) leaf
  | succ nesting inductionHypothesis =>
      exact provides_expandWith depth inductionHypothesis leaf

theorem provides_render (depth : Nat) (node : Node Cell) :
    Provides node.keys (fun _ => []) ((workshop depth).render depth node) :=
  provides_traverse depth (provides_expand depth depth) node

/-! ## Steps -/

theorem provides_store (name : String) (value : Value) :
    Provides value.cells (fun _ => []) (Shelf.store name value) := by
  intro desk complete known
  refine ⟨List.prefix_rfl, { complete with values := ?_ }, nofun⟩
  intro entry isEntry cell isLeaf
  rcases Table.mem_set isEntry with isOld | isNew
  · exact complete.values entry isOld cell isLeaf
  · exact known cell (isNew ▸ isLeaf)

theorem provides_replied {given : List Cell} {work : ProgramWork Signature}
    (provides : Provides given (fun _ => []) work) :
    Provides given (fun _ => []) (replied work) := by
  refine provides.bind fun signature => ?_
  exact .after lenient_staysComplete.current fun _ => .pure (List.nil_subset _)

/-- Whatever is rendered has been stored before. -/
theorem staysComplete_render (depth : Nat) (name : String) (namer : Option String) :
    Work.Keeps StaysComplete (render depth name namer) := by
  have whole : Provides [] (fun _ => []) (render depth name namer) := by
    refine (provides_stored name).bind fun value => ?_
    refine .after (lenient_staysComplete.namerOf? namer) fun index => ?_
    refine .after lenient_staysComplete.clearProbes fun _ => ?_
    refine (provides_requireNode value).bind fun node => ?_
    refine Provides.mono ?_ (List.subset_append_right value.cells node.keys)
    cases index with
    | some index => exact provides_replied ((provides_render depth node).withActive (some index))
    | none => exact provides_replied (provides_render depth node)
  exact whole.keeps

theorem staysComplete_renderItself (depth : Nat) (name : String) :
    Work.Keeps StaysComplete (renderItself depth name) := by
  have whole : Provides [] (fun _ => []) (renderItself depth name) := by
    refine (provides_stored name).bind fun value => ?_
    obtain ⟨mark, content⟩ := value
    refine .after lenient_staysComplete.clearProbes fun _ => ?_
    cases content with
    | node node => exact provides_replied (provides_render depth node)
    | plain content => exact .throw _
  exact whole.keeps

theorem staysComplete_build (depth : Nat) (name : String) (expression : Expression) :
    Work.Keeps StaysComplete (perform depth (.build name expression)) := by
  have whole : Provides [] (fun _ => []) (perform depth (.build name expression)) := by
    rw [perform]
    refine .after lenient_staysComplete.clearProbes fun _ => ?_
    refine (provides_evaluate depth expression _).bind fun value => ?_
    refine (provides_store name value).bind fun _ => ?_
    exact .after lenient_staysComplete.current fun _ => .pure (List.nil_subset _)
  exact whole.keeps

theorem staysComplete_storeDraft (name : String) (root : Json) (namer : Option String) :
    Work.Keeps StaysComplete (storeDraft name root namer) := by
  have whole : Provides [] (fun _ => []) (storeDraft name root namer) := by
    refine .after (lenient_staysComplete.namerOf? namer) fun bound => ?_
    refine .after (lenient_staysComplete.addDocument root) fun document => ?_
    refine (provides_documentNode document bound root root).bind fun node => ?_
    split
    · exact (provides_store name _).mono (List.nil_subset _)
    · have made : Provides ([] ++ node.keys) Value.cells (Shelf.newValue (.node node)) :=
        .of_keeps (lenient_staysComplete.newValue _) (gives_newValue (List.subset_append_right _ _))
      exact made.bind fun value =>
        (provides_store name value).mono (List.subset_append_right _ _)
  exact whole.keeps

theorem staysComplete_interpret
    (depth : Nat) (definition : String) (choice : Choice) (name sameAs : Option String) :
    Work.Keeps StaysComplete (interpret depth definition choice name sameAs) := by
  have whole : Provides [] (fun _ => []) (interpret depth definition choice name sameAs) := by
    refine .after (lenient_staysComplete.find _ definition) fun _ => ?_
    refine .after (lenient_staysComplete.chosen choice) fun index => ?_
    refine (provides_call depth definition index).bind fun value => ?_
    have compared : Provides ([] ++ value.cells) (fun _ => [])
        (comparison definition value sameAs) :=
      .of_keeps (lenient_staysComplete.comparison definition value sameAs) .nothing
    cases name with
    | some name =>
        refine (provides_store name value).bind fun _ => ?_
        exact compared.mono (List.subset_append_left _ _)
    | none => exact compared
  exact whole.keeps

theorem performance_staysComplete : Performance StaysComplete where
  toCumulative := cumulative_staysComplete
  shelf := lenient_staysComplete.shelf
  create _ _ _ complete := ⟨List.prefix_rfl, complete⟩
  mint := staysComplete_mint
  declare := staysComplete_declare
  define name expression keepsResults desk complete := by
    refine ⟨List.prefix_rfl, complete.redefined _ fun other entry isEntry => ?_⟩
    by_cases isSame : other = name
    · rw [Shelf.resultsOf, Shelf.definition?, isSame, Table.find?_set_self] at isEntry
      cases isEntry
    · rw [Shelf.resultsOf, Shelf.definition?, Table.find?_set_of_ne isSame] at isEntry
      exact complete.results other entry isEntry
  claim index namer := by
    refine Provides.keeps fun desk complete _ =>
      provides_claim (.alone index) namer desk complete ?_
    intro cell isCell
    rw [List.mem_singleton.mp isCell]
    exact desk.own.hasBody_alone index
  build := staysComplete_build
  draft := staysComplete_storeDraft
  render := staysComplete_render
  renderItself := staysComplete_renderItself
  interpret := staysComplete_interpret

/-- However a program goes on and whatever fails, in the end no lazy leaf that is stored, kept or
named lacks its body, and the first interpreter is the standard one. -/
theorem complete_deskAfter (depth : Nat) (steps : List Step) :
    Complete (deskAfter depth steps).names (deskAfter depth steps).own := by
  have complete : Complete initial.names initial.own := ⟨nofun, nofun, nofun, rfl⟩
  exact (performance_staysComplete.performAll depth steps initial complete).2

/-- Nothing that a program leaves behind has a name that has not been built. So the definitions of a
family may be interpreted there with an interpreter that is bound to a namer as well as with the
standard one. -/
theorem namesBuilt_deskAfter (depth : Nat) (steps : List Step) :
    NamesBuilt (deskAfter depth steps) :=
  fun cell name isNamed => (complete_deskAfter depth steps).names (cell, name) isNamed

end SchemaSignature.Program
