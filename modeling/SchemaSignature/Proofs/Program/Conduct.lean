import SchemaSignature.Program.Step
import SchemaSignature.Proofs.Naming.Cumulation
import SchemaSignature.Proofs.Naming.History

/-!
What every step of a program keeps. Most of what a program does concerns neither the definitions nor
the bodies of lazy nodes that are there already; a relation between desks that does not mind this is
kept by the rest of a program as soon as it is kept by the few things that are left: evaluating,
defining, and the steps with the names. One such relation is that the names change by the moves of a
history only.
-/

namespace SchemaSignature.Program

/-- The stored values and the definitions stay as they are, and interpreters and bodies of lazy nodes
are only added. -/
structure Shelf.Widens (before after : Shelf) : Prop where
  values : after.values = before.values
  definitions : after.definitions = before.definitions
  interpreters : before.interpreters <+: after.interpreters
  bodies : before.bodies <+: after.bodies

theorem Shelf.Widens.of_same
    {before after : Shelf} (values : after.values = before.values)
    (definitions : after.definitions = before.definitions)
    (interpreters : after.interpreters = before.interpreters)
    (bodies : after.bodies = before.bodies) : before.Widens after where
  values := values
  definitions := definitions
  interpreters := interpreters ▸ List.prefix_rfl
  bodies := bodies ▸ List.prefix_rfl

/-- A relation between desks that does not mind changes of what a program keeps, as long as the stored
values and the definitions stay as they are and interpreters and bodies of lazy nodes are only
added. -/
structure Lenient (relation : Desk Cell Shelf → Desk Cell Shelf → Prop) : Prop
    extends Desk.Stepwise relation where
  shelf : ∀ (desk : Desk Cell Shelf) (own : Shelf), desk.own.Widens own →
    relation desk { desk with own := own }

/-- A relation between desks that does not mind what values are stored either. -/
structure Tolerant (relation : Desk Cell Shelf → Desk Cell Shelf → Prop) : Prop
    extends Lenient relation where
  store : ∀ name value, Work.Keeps relation (Shelf.store name value)

/-- The reply of a rendering. -/
def replied (work : ProgramWork Signature) : ProgramWork Reply := do
  let signature ← work
  return .rendered signature.text (← Shelf.current).probes

/-- The reply to an evaluation, whose result is compared with a stored value if one is named. -/
def comparison (definition : String) (value : Value) (sameAs : Option String) :
    ProgramWork Reply := do
  let evaluated ← Shelf.find Shelf.definitions definition
  match sameAs with
  | some other =>
      let isSame := value.isSame (← Shelf.find Shelf.values other)
      pure (.interpreted evaluated.calls value.text? (some isSame))
  | none => pure (.interpreted evaluated.calls value.text? none)

namespace Lenient

variable {relation : Desk Cell Shelf → Desk Cell Shelf → Prop} (lenient : Lenient relation)

include lenient

/-! ## The shelf -/

theorem update {change : Shelf → Shelf} (widens : ∀ shelf : Shelf, shelf.Widens (change shelf)) :
    Work.Keeps relation (Shelf.update change) :=
  fun desk => lenient.shelf desk (change desk.own) (widens desk.own)

theorem current : Work.Keeps relation Shelf.current :=
  lenient.bind lenient.get fun desk => lenient.pure desk.own

theorem find {content : Type} (table : Shelf → List (String × content)) (name : String) :
    Work.Keeps relation (Shelf.find table name) := by
  refine lenient.bind lenient.current fun shelf => ?_
  split
  · exact lenient.pure _
  · exact lenient.throw _

theorem interpreterAt (index : Nat) : Work.Keeps relation (Shelf.interpreterAt index) := by
  refine lenient.bind lenient.current fun shelf => ?_
  split
  · exact lenient.pure _
  · exact lenient.throw _

theorem freshMark : Work.Keeps relation Shelf.freshMark :=
  lenient.bind lenient.current fun _ =>
    lenient.bind (lenient.update fun _ => .of_same rfl rfl rfl rfl) fun _ =>
      lenient.pure _

theorem newValue (content : Operand Cell) : Work.Keeps relation (Shelf.newValue content) :=
  lenient.bind lenient.freshMark fun _ => lenient.pure _

theorem nameInterpreter (name : String) (index : Nat) :
    Work.Keeps relation (Shelf.nameInterpreter name index) :=
  lenient.update fun _ => .of_same rfl rfl rfl rfl

theorem addInterpreter (interpreter : Interpreter) :
    Work.Keeps relation (Shelf.addInterpreter interpreter) :=
  lenient.bind lenient.current fun _ =>
    lenient.bind (lenient.update fun _ => ⟨rfl, rfl, List.prefix_append _ _, List.prefix_rfl⟩) fun _ =>
      lenient.pure _

theorem addBody (body : Body) : Work.Keeps relation (Shelf.addBody body) :=
  lenient.bind lenient.current fun _ =>
    lenient.bind (lenient.update fun _ => ⟨rfl, rfl, List.prefix_rfl, List.prefix_append _ _⟩) fun _ =>
      lenient.pure _

theorem addDocument (root : Json) : Work.Keeps relation (Shelf.addDocument root) :=
  lenient.bind lenient.current fun _ =>
    lenient.bind (lenient.update fun _ => .of_same rfl rfl rfl rfl) fun _ =>
      lenient.pure _

theorem clearProbes : Work.Keeps relation clearProbes :=
  lenient.update fun _ => .of_same rfl rfl rfl rfl

theorem watch (depth : Nat) (name : String) : Work.Keeps relation ((workshop depth).watch name) :=
  lenient.update fun _ => .of_same rfl rfl rfl rfl

/-! ## Evaluation -/

theorem construct
    (interpreter : Interpreter) (node : Except Failure (Node Cell)) (text : Option String) :
    Work.Keeps relation (interpreter.construct node text) := by
  unfold Interpreter.construct
  repeat' split
  all_goals first | exact lenient.newValue _ | exact lenient.throw _

theorem primitive (interpreter : Interpreter) (kind : Primitive) :
    Work.Keeps relation (interpreter.primitive kind) := by
  unfold Interpreter.primitive
  split
  all_goals first | exact lenient.pure _ | exact lenient.throw _

theorem namerOf? (name : Option String) : Work.Keeps relation (namerOf? name) := by
  cases name with
  | none => exact lenient.pure _
  | some name => exact lenient.map (lenient.find _ name) some

theorem lazyNode
    (interpreter : Interpreter) (namer : Option Nat) (body : Except Failure Body) :
    Work.Keeps relation (interpreter.lazyNode namer body) := by
  cases body with
  | ok body =>
      have made (bound : Option Nat) : Work.Keeps relation
          (do Shelf.newValue (.node (.lazy (.built (← Shelf.addBody body) bound)))) :=
        lenient.bind (lenient.addBody body) fun _ => lenient.newValue _
      cases interpreter with
      | standard => exact made namer
      | bound own =>
          unfold Interpreter.lazyNode
          simp only
          split
          · exact lenient.throw _
          · exact made (some own)
      | toy uri lasting => exact lenient.throw _
      | bare lasting => exact lenient.throw _
  | error failure =>
      cases interpreter with
      | bound own =>
          unfold Interpreter.lazyNode
          simp only
          split
          · exact lenient.throw _
          · exact lenient.throw failure
      | _ => exact lenient.throw _

theorem interpreted
    {result : Type} (index : Nat) {work : Interpreter → ProgramWork result}
    (kept : ∀ interpreter, Work.Keeps relation (work interpreter)) :
    Work.Keeps relation (do work (← Shelf.interpreterAt index)) :=
  lenient.bind (lenient.interpreterAt index) kept

section Expressions

variable {call : String → Nat → ProgramWork Value} (interpreter : Nat)

mutual

theorem build (calls : ∀ name index, Work.Keeps relation (call name index)) :
    (expression : Expression) → Work.Keeps relation (expression.build call interpreter)
  | .primitive kind => by
      rw [Expression.build]
      exact lenient.interpreted interpreter fun found => lenient.primitive found kind
  | .null | .raw _ => by
      rw [Expression.build]
      exact lenient.pure _
  | .stored name => by
      rw [Expression.build]
      exact lenient.find _ name
  | .defined name => by
      rw [Expression.build]
      exact calls name interpreter
  | .constant _ | .probe _ => by
      rw [Expression.build]
      exact lenient.newValue _
  | .produced _ => by
      rw [Expression.build]
      exact lenient.throw _
  | .literals _ => by
      rw [Expression.build]
      exact lenient.interpreted interpreter fun found => lenient.construct found _ _
  | .literalsOr _ fallback => by
      rw [Expression.build]
      refine lenient.bind (build calls fallback) fun _ => ?_
      exact lenient.interpreted interpreter fun found => lenient.construct found _ _
  | .fields _ entries => by
      rw [Expression.build]
      refine lenient.bind (buildEntries calls [] entries) fun _ => ?_
      exact lenient.interpreted interpreter fun found => lenient.construct found _ _
  | .container _ element => by
      rw [Expression.build]
      refine lenient.bind (build calls element) fun _ => ?_
      exact lenient.interpreted interpreter fun found => lenient.construct found _ _
  | .list _ members => by
      rw [Expression.build]
      refine lenient.bind (buildAll calls members) fun _ => ?_
      exact lenient.interpreted interpreter fun found => lenient.construct found _ _
  | .listOf _ _ => by
      rw [Expression.build]
      exact lenient.interpreted interpreter fun found => lenient.construct found _ _
  | .sum _ members => by
      rw [Expression.build]
      refine lenient.bind (buildEntries calls [] members) fun _ => ?_
      exact lenient.interpreted interpreter fun found => lenient.construct found _ _
  | .lazy _ namer | .lazyOf _ namer => by
      rw [Expression.build]
      refine lenient.bind (lenient.namerOf? namer) fun _ => ?_
      exact lenient.interpreted interpreter fun found => lenient.lazyNode found _ _

theorem buildAll (calls : ∀ name index, Work.Keeps relation (call name index)) :
    (expressions : List Expression) →
      Work.Keeps relation (Expression.buildAll call interpreter expressions)
  | [] => by
      rw [Expression.buildAll]
      exact lenient.pure _
  | expression :: rest => by
      rw [Expression.buildAll]
      refine lenient.bind (build calls expression) fun _ => ?_
      exact lenient.bind (buildAll calls rest) fun _ => lenient.pure _

theorem buildEntries
    (calls : ∀ name index, Work.Keeps relation (call name index)) (table : List (Json × Value)) :
    (entries : List (Json × Expression)) →
      Work.Keeps relation (Expression.buildEntries call interpreter table entries)
  | [] => by
      rw [Expression.buildEntries]
      exact lenient.pure _
  | (key, expression) :: rest => by
      rw [Expression.buildEntries]
      refine lenient.bind (build calls expression) fun _ => ?_
      split
      · exact buildEntries calls _ rest
      · exact lenient.throw _

end

end Expressions

theorem requireNode (value : Value) : Work.Keeps relation (requireNode value) := by
  unfold Program.requireNode
  split
  · exact lenient.pure _
  · exact lenient.throw _

theorem documentNode (document : Nat) (bound : Option Nat) (root schema : Json) :
    Work.Keeps relation (documentNode document bound root schema) := by
  unfold Program.documentNode
  split
  · exact lenient.pure _
  · exact lenient.throw _

theorem bodyOf
    {depth : Nat} (evaluates : ∀ expression interpreter,
      Work.Keeps relation (evaluate depth expression interpreter))
    (cell : Cell) : Work.Keeps relation (bodyOf depth cell) := by
  cases cell with
  | built index bound =>
      refine lenient.bind lenient.current fun shelf => ?_
      split
      · exact lenient.bind (evaluates _ _) lenient.requireNode
      · exact lenient.throw _
  | reference document target bound =>
      refine lenient.bind lenient.current fun shelf => ?_
      split
      · split
        · exact lenient.documentNode _ _ _ _
        · exact lenient.throw _
      · exact lenient.throw _
  | alone index => exact lenient.throw _

/-! ## Parts of steps -/

theorem cellNamed (name : String) : Work.Keeps relation (cellNamed name) :=
  lenient.map (lenient.find _ name) Cell.alone

theorem activeName : Work.Keeps relation activeName := by
  refine lenient.bind lenient.get fun desk => ?_
  split
  · exact lenient.pure _
  · exact lenient.throw _

theorem createInterpreter (name : String) (interpreter : Interpreter) :
    Work.Keeps relation (createInterpreter name interpreter) :=
  lenient.bind (lenient.addInterpreter interpreter) fun index =>
    lenient.nameInterpreter name index

theorem register (interpreter : Nat) : Work.Keeps relation (Registry.register interpreter) := by
  refine lenient.bind (lenient.interpreterAt interpreter) fun found => ?_
  split
  · exact lenient.throw _
  · refine lenient.bind lenient.current fun shelf => ?_
    split
    · exact lenient.throw _
    · exact lenient.update fun _ => .of_same rfl rfl rfl rfl

theorem lookup (uri : Json) : Work.Keeps relation (Registry.lookup uri) := by
  refine lenient.bind lenient.current fun shelf => ?_
  cases Registry.holder? shelf uri with
  | some interpreter =>
      cases uri.isKey with
      | false => exact lenient.bind (lenient.throw _) fun _ => lenient.pure interpreter
      | true => exact lenient.pure interpreter
  | none =>
      cases uri.isKey with
      | false => exact lenient.bind (lenient.throw _) fun _ => lenient.throw _
      | true => exact lenient.throw _

theorem chosen (choice : Choice) : Work.Keeps relation (chosen choice) := by
  unfold Program.chosen
  split
  · exact lenient.pure _
  · exact lenient.pure _
  · exact lenient.find _ _
  · exact lenient.lookup _
  · exact lenient.addInterpreter _

theorem comparison (definition : String) (value : Value) (sameAs : Option String) :
    Work.Keeps relation (comparison definition value sameAs) := by
  refine lenient.bind (lenient.find _ definition) fun _ => ?_
  cases sameAs with
  | some other => exact lenient.bind (lenient.find _ other) fun _ => lenient.pure _
  | none => exact lenient.pure _

end Lenient

namespace Tolerant

variable {relation : Desk Cell Shelf → Desk Cell Shelf → Prop} (tolerant : Tolerant relation)

include tolerant

theorem storeDraft (name : String) (root : Json) (namer : Option String) :
    Work.Keeps relation (storeDraft name root namer) := by
  refine tolerant.bind (tolerant.namerOf? namer) fun bound => ?_
  refine tolerant.bind (tolerant.addDocument root) fun document => ?_
  refine tolerant.bind (tolerant.documentNode document bound root root) fun node => ?_
  split
  · exact tolerant.store _ _
  · exact tolerant.bind (tolerant.newValue _) fun _ => tolerant.store _ _

theorem interpret
    {depth : Nat} (calls : ∀ name interpreter, Work.Keeps relation (call depth name interpreter))
    (definition : String) (choice : Choice) (name sameAs : Option String) :
    Work.Keeps relation (interpret depth definition choice name sameAs) := by
  refine tolerant.bind (tolerant.find _ definition) fun _ => ?_
  refine tolerant.bind (tolerant.chosen choice) fun index => ?_
  refine tolerant.bind (calls definition index) fun value => ?_
  cases name with
  | some name =>
      exact tolerant.bind (tolerant.store name value) fun _ =>
        tolerant.comparison definition value sameAs
  | none => exact tolerant.comparison definition value sameAs

end Tolerant

/-! ## Steps -/

/-- The things that the steps of a program consist of keep a relation between desks, and so do, as a
whole, the steps that have to do with lazy leaves. -/
structure Performance (relation : Desk Cell Shelf → Desk Cell Shelf → Prop) : Prop
    extends Desk.Cumulative relation, Lenient relation where
  create : ∀ (desk : Desk Cell Shelf) (stem : String) (start : Nat),
    relation desk { desk with namers := desk.namers ++ [{ stem := stem, count := start }] }
  mint : ∀ namer, Work.Keeps relation (Work.mint namer)
  declare : ∀ namer name expansion, Work.Keeps relation (Work.declare namer name expansion)
  define : ∀ name expression keepsResults, Work.Keeps relation
    (Shelf.putDefinition name { expression := expression, keepsResults := keepsResults })
  claim : ∀ index namer, Work.Keeps relation (Work.claim (.alone index) namer)
  build : ∀ depth name expression, Work.Keeps relation (perform depth (.build name expression))
  draft : ∀ name document namer, Work.Keeps relation (storeDraft name document namer)
  render : ∀ depth name namer, Work.Keeps relation (render depth name namer)
  renderItself : ∀ depth name, Work.Keeps relation (renderItself depth name)
  interpret : ∀ depth definition choice name sameAs,
    Work.Keeps relation (interpret depth definition choice name sameAs)

namespace Performance

variable {relation : Desk Cell Shelf → Desk Cell Shelf → Prop} (performance : Performance relation)

include performance

/-- A namer that is created has handed out nothing yet. -/
theorem createNamer (name stem : String) (start : Int) (depth : Nat) :
    Work.Keeps relation (perform depth (.createNamer name stem start)) := by
  rw [perform]
  refine performance.ofExcept_bind fun namer created => ?_
  unfold Namer.create at created
  split at created
  · cases created
  · cases created
    have added : Work.Keeps relation
        (Shelf.addNamer name { stem := stem, count := start.toNat }) :=
      performance.bind performance.get fun _ =>
        performance.bind (fun desk => performance.create desk stem start.toNat) fun _ =>
          performance.update fun _ => .of_same rfl rfl rfl rfl
    exact performance.bind added fun _ => performance.pure _

mutual

/-- Every step keeps the relation, whether it fails or not. -/
theorem perform (depth : Nat) : (step : Step) → Work.Keeps relation (perform depth step)
  | .createNamer name stem start => performance.createNamer name stem start depth
  | .mint namer => by
      rw [Program.perform]
      refine performance.bind (performance.find _ namer) fun index => ?_
      exact performance.bind (performance.mint index) fun _ => performance.pure _
  | .declare namer name expansion => by
      rw [Program.perform]
      refine performance.bind (performance.find _ namer) fun index => ?_
      exact performance.bind (performance.declare index name _) fun _ => performance.pure _
  | .copyDeclarations namer => by
      rw [Program.perform]
      exact performance.bind (performance.find _ namer) fun _ => performance.pure _
  | .showNamer namer => by
      rw [Program.perform]
      refine performance.bind (performance.find _ namer) fun index => ?_
      refine performance.bind (performance.namerAt index) fun found => ?_
      exact performance.bind (performance.ofExcept _) fun _ => performance.pure _
  | .showActive => by
      rw [Program.perform]
      exact performance.bind performance.activeName fun _ => performance.pure _
  | .useNamer namer steps raises => by
      rw [Program.perform]
      refine performance.bind (performance.find _ namer) fun index => ?_
      refine performance.withActive ?_ (some index)
      refine performance.bind performance.activeName fun _ => ?_
      exact performance.bind (performAll depth steps) fun _ => performance.pure _
  | .runApart steps => by
      rw [Program.perform]
      exact performance.bind (performance.withActive (performAll depth steps) none)
        fun _ => performance.pure _
  | .createCell name => by
      rw [Program.perform]
      refine performance.bind performance.freshMark fun index => ?_
      exact performance.bind (performance.update fun _ => .of_same rfl rfl rfl rfl) fun _ =>
        performance.pure _
  | .claim cell namer => by
      rw [Program.perform, Program.cellNamed, bind_map_left]
      refine performance.bind (performance.find _ cell) fun index => ?_
      refine performance.bind (performance.find _ namer) fun namer => ?_
      exact performance.bind (performance.claim index namer) fun _ => performance.pure _
  | .showCell cell => by
      rw [Program.perform]
      refine performance.bind (performance.cellNamed cell) fun key => ?_
      exact performance.bind performance.get fun _ => performance.pure _
  | .build name expression => performance.build depth name expression
  | .draft name document namer => by
      rw [Program.perform]
      exact performance.bind (performance.draft name document namer) fun _ => performance.pure _
  | .render name namer => by
      rw [Program.perform]
      exact performance.render depth name namer
  | .renderItself name => by
      rw [Program.perform]
      exact performance.renderItself depth name
  | .define name expression keepsResults => by
      rw [Program.perform]
      exact performance.bind (performance.define name expression keepsResults) fun _ => performance.pure _
  | .bindNamer name namer => by
      rw [Program.perform]
      refine performance.bind (performance.find _ namer) fun index => ?_
      exact performance.bind (performance.createInterpreter name _) fun _ => performance.pure _
  | .createToy name uri lasting => by
      rw [Program.perform]
      exact performance.bind (performance.createInterpreter name _) fun _ => performance.pure _
  | .nameStandard name => by
      rw [Program.perform]
      exact performance.bind (performance.nameInterpreter name _) fun _ => performance.pure _
  | .createBare name => by
      rw [Program.perform]
      exact performance.bind (performance.createInterpreter name _) fun _ => performance.pure _
  | .forget name => by
      rw [Program.perform]
      refine performance.bind (performance.find _ name) fun _ => ?_
      exact performance.bind (performance.update fun _ => .of_same rfl rfl rfl rfl) fun _ =>
        performance.pure _
  | .register name => by
      rw [Program.perform]
      refine performance.bind (performance.find _ name) fun index => ?_
      exact performance.bind (performance.register index) fun _ => performance.pure _
  | .lookup uri => by
      rw [Program.perform]
      refine performance.bind (performance.lookup uri) fun index => ?_
      refine performance.bind (performance.interpreterAt index) fun _ => ?_
      exact performance.bind performance.current fun _ => performance.pure _
  | .interpret definition choice name sameAs => by
      rw [Program.perform]
      exact performance.interpret depth definition choice name sameAs
  | .countResults definition => by
      rw [Program.perform]
      refine performance.bind (performance.find _ definition) fun found => ?_
      refine performance.bind performance.current fun shelf => ?_
      exact performance.bind (performance.ofExcept _) fun _ => performance.pure _

theorem performAll (depth : Nat) :
    (steps : List Step) → Work.Keeps relation (performAll depth steps)
  | [] => by
      rw [Program.performAll]
      exact performance.pure _
  | step :: rest => by
      rw [Program.performAll]
      have attempted : Work.Keeps relation (attempt (Program.perform depth step)) :=
        performance.tryCatch (perform depth step) fun _ => performance.pure _
      refine performance.bind attempted fun _ => ?_
      exact performance.bind (performAll depth rest) fun _ => performance.pure _

end

end Performance

/-- The things that the steps of a program consist of keep a relation between desks. -/
structure Conduct (relation : Desk Cell Shelf → Desk Cell Shelf → Prop) : Prop
    extends Desk.Cumulative relation, Tolerant relation where
  create : ∀ (desk : Desk Cell Shelf) (stem : String) (start : Nat),
    relation desk { desk with namers := desk.namers ++ [{ stem := stem, count := start }] }
  mint : ∀ namer, Work.Keeps relation (Work.mint namer)
  claim : ∀ cell namer, Work.Keeps relation (Work.claim cell namer)
  enter : ∀ cell namer, Work.Keeps relation (Work.enter cell namer)
  declare : ∀ namer name expansion, Work.Keeps relation (Work.declare namer name expansion)
  define : ∀ name expression keepsResults, Work.Keeps relation
    (Shelf.putDefinition name { expression := expression, keepsResults := keepsResults })
  call : ∀ depth name interpreter, Work.Keeps relation (call depth name interpreter)

namespace Conduct

variable {relation : Desk Cell Shelf → Desk Cell Shelf → Prop} (conduct : Conduct relation)

include conduct

theorem evaluate (depth : Nat) (expression : Expression) (interpreter : Nat) :
    Work.Keeps relation (evaluate depth expression interpreter) :=
  conduct.build interpreter (conduct.call depth) expression

theorem steps (depth : Nat) : (workshop depth).Steps relation where
  enter := conduct.enter
  body := conduct.bodyOf (conduct.evaluate depth)
  watch := conduct.watch depth
  declare := conduct.declare

theorem replied {work : ProgramWork Signature} (kept : Work.Keeps relation work) :
    Work.Keeps relation (replied work) :=
  conduct.bind kept fun _ => conduct.bind conduct.current fun _ => conduct.pure _

theorem renderItself (depth : Nat) (name : String) :
    Work.Keeps relation (renderItself depth name) := by
  refine conduct.bind (conduct.find _ name) fun value => ?_
  refine conduct.bind conduct.clearProbes fun _ => ?_
  split
  · exact conduct.replied ((conduct.steps depth).render conduct.toCumulative depth _)
  · exact conduct.throw _

theorem render (depth : Nat) (name : String) (namer : Option String) :
    Work.Keeps relation (render depth name namer) := by
  refine conduct.bind (conduct.find _ name) fun value => ?_
  refine conduct.bind (conduct.namerOf? namer) fun index => ?_
  refine conduct.bind conduct.clearProbes fun _ => ?_
  refine conduct.bind (conduct.requireNode value) fun node => ?_
  cases index with
  | some index =>
      exact conduct.replied ((conduct.steps depth).renderUnder conduct.toCumulative depth index node)
  | none => exact conduct.replied ((conduct.steps depth).render conduct.toCumulative depth node)

theorem build (depth : Nat) (name : String) (expression : Expression) :
    Work.Keeps relation (Program.perform depth (.build name expression)) := by
  rw [Program.perform]
  refine conduct.bind conduct.clearProbes fun _ => ?_
  refine conduct.bind (conduct.evaluate depth expression _) fun value => ?_
  refine conduct.bind (conduct.store name value) fun _ => ?_
  exact conduct.bind conduct.current fun _ => conduct.pure _

theorem performance : Performance relation where
  toCumulative := conduct.toCumulative
  shelf := conduct.shelf
  create := conduct.create
  mint := conduct.mint
  declare := conduct.declare
  define := conduct.define
  claim index := conduct.claim (.alone index)
  build := conduct.build
  draft := conduct.storeDraft
  render := conduct.render
  renderItself := conduct.renderItself
  interpret depth := conduct.interpret (conduct.call depth)

theorem perform (depth : Nat) (step : Step) : Work.Keeps relation (perform depth step) :=
  conduct.performance.perform depth step

theorem performAll (depth : Nat) (steps : List Step) :
    Work.Keeps relation (performAll depth steps) :=
  conduct.performance.performAll depth steps

end Conduct

/-! ## Development of the names -/

/-- The names on the desk change by the moves of a history, whatever comes of the work. -/
abbrev Develops {result : Type} (work : ProgramWork result) : Prop :=
  Work.Keeps Desk.Develops work

/-- Neither the names nor which namer is active change, whatever comes of the work. -/
abbrev Rests {result : Type} (work : ProgramWork result) : Prop :=
  Work.Keeps Desk.Rests work

theorem Shelf.rests_update (change : Shelf → Shelf) : Rests (update change) :=
  fun _ => ⟨⟨rfl, rfl, rfl⟩, rfl⟩

theorem tolerant_rests : Tolerant Desk.Rests where
  toStepwise := Desk.stepwise_rests
  shelf _ _ _ := ⟨⟨rfl, rfl, rfl⟩, rfl⟩
  store _ _ := Shelf.rests_update _

theorem rests_call (depth : Nat) (name : String) (interpreter : Nat) :
    Rests (call depth name interpreter) := by
  induction depth generalizing name interpreter with
  | zero => exact tolerant_rests.throw _
  | succ depth inductionHypothesis =>
      rw [call]
      refine tolerant_rests.bind (tolerant_rests.find _ name) fun definition => ?_
      split
      · exact tolerant_rests.pure _
      · refine tolerant_rests.bind (Shelf.rests_update _) fun _ => ?_
        refine tolerant_rests.bind (tolerant_rests.build interpreter inductionHypothesis _)
          fun value => ?_
        split
        · refine tolerant_rests.bind (tolerant_rests.find _ name) fun _ => ?_
          exact tolerant_rests.bind (Shelf.rests_update _) fun _ => tolerant_rests.pure _
        · exact tolerant_rests.pure _

theorem rests_bodyOf (depth : Nat) (cell : Cell) : Rests (bodyOf depth cell) :=
  tolerant_rests.bodyOf (fun expression interpreter =>
    tolerant_rests.build interpreter (rests_call depth) expression) cell

theorem conduct_develops : Conduct Desk.Develops where
  toCumulative := Desk.cumulative_develops
  shelf _ _ _ := Desk.develops_of_idles ⟨rfl, rfl, rfl⟩
  store _ _ := (Shelf.rests_update _).develops
  create desk stem start := Desk.develops_of_takes (.created desk stem start)
  mint := Desk.develops_mint
  claim := Desk.develops_claim
  enter := Desk.develops_enter
  declare := Desk.develops_declare
  define _ _ _ := (Shelf.rests_update _).develops
  call depth name interpreter := (rests_call depth name interpreter).develops

theorem steps_workshop (depth : Nat) : (workshop depth).Steps Desk.Develops :=
  conduct_develops.steps depth

/-- Whatever the steps of a program do, and whether they fail or not, they change the names by moves
only. -/
theorem develops_performAll (depth : Nat) (steps : List Step) : Develops (performAll depth steps) :=
  conduct_develops.performAll depth steps

end SchemaSignature.Program
