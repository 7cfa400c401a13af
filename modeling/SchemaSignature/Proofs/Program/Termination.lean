import SchemaSignature.Proofs.Naming.Renaming
import SchemaSignature.Proofs.Naming.Stability
import SchemaSignature.Proofs.Program.Expenditure

/-!
Programs over guarded families come to an end. Before a step only so many lazy leaves can still get
a name, and what a leaf takes from this reserve when it gets its name is more than its body gives
back; so every rendering ends. Evaluations end because a chain of uses cannot go down for ever, and
all other steps have no depth. A step that fails does so for a reason of its own.
-/

namespace SchemaSignature.Program

open Work (End Ends EndsWithin Shallow)

/-- The namer that an interpreter is bound to. -/
def Interpreter.namer? : Interpreter → Option Nat
  | .bound namer => some namer
  | .standard | .toy .. | .bare _ => none

/-- The target of a reference. -/
def Cell.target? : Cell → Option String
  | .reference _ target _ => some target
  | .built .. | .alone _ => none

namespace Horizon

variable {horizon : Horizon} {limit : Nat}

/-! ## Bodies -/

/-- The reserve still has room for a leaf that has got its name, if there is a body for the leaf. -/
structure Opened (horizon : Horizon) (limit : Nat) (leaf : Cell) (desk : Desk Cell Shelf) :
    Prop where
  covers : horizon.Covers desk.own
  paid : leaf ∈ horizon.cells desk.own →
    horizon.reserve desk.names desk.own + (1 + horizon.leavesWithin desk.own leaf) ≤ limit

theorem opens_enter (leaf : Cell) (namer : Nat) :
    Ends (fun desk => horizon.Holds limit desk ∧ desk.nameOf? leaf = none)
      (fun claimed desk => claimed.2 = true ∧ horizon.Opened limit leaf desk)
      (fun desk => horizon.Covers desk.own) fun _ _ => Work.enter leaf namer := by
  have sameOwn (desk : Desk Cell Shelf) : ((Work.enter leaf namer).runOn desk).2.own = desk.own :=
    Desk.ownRests_enter leaf namer desk
  refine Ends.of_shallow (.enter leaf namer) ?_ ?_
  · rintro desk ⟨name, first⟩ ⟨holds, unnamed⟩ succeeded
    have ran : (Work.enter leaf namer).runOn desk =
        (.ok (name, first), ((Work.enter leaf namer).runOn desk).2) := by
      rw [← succeeded]
    obtain ⟨isFirst, evolves⟩ := Desk.evolves_of_runOn_enter unnamed ran
    have names : ((Work.enter leaf namer).runOn desk).2.names = desk.names ++ [(leaf, name)] :=
      evolves.records.names
    refine ⟨isFirst, (sameOwn desk).symm ▸ holds.covers, ?_⟩
    rw [sameOwn, names]
    intro isCell
    exact Nat.le_trans (reserve_named isCell unnamed name) holds.within
  · intro desk failure start _
    exact (sameOwn desk).symm ▸ start.1.covers

/-- A node is built from a body, and what has been paid for the leaf exceeds what is put back. -/
def Rendered (horizon : Horizon) (limit : Nat) (node : Node Cell) (desk : Desk Cell Shelf) : Prop :=
  (∃ rest, rest < limit ∧ horizon.Holds rest desk) ∧ ∀ leaf ∈ node.keys, horizon.Allows leaf

theorem spends_requireNode (value : Value) (known : horizon.Knows value) :
    horizon.Spends limit limit (fun node => ∀ leaf ∈ node.keys, horizon.Allows leaf)
      fun _ _ => requireNode value := by
  obtain ⟨mark, content⟩ := value
  cases content with
  | node node => exact .pure known
  | plain content => exact .throw nofun

theorem opens_built
    (guarded : horizon.family.Guarded) {index : Nat} {bound : Option Nat}
    (allowed : horizon.Allows (.built index bound)) :
    Ends (horizon.Opened limit (.built index bound)) (horizon.Rendered limit)
      (fun desk => horizon.Covers desk.own) fun depth _ => bodyOf depth (.built index bound) := by
  intro desk opened
  have looked : Shelf.current.runOn desk = (.ok desk.own, desk) := rfl
  cases found : desk.own.bodies[index]? with
  | none =>
      have isOther : Failure.undefined ≠ .outOfFuel := nofun
      refine ⟨0, _, desk, .failed isOther opened.covers, fun depth _ _ _ => ?_⟩
      change (bodyOf depth (.built index bound)).runOn desk = _
      rw [bodyOf, Work.runOn_bind_of_ok looked, found]
      rfl
  | some body =>
      have inRange : index < desk.own.bodies.length := (List.getElem?_eq_some_iff.mp found).1
      have isCell : Cell.built index bound ∈ horizon.cells desk.own :=
        List.mem_append_left _ (mem_builtCells inRange allowed)
      have leaves : horizon.leavesWithin desk.own (.built index bound) =
          body.expression.leaves horizon.namers.length := by
        rw [leavesWithin, found]
        rfl
      have paid := opened.paid isCell
      rw [leaves] at paid
      have isInterpreter := opened.covers.bodies body (List.mem_of_getElem? found)
      have spends := (spends_evaluate guarded isInterpreter body.expression
        (horizon.reserve desk.names desk.own)).bind spends_requireNode
      obtain ⟨least, outcome, later, ended, runs⟩ := spends desk ⟨opened.covers, Nat.le_refl _⟩
      refine ⟨least, outcome, later, ?_, fun depth nesting enough enoughNesting => ?_⟩
      · cases ended with
        | done held => exact .done ⟨⟨_, by omega, held.1⟩, held.2⟩
        | failed isOther covers => exact .failed isOther covers
      · change (bodyOf depth (.built index bound)).runOn desk = _
        rw [bodyOf, Work.runOn_bind_of_ok looked, found]
        exact runs depth nesting enough enoughNesting

theorem opens_reference
    {document : Nat} {target : String} {bound : Option Nat}
    (allowed : horizon.Allows (.reference document target bound)) :
    Ends (horizon.Opened limit (.reference document target bound)) (horizon.Rendered limit)
      (fun desk => horizon.Covers desk.own)
      fun depth _ => bodyOf depth (.reference document target bound) := by
  intro desk opened
  have looked : Shelf.current.runOn desk = (.ok desk.own, desk) := rfl
  cases found : desk.own.documents[document]? with
  | none =>
      have isOther : Failure.undefined ≠ .outOfFuel := nofun
      refine ⟨0, _, desk, .failed isOther opened.covers, fun depth _ _ _ => ?_⟩
      change (bodyOf depth (.reference document target bound)).runOn desk = _
      rw [bodyOf, Work.runOn_bind_of_ok looked, found]
      rfl
  | some root =>
      have inRange : document < desk.own.documents.length := (List.getElem?_eq_some_iff.mp found).1
      have isCell : Cell.reference document target bound ∈ horizon.cells desk.own :=
        List.mem_append_right _ (mem_referenceCells inRange allowed.1 allowed.2)
      have paid := opened.paid isCell
      have isRoot := List.mem_of_getElem? found
      have runs (depth : Nat) : (bodyOf depth (.reference document target bound)).runOn desk =
          ((Document.body root target).map
            (Node.map fun inner => .reference document inner bound), desk) := by
        rw [bodyOf, Work.runOn_bind_of_ok looked, found, Document.body]
        dsimp only
        cases Pointer.resolve root target with
        | error failure => rfl
        | ok schema =>
            dsimp only
            rw [documentNode]
            cases (root.draft schema).outcome with
            | error failure => rfl
            | ok node => rfl
      have fewer : horizon.reserve desk.names desk.own < limit := by omega
      cases stands : Document.body root target with
      | error failure =>
          have isOther := failsOnly_body root target failure stands
          refine ⟨0, .error failure, desk, .failed isOther opened.covers, fun depth _ _ _ => ?_⟩
          exact (runs depth).trans (by rw [stands]; rfl)
      | ok node =>
          have allowedKeys : ∀ leaf ∈ (node.map fun inner =>
              Cell.reference document inner bound).keys, horizon.Allows leaf := by
            intro leaf isKey
            rw [Node.keys_map] at isKey
            obtain ⟨inner, isInner, rfl⟩ := List.mem_map.mp isKey
            have isReference := Document.mem_references_of_body stands isInner
            exact ⟨opened.covers.documents root isRoot isReference, allowed.2⟩
          refine ⟨0, .ok (node.map fun inner => .reference document inner bound), desk,
            .done ⟨⟨_, fewer, opened.covers, Nat.le_refl _⟩, allowedKeys⟩, fun depth _ _ _ => ?_⟩
          exact (runs depth).trans (by rw [stands]; rfl)

theorem depletes_workshop (guarded : horizon.family.Guarded) :
    Workshop.Depletes workshop horizon.Holds horizon.Opened (fun desk => horizon.Covers desk.own)
      horizon.Allows where
  bound _ _ := rfl
  grows fewer holds := holds.grows fewer
  enter {_ leaf} namer _ := opens_enter leaf namer
  body {limit leaf} allowed := by
    cases leaf with
    | built index bound => exact opens_built guarded allowed
    | reference document target bound => exact opens_reference allowed
    | alone index => exact Ends.throw nofun fun _ opened => opened.covers
  watch {limit} name := Ends.of_run fun desk start => by
    have same : horizon.reserve desk.names
        { desk.own with probes := desk.own.probes ++ [name] } = _ :=
      reserve_congr rfl rfl fun _ => rfl
    exact .done ⟨start.covers.of_same rfl rfl rfl rfl rfl rfl, same.trans_le start.within⟩
  declare {limit} namer name expansion := by
    have same (desk : Desk Cell Shelf) :
        ((Work.declare namer name expansion).runOn desk).2.own = desk.own ∧
          ((Work.declare namer name expansion).runOn desk).2.names = desk.names := by
      cases present : desk.namers[namer]? with
      | none =>
          rw [Work.runOn_declare_absent present]
          exact ⟨rfl, rfl⟩
      | some found =>
          rw [Work.runOn_declare_of_present present]
          exact ⟨rfl, rfl⟩
    refine Ends.of_shallow (.declare namer name expansion) (fun desk _ start _ => ?_)
      fun desk _ start _ => (same desk).1.symm ▸ start.covers
    refine ⟨(same desk).1.symm ▸ start.covers, ?_⟩
    rw [(same desk).1, (same desk).2]
    exact start.within

/-! ## Horizons -/

/-- The lazy leaves of the values and results that are kept. -/
def heldCells (shelf : Shelf) : List Cell :=
  (shelf.values.flatMap fun entry => entry.2.cells) ++
    shelf.definitions.flatMap fun entry => entry.2.results.flatMap fun result => result.2.cells

/-- The horizon of a shelf, of an interpreter and of further leaves. -/
def around (family : Family) (shelf : Shelf) (interpreter : Nat) (cells : List Cell) :
    Horizon where
  family := family
  interpreters := interpreter :: shelf.bodies.map Body.interpreter
  namers := none :: (shelf.namers.map (fun entry => some entry.2) ++
    shelf.interpreters.map Interpreter.namer? ++ (heldCells shelf ++ cells).map Cell.bound?)
  targets := (heldCells shelf ++ cells).filterMap Cell.target? ++
    shelf.documents.flatMap Json.references

section Around

variable {family : Family} {shelf : Shelf} {interpreter : Nat} {cells : List Cell}

theorem allows_around {cell : Cell} (isCell : cell ∈ heldCells shelf ++ cells) :
    (around family shelf interpreter cells).Allows cell := by
  have isNamer : cell.bound? ∈ (around family shelf interpreter cells).namers :=
    List.mem_cons_of_mem _ (List.mem_append_right _ (List.mem_map.mpr ⟨cell, isCell, rfl⟩))
  cases cell with
  | built index bound => exact isNamer
  | reference document target bound =>
      exact ⟨List.mem_append_left _ (List.mem_filterMap.mpr ⟨_, isCell, rfl⟩), isNamer⟩
  | alone index => trivial

theorem covers_around (adheres : shelf.Adheres family) :
    (around family shelf interpreter cells).Covers shelf where
  definitions := adheres
  results := by
    intro name entry isEntry cell isLeaf
    refine allows_around (List.mem_append_left _ (List.mem_append_right _ ?_))
    cases present : shelf.definition? name with
    | none =>
        rw [Shelf.resultsOf, present] at isEntry
        cases isEntry
    | some definition =>
        rw [Shelf.resultsOf_of_definition present] at isEntry
        obtain ⟨defined, isDefined, rfl⟩ := Table.exists_mem_of_find? present
        exact List.mem_flatMap.mpr ⟨defined, isDefined, List.mem_flatMap.mpr
          ⟨entry, isEntry, isLeaf⟩⟩
  values entry isEntry cell isLeaf :=
    allows_around (List.mem_append_left _ (List.mem_append_left _
      (List.mem_flatMap.mpr ⟨entry, isEntry, isLeaf⟩)))
  bodies body isBody := List.mem_cons_of_mem _ (List.mem_map.mpr ⟨body, isBody, rfl⟩)
  unbound := List.mem_cons_self
  namers entry isEntry := List.mem_cons_of_mem _ (List.mem_append_left _
    (List.mem_append_left _ (List.mem_map.mpr ⟨entry, isEntry, rfl⟩)))
  interpreters isBound := List.mem_cons_of_mem _ (List.mem_append_left _
    (List.mem_append_right _ (List.mem_map.mpr ⟨_, isBound, rfl⟩)))
  documents root isRoot target isReference :=
    List.mem_append_right _ (List.mem_flatMap.mpr ⟨root, isRoot, isReference⟩)

end Around

end Horizon

/-! ## Parts of steps -/

/-- Work of a program whose definitions are some of a family ends, and they are so afterwards. -/
abbrev Concludes (family : Family) {result : Type} (work : Nat → Nat → ProgramWork result) : Prop :=
  EndsWithin (fun desk => desk.own.Adheres family) (fun desk => desk.own.Adheres family) work

section Concludes

variable {family : Family}

theorem Concludes.of_spends
    {result : Type} {work : Nat → Nat → ProgramWork result} (interpreter : Nat)
    (cells : List Cell) (spends : ∀ horizon : Horizon, horizon.family = family →
      interpreter ∈ horizon.interpreters → (∀ cell ∈ cells, horizon.Allows cell) →
      ∀ limit, ∃ most known, horizon.Spends limit most known work) : Concludes family work := by
  intro desk adheres
  have allowed : ∀ cell ∈ cells,
      (Horizon.around family desk.own interpreter cells).Allows cell := fun cell isCell =>
    Horizon.allows_around (List.mem_append_right _ isCell)
  obtain ⟨most, known, ends⟩ := spends (.around family desk.own interpreter cells) rfl
    List.mem_cons_self allowed
    ((Horizon.around family desk.own interpreter cells).reserve desk.names desk.own)
  have concludes : Ends _ (fun _ desk => desk.own.Adheres family)
      (fun desk => desk.own.Adheres family) work :=
    Ends.mono ends (fun _ start => start) (fun _ _ held => held.1.covers.definitions)
      fun _ covers => covers.definitions
  exact concludes desk ⟨Horizon.covers_around adheres, Nat.le_refl _⟩

/-- Definitions are evaluated to an end. -/
theorem concludes_call (guarded : family.Guarded) (name : String) (interpreter : Nat) :
    Concludes family fun depth _ => call depth name interpreter := by
  refine .of_spends interpreter [] ?_
  rintro horizon rfl isInterpreter _ limit
  exact ⟨limit, _, Horizon.spends_call guarded isInterpreter name limit⟩

theorem concludes_evaluate
    (guarded : family.Guarded) (expression : Expression) (interpreter : Nat) :
    Concludes family fun depth _ => evaluate depth expression interpreter := by
  refine .of_spends interpreter [] ?_
  rintro horizon rfl isInterpreter _ limit
  exact ⟨_, _, Horizon.spends_evaluate guarded isInterpreter expression limit⟩

/-- Every node is rendered to an end. -/
theorem concludes_render (guarded : family.Guarded) (node : Node Cell) :
    Concludes family fun depth _ => (workshop depth).render depth node := by
  refine .of_spends standardInterpreter node.keys ?_
  rintro horizon rfl _ allowed limit
  have rendered := (Horizon.depletes_workshop guarded).render limit allowed
  have spends : horizon.Spends limit limit (fun _ : Signature => True)
      fun calls nesting => (workshop calls).render nesting node :=
    rendered.mono (fun _ start => start) (fun _ _ held => ⟨held, trivial⟩) fun _ covers => covers
  exact ⟨limit, _, Ends.diagonal spends⟩

/-! ## Steps -/

theorem tolerant_adheres :
    Tolerant fun before after => before.own.Adheres family → after.own.Adheres family where
  refl _ := id
  trans first second := second ∘ first
  shelf desk own widens adheres := by
    intro name definition present
    rw [Shelf.definition?, widens.definitions] at present
    exact adheres name definition present
  store _ _ _ adheres := adheres

theorem Concludes.of_keeps
    {result : Type} {step : ProgramWork result} (shallow : Shallow step)
    (keeps : Work.Keeps
      (fun before after => before.own.Adheres family → after.own.Adheres family) step) :
    Concludes family fun _ _ => step :=
  Ends.of_shallow shallow (fun desk _ adheres _ => keeps desk adheres)
    fun desk _ adheres _ => keeps desk adheres

theorem Concludes.of_ownRests
    {result : Type} {step : ProgramWork result} (shallow : Shallow step)
    (rests : Work.Keeps Desk.OwnRests step) : Concludes family fun _ _ => step :=
  .of_keeps shallow fun desk adheres => (rests desk).symm ▸ adheres

theorem concludes_find {content : Type} (table : Shelf → List (String × content)) (name : String) :
    Concludes family fun _ _ => Shelf.find table name :=
  .of_keeps (shallow_find table name) (tolerant_adheres.find table name)

theorem concludes_current : Concludes family fun _ _ => Shelf.current :=
  .of_keeps shallow_current tolerant_adheres.current

theorem concludes_update
    {change : Shelf → Shelf} (widens : ∀ shelf : Shelf, shelf.Widens (change shelf)) :
    Concludes family fun _ _ => Shelf.update change :=
  .of_keeps (.modify _) (tolerant_adheres.update widens)

theorem concludes_clearProbes : Concludes family fun _ _ => clearProbes :=
  concludes_update fun _ => .of_same rfl rfl rfl rfl

theorem concludes_define
    {name : String} {expression : Expression} (isMember : (name, expression) ∈ family) :
    Concludes family fun _ _ => Shelf.putDefinition name
      { expression := expression, keepsResults := true } := by
  refine .of_keeps (.modify _) fun desk adheres other definition present => ?_
  by_cases isSame : other = name
  · subst isSame
    cases (Table.find?_set_self other _ desk.own.definitions).symm.trans present
    exact ⟨isMember, rfl⟩
  · exact adheres other definition ((Table.find?_set_of_ne isSame _ _).symm.trans present)

end Concludes

namespace Reply

mutual

/-- The failures in a reply, those of the steps inside it included. -/
def failures : Reply → List Failure
  | .failed failure => [failure]
  | .active _ replies _ | .inner replies => failuresOfAll replies
  | .done | .text _ | .namer .. | .claimed .. | .cell _ | .built _ | .rendered .. | .found ..
  | .interpreted .. | .count _ => []

def failuresOfAll : List Reply → List Failure
  | [] => []
  | reply :: rest => failures reply ++ failuresOfAll rest

end

end Reply

namespace Step

mutual

/-- What a step defines, those inside it included. -/
def definitions : Step → List (String × Expression × Bool)
  | .define name expression keepsResults => [(name, expression, keepsResults)]
  | .useNamer _ steps _ | .runApart steps => definitionsOfAll steps
  | .createNamer .. | .mint _ | .declare .. | .copyDeclarations _ | .showNamer _ | .showActive
  | .createCell _ | .claim .. | .showCell _ | .build .. | .draft .. | .render .. | .renderItself _
  | .bindNamer .. | .createToy .. | .nameStandard _ | .createBare _ | .forget _ | .register _
  | .lookup _ | .interpret .. | .countResults _ => []

def definitionsOfAll : List Step → List (String × Expression × Bool)
  | [] => []
  | step :: rest => definitions step ++ definitionsOfAll rest

end

end Step

/-- Work that ends, if it succeeds, with a reply in which nothing has failed for the lack of
depth. -/
abbrev Responds (family : Family) (work : Nat → Nat → ProgramWork Reply) : Prop :=
  Ends (fun desk => desk.own.Adheres family)
    (fun reply desk => desk.own.Adheres family ∧ .outOfFuel ∉ reply.failures)
    (fun desk => desk.own.Adheres family) work

/-- What is defined belongs to a family, and it keeps its results. -/
def Belongs (family : Family) (definitions : List (String × Expression × Bool)) : Prop :=
  ∀ definition ∈ definitions, (definition.1, definition.2.1) ∈ family ∧ definition.2.2 = true

section Responds

variable {family : Family}

theorem Responds.of_reply {reply : Reply} (none : reply.failures = []) :
    Responds family fun _ _ => pure reply :=
  Ends.pure fun _ start => ⟨start, none ▸ List.not_mem_nil⟩

/-- The reply of a step that succeeds has no failures. -/
theorem Concludes.responds
    {result : Type} {work : Nat → Nat → ProgramWork result} {reply : result → Reply}
    (concludes : Concludes family work) (none : ∀ value, (reply value).failures = []) :
    Responds family fun calls nesting => work calls nesting >>= fun value => pure (reply value) :=
  concludes.bind fun value => Responds.of_reply (none value)

theorem responds_replied {work : Nat → Nat → ProgramWork Signature}
    (concludes : Concludes family work) :
    Responds family fun calls nesting => replied (work calls nesting) :=
  concludes.bind fun _ => concludes_current.responds fun _ => rfl

theorem responds_renderItself (guarded : family.Guarded) (name : String) :
    Responds family fun depth _ => renderItself depth name := by
  simp only [renderItself]
  refine (concludes_find _ name).bind fun value => ?_
  refine concludes_clearProbes.bind fun _ => ?_
  split
  · exact responds_replied (concludes_render guarded _)
  · exact Ends.throw nofun fun _ start => start

theorem responds_render (guarded : family.Guarded) (name : String) (namer : Option String) :
    Responds family fun depth _ => render depth name namer := by
  simp only [render]
  refine (concludes_find _ name).bind fun value => ?_
  refine Ends.bind (Concludes.of_keeps (shallow_namerOf? namer)
    (tolerant_adheres.namerOf? namer)) fun chosen => ?_
  refine concludes_clearProbes.bind fun _ => ?_
  refine Ends.bind (Concludes.of_keeps (shallow_requireNode value)
    (tolerant_adheres.requireNode value)) fun node => ?_
  have rendered := concludes_render guarded node
  cases chosen with
  | some index =>
      exact responds_replied (Ends.withActive rendered (some index) (fun _ start => start)
        (fun _ _ _ held => held) fun _ _ held => held)
  | none => exact responds_replied rendered

theorem responds_comparison (definition : String) (value : Value) (sameAs : Option String) :
    Responds family fun _ _ => comparison definition value sameAs := by
  refine (concludes_find _ definition).bind fun _ => ?_
  cases sameAs with
  | some other => exact (concludes_find _ other).responds fun _ => rfl
  | none => exact Responds.of_reply rfl

theorem responds_interpret
    (guarded : family.Guarded) (definition : String) (choice : Choice)
    (name sameAs : Option String) :
    Responds family fun depth _ => interpret depth definition choice name sameAs := by
  simp only [interpret]
  refine (concludes_find _ definition).bind fun _ => ?_
  refine Ends.bind (Concludes.of_keeps (shallow_chosen choice)
    (tolerant_adheres.chosen choice)) fun index => ?_
  refine (concludes_call guarded definition index).bind fun value => ?_
  cases name with
  | some name =>
      refine Ends.bind (Concludes.of_keeps (shallow_store name value)
        (tolerant_adheres.store name value)) fun _ => ?_
      exact responds_comparison definition value sameAs
  | none => exact responds_comparison definition value sameAs

/-- What fails is a reply, so that a list of steps does not fail. -/
theorem ends_attempt {work : Nat → Nat → ProgramWork Reply} (responds : Responds family work) :
    Ends (fun desk => desk.own.Adheres family)
      (fun reply desk => desk.own.Adheres family ∧ .outOfFuel ∉ reply.failures)
      (fun _ => False) fun calls nesting => attempt (work calls nesting) := by
  refine Ends.tryCatch responds fun failure isOther => Ends.pure fun desk start => ⟨start, ?_⟩
  rw [Reply.failures, List.mem_singleton]
  exact isOther.symm

mutual

/-- Every step of a program over a guarded family ends. -/
theorem responds_perform (guarded : family.Guarded) :
    (step : Step) → Belongs family step.definitions →
      Responds family fun depth _ => perform depth step
  | .createNamer name stem start, _ => by
      simp only [perform]
      refine Ends.bind (Concludes.of_keeps (.ofExcept (failsOnly_create stem start))
        (tolerant_adheres.ofExcept _)) fun namer => ?_
      have added : Concludes family fun _ _ => Shelf.addNamer name namer :=
        .of_keeps (shallow_addNamer name namer) fun _ adheres => adheres
      exact added.responds fun _ => rfl
  | .mint namer, _ => by
      simp only [perform]
      refine (concludes_find _ namer).bind fun index => ?_
      exact (Concludes.of_ownRests (.mint index) (Desk.ownRests_mint index)).responds fun _ => rfl
  | .declare namer name expansion, _ => by
      simp only [perform]
      refine (concludes_find _ namer).bind fun index => ?_
      exact (Concludes.of_ownRests (.declare index name _)
        (Desk.ownRests_declare index name _)).responds fun _ => rfl
  | .copyDeclarations namer, _ => by
      simp only [perform]
      exact (concludes_find _ namer).responds fun _ => rfl
  | .showNamer namer, _ => by
      simp only [perform]
      refine (concludes_find _ namer).bind fun index => ?_
      refine Ends.bind (Concludes.of_keeps (.namerAt index)
        (tolerant_adheres.namerAt index)) fun found => ?_
      exact (Concludes.of_keeps (.ofExcept (failsOnly_describe found))
        (tolerant_adheres.ofExcept _)).responds fun _ => rfl
  | .showActive, _ => by
      simp only [perform]
      exact (Concludes.of_keeps shallow_activeName tolerant_adheres.activeName).responds
        fun _ => rfl
  | .useNamer namer steps raises, belongs => by
      rw [Step.definitions] at belongs
      simp only [perform]
      refine (concludes_find _ namer).bind fun index => ?_
      have within : Responds family fun depth _ => (do
          let name ← activeName
          let replies ← performAll depth steps
          return .active name replies raises) := by
        refine Ends.bind (Concludes.of_keeps shallow_activeName tolerant_adheres.activeName)
          fun name => ?_
        refine ((responds_performAll guarded steps belongs).mono (fun _ start => start)
          (fun _ _ held => held) fun _ impossible => impossible.elim).bind fun replies => ?_
        exact Ends.pure fun _ held => held
      exact Ends.withActive within (some index) (fun _ start => start) (fun _ _ _ held => held)
        fun _ _ held => held
  | .runApart steps, belongs => by
      rw [Step.definitions] at belongs
      simp only [perform]
      refine Ends.bind (Ends.withActive ((responds_performAll guarded steps belongs).mono
        (fun _ start => start) (fun _ _ held => held) fun _ impossible => impossible.elim) none
        (fun _ start => start) (fun _ _ _ held => held) fun _ _ held => held) fun replies => ?_
      exact Ends.pure fun _ held => held
  | .createCell name, _ => by
      simp only [perform]
      refine Ends.bind (Concludes.of_keeps (fun _ => .ok _) tolerant_adheres.freshMark)
        fun index => ?_
      exact Ends.bind (concludes_update fun _ => .of_same rfl rfl rfl rfl) fun _ =>
        Responds.of_reply rfl
  | .claim cell namer, _ => by
      simp only [perform]
      refine Ends.bind (Concludes.of_keeps (shallow_cellNamed cell)
        (tolerant_adheres.cellNamed cell)) fun key => ?_
      refine (concludes_find _ namer).bind fun index => ?_
      exact (Concludes.of_ownRests (.claim key index)
        (Desk.ownRests_claim key index)).responds fun _ => rfl
  | .showCell cell, _ => by
      simp only [perform]
      refine Ends.bind (Concludes.of_keeps (shallow_cellNamed cell)
        (tolerant_adheres.cellNamed cell)) fun key => ?_
      exact (Concludes.of_keeps .get tolerant_adheres.get).responds fun _ => rfl
  | .build name expression, _ => by
      simp only [perform]
      refine concludes_clearProbes.bind fun _ => ?_
      refine (concludes_evaluate guarded expression _).bind fun value => ?_
      refine Ends.bind (Concludes.of_keeps (shallow_store name value)
        (tolerant_adheres.store name value)) fun _ => ?_
      exact concludes_current.responds fun _ => rfl
  | .draft name document namer, _ => by
      simp only [perform]
      exact (Concludes.of_keeps (shallow_storeDraft name document namer)
        (tolerant_adheres.storeDraft name document namer)).responds fun _ => rfl
  | .render name namer, _ => by
      simp only [perform]
      exact responds_render guarded name namer
  | .renderItself name, _ => by
      simp only [perform]
      exact responds_renderItself guarded name
  | .define name expression keepsResults, belongs => by
      rw [Step.definitions] at belongs
      obtain ⟨isMember, keeps⟩ := belongs _ (List.mem_singleton_self _)
      simp only at isMember keeps
      subst keeps
      simp only [perform]
      exact (concludes_define isMember).responds fun _ => rfl
  | .bindNamer name namer, _ => by
      simp only [perform]
      refine (concludes_find _ namer).bind fun index => ?_
      exact (Concludes.of_keeps (shallow_createInterpreter name _)
        (tolerant_adheres.createInterpreter name _)).responds fun _ => rfl
  | .createToy name uri lasting, _ => by
      simp only [perform]
      exact (Concludes.of_keeps (shallow_createInterpreter name _)
        (tolerant_adheres.createInterpreter name _)).responds fun _ => rfl
  | .nameStandard name, _ => by
      simp only [perform]
      exact (Concludes.of_keeps (.modify _) (tolerant_adheres.nameInterpreter name _)).responds
        fun _ => rfl
  | .createBare name, _ => by
      simp only [perform]
      exact (Concludes.of_keeps (shallow_createInterpreter name _)
        (tolerant_adheres.createInterpreter name _)).responds fun _ => rfl
  | .forget name, _ => by
      simp only [perform]
      refine (concludes_find _ name).bind fun _ => ?_
      exact Ends.bind (concludes_update fun _ => .of_same rfl rfl rfl rfl) fun _ =>
        Responds.of_reply rfl
  | .register name, _ => by
      simp only [perform]
      refine (concludes_find _ name).bind fun index => ?_
      exact (Concludes.of_keeps (shallow_register index)
        (tolerant_adheres.register index)).responds fun _ => rfl
  | .lookup uri, _ => by
      simp only [perform]
      refine Ends.bind (Concludes.of_keeps (shallow_lookup uri)
        (tolerant_adheres.lookup uri)) fun index => ?_
      refine Ends.bind (Concludes.of_keeps (shallow_interpreterAt index)
        (tolerant_adheres.interpreterAt index)) fun _ => ?_
      exact concludes_current.responds fun _ => rfl
  | .interpret definition choice name sameAs, _ => by
      simp only [perform]
      exact responds_interpret guarded definition choice name sameAs
  | .countResults definition, _ => by
      simp only [perform]
      refine (concludes_find _ definition).bind fun found => ?_
      refine concludes_current.bind fun shelf => ?_
      exact (Concludes.of_keeps (.ofExcept (failsOnly_size shelf found))
        (tolerant_adheres.ofExcept _)).responds fun _ => rfl

theorem responds_performAll (guarded : family.Guarded) :
    (steps : List Step) → Belongs family (Step.definitionsOfAll steps) →
      Ends (fun desk => desk.own.Adheres family)
        (fun replies desk => desk.own.Adheres family ∧ .outOfFuel ∉ Reply.failuresOfAll replies)
        (fun _ => False) fun depth _ => performAll depth steps
  | [], _ => by
      simp only [performAll]
      exact Ends.pure fun _ start => ⟨start, List.not_mem_nil⟩
  | step :: rest, belongs => by
      rw [Step.definitionsOfAll] at belongs
      simp only [performAll]
      have first := responds_perform guarded step fun definition isDefined =>
        belongs definition (List.mem_append_left _ isDefined)
      have later := responds_performAll guarded rest fun definition isDefined =>
        belongs definition (List.mem_append_right _ isDefined)
      refine (ends_attempt first).bind fun reply => ?_
      rintro desk ⟨adheres, endsWell⟩
      have both : Ends (fun desk => desk.own.Adheres family)
          (fun replies desk => desk.own.Adheres family ∧ .outOfFuel ∉ Reply.failuresOfAll replies)
          (fun _ => False)
          (fun depth _ => performAll depth rest >>= fun replies => pure (reply :: replies)) := by
        refine later.bind fun replies => Ends.pure fun _ held => ⟨held.1, ?_⟩
        rw [Reply.failuresOfAll, List.mem_append]
        exact fun isFailure => isFailure.elim endsWell held.2
      exact both desk adheres

end

end Responds

end SchemaSignature.Program
