import SchemaSignature.Proofs.Naming.Expansions
import SchemaSignature.Proofs.Program.Names
import SchemaSignature.Proofs.Program.Termination

/-!
Recursion through the bodies of lazy nodes. If every way back from a definition to itself passes
through such a body, then a program comes to an end, whichever definitions it evaluates, with
whatever interpreters, and however often it renders what comes of them; and of all the lazy nodes
that there ever are, none has its body run twice.
-/

namespace SchemaSignature.Program

/-- Work of a program that takes notes of the bodies that run. -/
abbrev NotingWork (result : Type) : Type :=
  Work Cell (Shelf × List Cell) result

/-- The reply of a rendering that takes notes. -/
def repliedNoting (noting : NotingWork Signature) : NotingWork Reply := do
  let signature ← noting
  return .rendered signature.text (← Shelf.current.unnoted).probes

/-- Lets a stored value render itself, and notes the bodies. -/
def renderItselfNoting (depth : Nat) (name : String) : NotingWork Reply := do
  let value ← (Shelf.find Shelf.values name).unnoted
  clearProbes.unnoted
  match value.content with
  | .node node => repliedNoting ((workshop depth).noting.render depth node)
  | .plain _ => throw (.misuse .missingOperation)

def renderNoting (depth : Nat) (name : String) (namer : Option String) : NotingWork Reply := do
  let value ← (Shelf.find Shelf.values name).unnoted
  let namer ← (namerOf? namer).unnoted
  clearProbes.unnoted
  let node ← (requireNode value).unnoted
  repliedNoting
    (match namer with
    | some namer => (workshop depth).noting.renderUnder depth namer node
    | none => (workshop depth).noting.render depth node)

mutual

/-- Takes a step, and notes the bodies that run. -/
def performNoting (depth : Nat) : Step → NotingWork Reply
  | .useNamer namer steps raises => do
      let index ← (Shelf.find Shelf.namers namer).unnoted
      Work.withActive (some index) do
        return .active (← activeName.unnoted) (← performAllNoting depth steps) raises
  | .runApart steps => do
      return .inner (← Work.withActive none (performAllNoting depth steps))
  | .render name namer => renderNoting depth name namer
  | .renderItself name => renderItselfNoting depth name
  | step => (perform depth step).unnoted

def performAllNoting (depth : Nat) : List Step → NotingWork (List Reply)
  | [] => pure []
  | step :: rest => do
      let first ← tryCatch (performNoting depth step) fun failure => pure (.failed failure)
      let others ← performAllNoting depth rest
      pure (first :: others)

end

/-! ## What notes are taken -/

open Work (Annotates)

theorem annotates_find {content : Type} (table : Shelf → List (String × content)) (name : String) :
    Annotates (Shelf.find table name).unnoted (Shelf.find table name) :=
  .unnoted (conduct_develops.find table name)

theorem annotates_current : Annotates Shelf.current.unnoted Shelf.current :=
  .unnoted conduct_develops.current

theorem annotates_clearProbes : Annotates clearProbes.unnoted clearProbes :=
  .unnoted conduct_develops.clearProbes

theorem annotates_workshop (depth : Nat) (node : Node Cell) :
    Annotates ((workshop depth).noting.render depth node) ((workshop depth).render depth node) :=
  Workshop.annotates_render (rests_bodyOf depth) (fun _ => Shelf.rests_update _) depth node

theorem annotates_replied
    {noting : NotingWork Signature} {work : ProgramWork Signature}
    (annotates : Annotates noting work) : Annotates (repliedNoting noting) (replied work) :=
  annotates.bind fun _ => annotates_current.bind fun _ => .pure _

theorem annotates_renderItself (depth : Nat) (name : String) :
    Annotates (renderItselfNoting depth name) (renderItself depth name) := by
  refine (annotates_find _ name).bind fun value => ?_
  refine annotates_clearProbes.bind fun _ => ?_
  obtain ⟨mark, content⟩ := value
  cases content with
  | node node => exact annotates_replied (annotates_workshop depth node)
  | plain content => exact .throw _

theorem annotates_render (depth : Nat) (name : String) (namer : Option String) :
    Annotates (renderNoting depth name namer) (render depth name namer) := by
  refine (annotates_find _ name).bind fun value => ?_
  refine (Annotates.unnoted (conduct_develops.namerOf? namer)).bind fun index => ?_
  refine annotates_clearProbes.bind fun _ => ?_
  refine (Annotates.unnoted (conduct_develops.requireNode value)).bind fun node => ?_
  cases index with
  | some index =>
      exact annotates_replied ((annotates_workshop depth node).withActive (some index))
  | none => exact annotates_replied (annotates_workshop depth node)

mutual

/-- Every step comes out as it does without notes, and it notes bodies of leaves that get a name. -/
theorem annotates_perform (depth : Nat) :
    (step : Step) → Annotates (performNoting depth step) (perform depth step)
  | .useNamer namer steps raises => by
      rw [performNoting, perform]
      refine (annotates_find _ namer).bind fun index => ?_
      refine Annotates.withActive ?_ (some index)
      refine (Annotates.unnoted conduct_develops.activeName).bind fun name => ?_
      exact (annotates_performAll depth steps).bind fun _ => .pure _
  | .runApart steps => by
      rw [performNoting, perform]
      exact ((annotates_performAll depth steps).withActive none).bind fun _ => .pure _
  | .render name namer => by
      rw [performNoting, perform]
      exact annotates_render depth name namer
  | .renderItself name => by
      rw [performNoting, perform]
      exact annotates_renderItself depth name
  | .createNamer .. | .mint _ | .declare .. | .copyDeclarations _ | .showNamer _ | .showActive
  | .createCell _ | .claim .. | .showCell _ | .build .. | .draft .. | .define .. | .bindNamer ..
  | .createToy .. | .nameStandard _ | .createBare _ | .forget _ | .register _ | .lookup _
  | .interpret .. | .countResults _ => by
      simp only [performNoting]
      exact .unnoted (conduct_develops.perform depth _)

theorem annotates_performAll (depth : Nat) :
    (steps : List Step) → Annotates (performAllNoting depth steps) (performAll depth steps)
  | [] => by
      rw [performAllNoting, performAll]
      exact .pure _
  | step :: rest => by
      rw [performAllNoting, performAll]
      have attempted := (annotates_perform depth step).tryCatch fun failure =>
        .pure (Reply.failed failure)
      exact attempted.bind fun _ => (annotates_performAll depth rest).bind fun _ => .pure _

end

/-- Apart from the notes, a program comes out as it does without them, and no body is noted twice. -/
theorem noted_once (depth : Nat) (program : List Step) :
    ∃ bodies, bodies.Nodup ∧ (performAllNoting depth program).runOn (initial.noted []) =
      (((performAll depth program).runOn initial).1,
        ((performAll depth program).runOn initial).2.noted bodies) := by
  obtain ⟨same, notes⟩ := annotates_performAll depth program
  obtain ⟨outcomes, after⟩ := same (initial.noted []) initial rfl
  obtain ⟨history, evolves⟩ := develops_performAll depth program initial
  have once := evolves.records.once List.nodup_nil
  rw [← after] at once
  refine ⟨_, (notes (initial.noted [])).nodup rfl once, Prod.ext outcomes.eq.symm ?_⟩
  rw [← after]
  rfl

/-! ## Guarded recursion -/

/-- If all definitions of a program keep their results and belong to a family in which every way back
to a definition passes through the body of a lazy node, the program comes to an end: with whatever
interpreters it evaluates them and however often it renders what they come to, nothing fails for the
lack of depth if there is enough of it, and more of it makes no difference. The body of no lazy node
runs twice. -/
theorem guarded_recursion_ends
    {family : Family} {program : List Step} (guarded : family.Guarded)
    (belongs : Belongs family (Step.definitionsOfAll program)) :
    (∃ bound replies after, .outOfFuel ∉ Reply.failuresOfAll replies ∧
        ∀ depth, bound ≤ depth →
          (performAll depth program).runOn initial = (.ok replies, after)) ∧
      ∀ depth, ∃ bodies, bodies.Nodup ∧
        (performAllNoting depth program).runOn (initial.noted []) =
          (((performAll depth program).runOn initial).1,
            ((performAll depth program).runOn initial).2.noted bodies) := by
  refine ⟨?_, fun depth => noted_once depth program⟩
  have nothing : initial.own.Adheres family := fun _ _ impossible => by cases impossible
  obtain ⟨bound, outcome, after, ended, runs⟩ :=
    responds_performAll guarded program belongs initial nothing
  cases ended with
  | failed _ impossible => exact impossible.elim
  | @done replies _ holds =>
      exact ⟨bound, replies, after, holds.2, fun depth enough => runs depth depth enough enough⟩

/-- Trees and their branches, defined by each other. -/
def trees : Family :=
  [("tree", .lazy (.fields .required [(.str "branches", .defined "branches")]) none),
    ("branches", .container .array (.defined "tree"))]

/-- The branches depend on the trees, and the trees on nothing until their body is looked at. -/
theorem guarded_trees : trees.Guarded := by
  have only {lower upper : String} (depends : trees.Depends lower upper) :
      lower = "tree" ∧ upper = "branches" := by
    obtain ⟨expression, isMember, isUsed⟩ := depends
    rcases List.mem_pair.mp isMember with same | same
    · cases same
      cases isUsed
    · cases same
      exact ⟨List.mem_singleton.mp isUsed, rfl⟩
  have chain {lower upper : String} (depends : Relation.TransGen trees.Depends lower upper) :
      lower = "tree" ∧ upper = "branches" := by
    induction depends with
    | single depends => exact only depends
    | tail _ depends inductionHypothesis => exact ⟨inductionHypothesis.1, (only depends).2⟩
  intro name depends
  obtain ⟨isTree, isBranches⟩ := chain depends
  exact absurd (isTree.symm.trans isBranches) (by decide)

/-- The branches are evaluated with two interpreters, and both results are rendered twice. -/
def growTrees : List Step :=
  [.define "tree" (.lazy (.fields .required [(.str "branches", .defined "branches")]) none) true,
    .define "branches" (.container .array (.defined "tree")) true,
    .createNamer "own" "$A" 0, .bindNamer "bound" "own",
    .interpret "branches" .standard (some "one") none, .render "one" none, .render "one" none,
    .interpret "branches" (.named "bound") (some "two") none, .render "two" none,
    .render "two" none]

/-- A depth of two is enough for the trees, and the body of each of their two lazy nodes runs once. -/
theorem guarded_recursion_ends_trees :
    trees.Guarded ∧ Belongs trees (Step.definitionsOfAll growTrees) ∧
      (∃ bound replies after, .outOfFuel ∉ Reply.failuresOfAll replies ∧
        ∀ depth, bound ≤ depth →
          (performAll depth growTrees).runOn initial = (.ok replies, after)) ∧
      (Reply.failuresOfAll (run 2 growTrees)).length = 0 ∧
      ((performAllNoting 2 growTrees).runOn (initial.noted [])).2.own.2 =
        [.built 0 none, .built 1 (some 1)] := by
  have belongs : Belongs trees (Step.definitionsOfAll growTrees) := by
    intro definition isDefined
    rcases List.mem_pair.mp isDefined with rfl | rfl
    · exact ⟨List.mem_cons_self, rfl⟩
    · exact ⟨List.mem_cons_of_mem _ List.mem_cons_self, rfl⟩
  exact ⟨guarded_trees, belongs, (guarded_recursion_ends guarded_trees belongs).1,
    by decide +kernel, by decide +kernel⟩

end SchemaSignature.Program
