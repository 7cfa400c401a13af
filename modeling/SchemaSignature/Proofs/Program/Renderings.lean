import SchemaSignature.Proofs.Naming.Stability
import SchemaSignature.Proofs.Program.Evaluations
import SchemaSignature.Proofs.Program.Names

/-!
The rendering steps of a program. A step looks up a value and a namer, forgets the names that have
been watched, and renders the node of the value, in a block of the namer if there is one. After the
first rendering that succeeds, whatever the program does and whichever namer is chosen or active, the
node is rendered from the names of its lazy leaves.
-/

namespace SchemaSignature.Program

/-! ## What rendering steps consist of -/

section Namers

variable {name : String} {desk : Desk Cell Shelf}

theorem runOn_namerOf?_of_present
    {namer : Nat} (present : Table.find? (· == name) desk.own.namers = some namer) :
    (namerOf? (some name)).runOn desk = (.ok (some namer), desk) := by
  change (some <$> Shelf.find Shelf.namers name).runOn desk = _
  rw [← bind_pure_comp, Work.runOn_bind_of_ok (runOn_find_of_present present), Work.runOn_pure]

theorem runOn_namerOf?_of_absent
    (absent : Table.find? (· == name) desk.own.namers = none) :
    (namerOf? (some name)).runOn desk = (.error .undefined, desk) := by
  change (some <$> Shelf.find Shelf.namers name).runOn desk = _
  rw [← bind_pure_comp, Work.runOn_bind_of_error (runOn_find_of_absent absent)]

end Namers

theorem replied_withActive (active : Option Nat) (work : ProgramWork Signature) :
    replied (Work.withActive active work) = Work.withActive active (replied work) := by
  funext desk
  change (replied (Work.withActive active work)).runOn desk =
    (Work.withActive active (replied work)).runOn desk
  rw [replied, Work.runOn_bind, Work.runOn_withActive, Work.runOn_withActive, replied,
    Work.runOn_bind]
  rcases work.runOn { desk with active := active } with ⟨outcome, after⟩
  cases outcome <;> rfl

/-- The desk without the names that have been watched. -/
def clearedOn (desk : Desk Cell Shelf) : Desk Cell Shelf :=
  { desk with own := { desk.own with probes := [] } }

section Rendering

variable {depth : Nat} {name : String} {namer : Option String} {value : Value}
  {desk : Desk Cell Shelf}

theorem runOn_render_of_absent (absent : Table.find? (· == name) desk.own.values = none) :
    (render depth name namer).runOn desk = (.error .undefined, desk) := by
  rw [render, Work.runOn_bind_of_error (runOn_find_of_absent absent)]

theorem runOn_render_of_present
    {chosen : Option Nat} (stored : Table.find? (· == name) desk.own.values = some value)
    (found : (namerOf? namer).runOn desk = (.ok chosen, desk)) :
    (render depth name namer).runOn desk =
      match value.content with
      | .node node =>
          (replied ((workshop depth).renderWith depth node chosen)).runOn (clearedOn desk)
      | .plain content => (.error (.misuse (.notRenderable content.kind)), clearedOn desk) := by
  rw [render, Work.runOn_bind_of_ok (runOn_find_of_present stored), Work.runOn_bind_of_ok found]
  obtain ⟨mark, content⟩ := value
  cases content with
  | plain content => rfl
  | node node => cases chosen <;> rfl

/-- A stored value is rendered in a block of the namer that is found. -/
theorem runOn_render_under
    {index : Nat} (stored : Table.find? (· == name) desk.own.values = some value)
    (found : (namerOf? namer).runOn desk = (.ok (some index), desk)) :
    (render depth name namer).runOn desk =
      (Work.withActive (some index) (render depth name none)).runOn desk := by
  have inside : (render depth name none).runOn { desk with active := some index } = _ :=
    runOn_render_of_present stored rfl
  rw [runOn_render_of_present stored found, Work.runOn_withActive, inside]
  cases value.content with
  | plain content => rfl
  | node node =>
      exact congrFun (replied_withActive (some index) ((workshop depth).render depth node))
        (clearedOn desk)

end Rendering

/-! ## Rendering again -/

variable {depth : Nat} {node : Node Cell} {chosen : Option Nat} {desk after : Desk Cell Shelf}

/-- What is left of a watched name. -/
def noted (shelf : Shelf) (name : String) : Shelf :=
  { shelf with probes := shelf.probes ++ [name] }

theorem foldl_noted (shelf : Shelf) (names : List String) :
    names.foldl noted shelf = { shelf with probes := shelf.probes ++ names } := by
  induction names generalizing shelf with
  | nil => rw [List.foldl_nil, List.append_nil]
  | cons name rest inductionHypothesis =>
      rw [List.foldl_cons, inductionHypothesis, noted, List.append_assoc, List.singleton_append]

theorem runOn_watch (depth : Nat) (seen : String) (desk : Desk Cell Shelf) :
    ((workshop depth).watch seen).runOn desk = (.ok (), { desk with own := noted desk.own seen }) :=
  rfl

/-- Once a node has been rendered, its lazy leaves have names, and the first result has, for each
leaf, its name or the expansion that was declared under the name when the leaf got it. However the
desk develops from then on, and all that a program does is such a development, every rendering of
the node has the names in the places of the leaves, whichever namer is chosen or active and whatever
the bodies of the leaves are, and it leaves the namers, the names and the log as they are. -/
theorem render_again
    {first : Signature}
    (ran : ((workshop depth).renderWith depth node chosen).runOn desk = (.ok first, after)) :
    ∃ (history : List (Move Cell)) (parts : List Signature) (name : Cell → String),
      desk.Evolves history after ∧
      (∀ leaf ∈ node.keys, after.nameOf? leaf = some (name leaf)) ∧
      List.Forall₂ (Desk.Settled history after) node.keys parts ∧
      first = node.fill parts ∧
      (∀ otherDepth steps, after.Develops ((performAll otherDepth steps).runOn after).2) ∧
      ∀ later, after.Develops later → ∀ otherDepth otherChosen bodies,
        (((workshop otherDepth).withBodies bodies).renderWith otherDepth node otherChosen).runOn
            later =
          (.ok (node.fill (node.keys.map fun leaf => .lazy (name leaf))),
            { later with own := { later.own with probes := later.own.probes ++ node.watches } }) := by
  obtain ⟨history, parts, ⟨evolves, settled⟩, filled⟩ :=
    Workshop.settles_renderWith (steps_workshop depth) ran
  have named : ∀ leaf ∈ node.keys, after.nameOf? leaf = some ((after.nameOf? leaf).getD "") := by
    intro leaf isLeaf
    obtain ⟨part, _, settledLeaf⟩ := Node.exists_of_mem_right settled.flip isLeaf
    obtain ⟨name, found⟩ := settledLeaf.exists_name
    rw [found, Option.getD_some]
  refine ⟨history, parts, fun leaf => (after.nameOf? leaf).getD "", evolves, named, settled, filled,
    fun otherDepth steps => develops_performAll otherDepth steps after, ?_⟩
  rintro later ⟨between, evolvesLater⟩ otherDepth otherChosen bodies
  have namedLater : ∀ leaf ∈ node.keys,
      later.nameOf? leaf = some ((after.nameOf? leaf).getD "") :=
    fun leaf isLeaf => evolvesLater.records.lasts.names leaf _ (named leaf isLeaf)
  have watches : ∀ seen (desk : Desk Cell Shelf),
      (((workshop otherDepth).withBodies bodies).watch seen).runOn desk =
        (.ok (), { desk with own := noted desk.own seen }) :=
    runOn_watch otherDepth
  rw [Workshop.runOn_renderWith_of_named watches namedLater, foldl_noted]

/-- A program that builds a lazy node for an array of lazy strings. -/
def buildLazyArray : List Step :=
  [.build "strings" (.lazy (.container .array (.lazy (.primitive .string) none)) none)]

/-- The lazy node of the program. The one inside is built when this one is first rendered. -/
def lazyArray : Node Cell :=
  .lazy (.built 0 none)

/-- The first rendering of the lazy node is its expansion; every later one is its name. -/
theorem render_again_lazyArray :
    ∃ after,
      ((workshop 3).renderWith 3 lazyArray none).runOn (deskAfter 3 buildLazyArray) =
        (.ok (.container .array (.primitive .string)), after) ∧
      ∀ later, after.Develops later → ∀ otherDepth otherChosen bodies,
        (((workshop otherDepth).withBodies bodies).renderWith otherDepth lazyArray
            otherChosen).runOn later =
          (.ok (.lazy "$Ref1"), later) := by
  let after := (((workshop 3).renderWith 3 lazyArray none).runOn (deskAfter 3 buildLazyArray)).2
  have ran :
      ((workshop 3).renderWith 3 lazyArray none).runOn (deskAfter 3 buildLazyArray) =
        (.ok (.container .array (.primitive .string)), after) :=
    rfl
  refine ⟨after, ran, ?_⟩
  intro later develops otherDepth otherChosen bodies
  obtain ⟨_, _, name, _, named, _, _, _, again⟩ := render_again ran
  have given : after.nameOf? (.built 0 none) = some "$Ref1" := rfl
  have sameName : name (.built 0 none) = "$Ref1" :=
    Option.some.inj ((named _ List.mem_cons_self).symm.trans given)
  have unwatched : later.own.probes ++ lazyArray.watches = later.own.probes := List.append_nil _
  rw [again later develops otherDepth otherChosen bodies, unwatched, ← sameName]
  rfl

end SchemaSignature.Program
