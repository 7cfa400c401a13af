import SchemaSignature.Proofs.Naming.Running

/-!
What holds between the desk before some work and the desk after it. A property of work that carries
over from step to step holds of rebuilding a node if it holds of the work on each leaf. One such
property is to take every desk to one that it is related to; it does not matter whether a step fails,
since what it has changed stays changed.
-/

namespace SchemaSignature

/-! ## Properties that carry over -/

variable {key own : Type}

/-- A property of work, or of a family of works, that carries over from step to step. -/
structure Work.Compositional {index : Type}
    (holds : {result : Type} → (index → Work key own result) → Prop) : Prop where
  pure : ∀ {result : Type} (value : result), holds fun _ => pure value
  bind : ∀ {first second : Type} {work : index → Work key own first}
    {next : first → index → Work key own second},
    holds work → (∀ value, holds (next value)) →
      holds fun each => work each >>= fun value => next value each

namespace Work.Compositional

variable {index leaf other : Type} {holds : {result : Type} → (index → Work key own result) → Prop}
  (compositional : Work.Compositional holds) (expand : index → leaf → Work key own (Node other))
  (watch : index → String → Work key own Unit)

include compositional

mutual

/-- What holds of the work on each lazy leaf of a node holds of rebuilding the node. -/
theorem traverse (watches : ∀ name, holds fun each => watch each name) :
    (node : Node leaf) → (∀ key ∈ node.keys, holds fun each => expand each key) →
      holds fun each => node.traverse (expand each) (watch each)
  | .primitive _, _ | .literals _, _ | .made _, _ => by
      simp only [Node.traverse]
      exact compositional.pure _
  | .watched name, _ => by
      simp only [Node.traverse]
      exact compositional.bind (watches name) fun _ => compositional.pure _
  | .lazy key, expands => by
      simp only [Node.traverse]
      exact expands key List.mem_cons_self
  | .fields _ entries, expands => by
      simp only [Node.traverse]
      exact compositional.bind (traverseEntries watches entries expands) fun _ =>
        compositional.pure _
  | .container _ element, expands => by
      simp only [Node.traverse]
      exact compositional.bind (traverse watches element expands) fun _ => compositional.pure _
  | .group _ members, expands => by
      simp only [Node.traverse]
      exact compositional.bind (traverseMembers watches members expands) fun _ =>
        compositional.pure _

theorem traverseEntries (watches : ∀ name, holds fun each => watch each name) :
    (entries : List (String × Node leaf)) →
      (∀ key ∈ Node.keysOfEntries entries, holds fun each => expand each key) →
      holds fun each => Node.traverseEntries (expand each) (watch each) entries
  | [], _ => by
      simp only [Node.traverseEntries]
      exact compositional.pure _
  | (_, node) :: rest, expands => by
      rw [Node.keysOfEntries] at expands
      simp only [Node.traverseEntries]
      refine compositional.bind (traverse watches node fun key isKey =>
        expands key (List.mem_append_left _ isKey)) fun _ => ?_
      refine compositional.bind (traverseEntries watches rest fun key isKey =>
        expands key (List.mem_append_right _ isKey)) fun _ => ?_
      exact compositional.pure _

theorem traverseMembers (watches : ∀ name, holds fun each => watch each name) :
    (members : List (Node leaf)) →
      (∀ key ∈ Node.keysOfMembers members, holds fun each => expand each key) →
      holds fun each => Node.traverseMembers (expand each) (watch each) members
  | [], _ => by
      simp only [Node.traverseMembers]
      exact compositional.pure _
  | node :: rest, expands => by
      rw [Node.keysOfMembers] at expands
      simp only [Node.traverseMembers]
      refine compositional.bind (traverse watches node fun key isKey =>
        expands key (List.mem_append_left _ isKey)) fun _ => ?_
      refine compositional.bind (traverseMembers watches rest fun key isKey =>
        expands key (List.mem_append_right _ isKey)) fun _ => ?_
      exact compositional.pure _

end

end Work.Compositional

/-! ## Relations between desks -/

variable {key own first second : Type}

/-- Work takes every desk to one that it is related to, whatever the result is. -/
def Work.Keeps (relation : Desk key own → Desk key own → Prop) (work : Work key own first) : Prop :=
  ∀ desk, relation desk (work.runOn desk).2

/-- A relation between desks that carries over from step to step. -/
structure Desk.Stepwise (relation : Desk key own → Desk key own → Prop) : Prop where
  refl : ∀ desk, relation desk desk
  trans : ∀ {desk middle after}, relation desk middle → relation middle after → relation desk after

/-- A relation between desks that carries over from step to step, and from what is done while another
namer is active to the whole. -/
structure Desk.Cumulative (relation : Desk key own → Desk key own → Prop) : Prop
    extends Desk.Stepwise relation where
  within : ∀ {desk after} (active : Option Nat), relation { desk with active := active } after →
    relation desk { after with active := desk.active }

namespace Desk.Stepwise

variable {relation : Desk key own → Desk key own → Prop} (stepwise : Stepwise relation)

include stepwise

theorem pure (value : first) : Work.Keeps relation (pure value) :=
  fun desk => stepwise.refl desk

theorem throw (failure : Failure) : Work.Keeps relation (throw failure : Work key own first) :=
  fun desk => stepwise.refl desk

theorem ofExcept (outcome : Except Failure first) :
    Work.Keeps relation (Work.ofExcept outcome) := by
  intro desk
  rw [Work.runOn_ofExcept]
  exact stepwise.refl desk

theorem bind
    {work : Work key own first} {next : first → Work key own second}
    (kept : Work.Keeps relation work) (keptLater : ∀ value, Work.Keeps relation (next value)) :
    Work.Keeps relation (work >>= next) := by
  intro desk
  have before := kept desk
  rw [Work.runOn_bind]
  split
  · next value middle ran =>
      rw [ran] at before
      exact stepwise.trans before (keptLater value middle)
  · next failure middle ran =>
      rw [ran] at before
      exact before

/-- What comes after an outcome may rest on the outcome. -/
theorem ofExcept_bind
    {outcome : Except Failure first} {next : first → Work key own second}
    (keptLater : ∀ value, outcome = .ok value → Work.Keeps relation (next value)) :
    Work.Keeps relation (Work.ofExcept outcome >>= next) := by
  intro desk
  cases outcome with
  | ok value => exact keptLater value rfl desk
  | error failure => exact stepwise.refl desk

theorem map
    {work : Work key own first} (kept : Work.Keeps relation work) (change : first → second) :
    Work.Keeps relation (change <$> work) := by
  rw [← bind_pure_comp]
  exact stepwise.bind kept fun value => stepwise.pure (change value)

theorem get : Work.Keeps relation (get : Work key own (Desk key own)) :=
  fun desk => stepwise.refl desk

theorem namerAt (index : Nat) : Work.Keeps relation (Work.namerAt index) := by
  refine stepwise.bind stepwise.get fun desk => ?_
  split
  · exact stepwise.pure _
  · exact stepwise.throw _

/-- Recovering from a failure does not undo what has been done. -/
theorem tryCatch
    {work : Work key own first} {recover : Failure → Work key own first}
    (kept : Work.Keeps relation work) (keptAfter : ∀ failure, Work.Keeps relation (recover failure)) :
    Work.Keeps relation (tryCatch work recover) := by
  intro desk
  have before := kept desk
  rw [Work.runOn_tryCatch]
  split
  · next value middle ran =>
      rw [ran] at before
      exact before
  · next failure middle ran =>
      rw [ran] at before
      exact stepwise.trans before (keptAfter failure middle)

theorem compositional :
    Work.Compositional fun work : Unit → Work key own _ => Work.Keeps relation (work ()) where
  pure := stepwise.pure
  bind := stepwise.bind

/-- A relation that activating a namer keeps is the same whichever namer is active. -/
theorem cumulative (activate : ∀ desk active, relation desk { desk with active := active }) :
    Desk.Cumulative relation where
  toStepwise := stepwise
  within {desk _} active inside :=
    stepwise.trans (stepwise.trans (activate desk active) inside) (activate _ desk.active)

theorem traverse
    {leaf other : Type} {expand : leaf → Work key own (Node other)}
    {watch : String → Work key own Unit} (expands : ∀ key, Work.Keeps relation (expand key))
    (watches : ∀ name, Work.Keeps relation (watch name)) (node : Node leaf) :
    Work.Keeps relation (node.traverse expand watch) :=
  stepwise.compositional.traverse (fun _ => expand) (fun _ => watch) watches node fun key _ =>
    expands key

end Desk.Stepwise

theorem Desk.Cumulative.withActive
    {relation : Desk key own → Desk key own → Prop} (cumulative : Desk.Cumulative relation)
    {work : Work key own first} (kept : Work.Keeps relation work) (active : Option Nat) :
    Work.Keeps relation (Work.withActive active work) := by
  intro desk
  rw [Work.runOn_withActive]
  exact cumulative.within active (kept _)

/-! ## What belongs to the bodies -/

namespace Desk

/-- What belongs to the bodies of lazy nodes stays as it is. -/
def OwnRests (before after : Desk key own) : Prop :=
  after.own = before.own

theorem stepwise_ownRests : Stepwise (OwnRests : Desk key own → Desk key own → Prop) where
  refl _ := rfl
  trans first second := second.trans first

theorem ownRests_mint (index : Nat) :
    Work.Keeps OwnRests (Work.mint index : Work key own String) := by
  refine stepwise_ownRests.bind (stepwise_ownRests.namerAt index) fun namer => ?_
  refine stepwise_ownRests.bind (fun _ => rfl) fun _ => ?_
  refine stepwise_ownRests.bind (stepwise_ownRests.ofExcept _) fun name => ?_
  exact stepwise_ownRests.bind (fun _ => rfl) fun _ => stepwise_ownRests.pure _

theorem ownRests_declare (index : Nat) (name : String) (expansion : Signature) :
    Work.Keeps OwnRests (Work.declare index name expansion : Work key own Unit) :=
  stepwise_ownRests.bind (stepwise_ownRests.namerAt index) fun _ _ => rfl

end Desk

/-! ## Rendering -/

variable [BEq key]

/-- Claims the name of a lazy leaf, and notes that it is expanded if the claim gave it the name. -/
def Work.enter (leaf : key) (namer : Nat) : Work key own (String × Bool) := do
  let claimed ← Work.claim leaf namer
  if claimed.2 then
    Work.log (.expanding claimed.1)
  pure claimed

namespace Desk

theorem ownRests_claim (leaf : key) (index : Nat) :
    Work.Keeps OwnRests (Work.claim leaf index : Work key own (String × Bool)) := by
  refine stepwise_ownRests.bind stepwise_ownRests.get fun desk => ?_
  split
  · exact stepwise_ownRests.pure _
  · refine stepwise_ownRests.bind (ownRests_mint index) fun name => ?_
    exact stepwise_ownRests.bind (fun _ => rfl) fun _ => stepwise_ownRests.pure _

theorem ownRests_enter (leaf : key) (index : Nat) :
    Work.Keeps OwnRests (Work.enter leaf index : Work key own (String × Bool)) := by
  refine stepwise_ownRests.bind (ownRests_claim leaf index) fun claimed => ?_
  split
  · exact stepwise_ownRests.bind (fun _ => rfl) fun _ => stepwise_ownRests.pure _
  · exact stepwise_ownRests.pure _

end Desk

/-- The steps that rendering with a workshop consists of keep a relation. -/
structure Workshop.Steps (workshop : Workshop key own)
    (relation : Desk key own → Desk key own → Prop) : Prop where
  enter : ∀ leaf namer, Work.Keeps relation (Work.enter leaf namer)
  body : ∀ leaf, Work.Keeps relation (workshop.body leaf)
  watch : ∀ name, Work.Keeps relation (workshop.watch name)
  declare : ∀ namer name expansion, Work.Keeps relation (Work.declare namer name expansion)

namespace Workshop

variable {workshop : Workshop key own} {relation : Desk key own → Desk key own → Prop}

/-- The signature of the body of a lazy leaf. -/
def renderBody (workshop : Workshop key own) (inner : key → Work key own Signature) (leaf : key) :
    Work key own Signature := do
  (← workshop.body leaf).traverse inner workshop.watch

/-- The signature of a lazy leaf whose name, if it is new, comes from the given namer. -/
def expandUnder (workshop : Workshop key own) (inner : key → Work key own Signature) (leaf : key)
    (namer : Nat) : Work key own Signature := do
  let claimed ← Work.enter leaf namer
  if claimed.2 then
    let expansion ← workshop.renderBody inner leaf
    Work.declare namer claimed.1 expansion
    pure expansion
  else pure (.lazy claimed.1)

/-- Expanding a leaf is entering it, and if it is new, rendering its body and declaring the result. -/
theorem expandWith_eq (inner : key → Work key own Signature) (leaf : key) :
    workshop.expandWith inner leaf = (do
      workshop.expandUnder inner leaf ((workshop.bound leaf).getD (← get).currentNamer)) := by
  unfold expandWith expandUnder renderBody Work.enter
  congr 1
  funext desk
  simp only [bind_assoc]
  congr 1
  funext claimed
  obtain ⟨name, first⟩ := claimed
  cases first
  · rfl
  · simp

theorem runOn_expandWith_eq
    (inner : key → Work key own Signature) (leaf : key) (desk : Desk key own) :
    (workshop.expandWith inner leaf).runOn desk =
      (workshop.expandUnder inner leaf ((workshop.bound leaf).getD desk.currentNamer)).runOn desk := by
  rw [expandWith_eq, Work.runOn_get_bind]

theorem Steps.renderBody
    (steps : workshop.Steps relation) (cumulative : Desk.Cumulative relation)
    {inner : key → Work key own Signature} (inside : ∀ leaf, Work.Keeps relation (inner leaf))
    (leaf : key) :
    Work.Keeps relation (workshop.renderBody inner leaf) :=
  cumulative.bind (steps.body leaf) fun node => cumulative.traverse inside steps.watch node

theorem Steps.expandWith
    (steps : workshop.Steps relation) (cumulative : Desk.Cumulative relation)
    {inner : key → Work key own Signature} (inside : ∀ leaf, Work.Keeps relation (inner leaf))
    (leaf : key) :
    Work.Keeps relation (workshop.expandWith inner leaf) := by
  rw [expandWith_eq]
  refine cumulative.bind cumulative.get fun desk => ?_
  refine cumulative.bind (steps.enter leaf _) fun claimed => ?_
  split
  · refine cumulative.bind (steps.renderBody cumulative inside leaf) fun expansion => ?_
    exact cumulative.bind (steps.declare _ _ expansion) fun _ => cumulative.pure expansion
  · exact cumulative.pure _

theorem Steps.expand
    (steps : workshop.Steps relation) (cumulative : Desk.Cumulative relation) (depth : Nat)
    (leaf : key) :
    Work.Keeps relation (workshop.expand depth leaf) := by
  induction depth generalizing leaf with
  | zero => exact steps.expandWith cumulative (fun _ => cumulative.throw .outOfFuel) leaf
  | succ depth inductionHypothesis => exact steps.expandWith cumulative inductionHypothesis leaf

theorem Steps.render
    (steps : workshop.Steps relation) (cumulative : Desk.Cumulative relation) (depth : Nat)
    (node : Node key) :
    Work.Keeps relation (workshop.render depth node) :=
  cumulative.traverse (steps.expand cumulative depth) steps.watch node

theorem Steps.renderUnder
    (steps : workshop.Steps relation) (cumulative : Desk.Cumulative relation) (depth namer : Nat)
    (node : Node key) :
    Work.Keeps relation (workshop.renderUnder depth namer node) :=
  cumulative.withActive (steps.render cumulative depth node) (some namer)

end Workshop

end SchemaSignature
