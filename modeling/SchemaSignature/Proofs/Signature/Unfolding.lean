import SchemaSignature.Proofs.Signature.Leaves

/-!
Unfolding nodes whose lazy leaves stand for nodes. An unfolding to some depth follows a chain of lazy
leaves to a constructor and goes on with the parts of that; what is below the depth is cut off. An
endless chain of leaves has no constructor, and so no unfolding. Nodes that simulate each other layer
by layer have the same unfoldings.
-/

namespace SchemaSignature.Node

variable {key other : Type}

/-- One node leads to another along a chain of lazy leaves. -/
inductive Leads (meaning : key → Option (Node key)) : Node key → Node key → Prop where
  | stop (node : Node key) : Leads meaning node node
  | follow {leaf : key} {node shape : Node key}
      (stands : meaning leaf = some node)
      (further : Leads meaning node shape) :
      Leads meaning (.lazy leaf) shape

/-- Two nodes have the same constructor, and their parts are related. A watched leaf is rendered as
the text of its name. -/
inductive Layer (related : Node key → Node other → Prop) : Node key → Node other → Prop where
  | primitive (kind : Primitive) : Layer related (.primitive kind) (.primitive kind)
  | literals (values : List Literal) : Layer related (.literals values) (.literals values)
  | fields {presence : Presence} {entries : List (String × Node key)}
      {inner : List (String × Node other)}
      (each : List.Forall₂ (fun entry part => entry.1 = part.1 ∧ related entry.2 part.2)
        entries inner) :
      Layer related (.fields presence entries) (.fields presence inner)
  | container {kind : Container} {element : Node key} {inner : Node other}
      (element_related : related element inner) :
      Layer related (.container kind element) (.container kind inner)
  | group {kind : Grouping} {members : List (Node key)} {inner : List (Node other)}
      (each : List.Forall₂ related members inner) :
      Layer related (.group kind members) (.group kind inner)
  | made (text : String) : Layer related (.made text) (.made text)
  | watched (name : String) : Layer related (.watched name) (.made name)

/-- A tree is the unfolding of a node to the given depth; below it the tree has blank leaves. -/
def Unfolds (meaning : key → Option (Node key)) : Nat → Node key → Node Unit → Prop
  | 0, _, tree => tree = .lazy ()
  | depth + 1, node, tree =>
      ∃ shape, Leads meaning node shape ∧ Layer (Unfolds meaning depth) shape tree

/-! ## Unfoldings are unique -/

section Unique

variable {meaning : key → Option (Node key)}

theorem Leads.unique
    {related : Node key → Node other → Prop} {node shape otherShape : Node key}
    {tree otherTree : Node other}
    (leads : Leads meaning node shape) (layer : Layer related shape tree)
    (otherLeads : Leads meaning node otherShape) (otherLayer : Layer related otherShape otherTree) :
    shape = otherShape := by
  induction leads with
  | stop =>
      cases otherLeads with
      | stop => rfl
      | follow => cases layer
  | follow stands _ inductionHypothesis =>
      cases otherLeads with
      | stop => cases otherLayer
      | follow otherStands further =>
          rw [stands] at otherStands
          cases otherStands
          exact inductionHypothesis layer further

theorem Layer.unique
    {related : Node key → Node other → Prop}
    {shape : Node key} {tree otherTree : Node other} (layer : Layer related shape tree)
    (partsUnique : ∀ {node tree otherTree}, related node tree → related node otherTree →
      tree = otherTree)
    (otherLayer : Layer related shape otherTree) :
    tree = otherTree := by
  have membersUnique : Relator.RightUnique (List.Forall₂ related) :=
    Relator.RightUnique.forall₂ fun _ _ _ => partsUnique
  have entriesUnique : Relator.RightUnique (List.Forall₂
      fun (entry : String × Node key) (part : String × Node other) =>
        entry.1 = part.1 ∧ related entry.2 part.2) := by
    refine Relator.RightUnique.forall₂ ?_
    rintro entry ⟨name, part⟩ ⟨otherName, otherPart⟩ ⟨sameName, isPart⟩ ⟨sameOther, isOther⟩
    exact Prod.ext (sameName.symm.trans sameOther) (partsUnique isPart isOther)
  cases layer with
  | fields each =>
      cases otherLayer with
      | fields otherEach => rw [entriesUnique each otherEach]
  | container element =>
      cases otherLayer with
      | container otherElement => rw [partsUnique element otherElement]
  | group each =>
      cases otherLayer with
      | group otherEach => rw [membersUnique each otherEach]
  | _ =>
      cases otherLayer
      rfl

theorem Unfolds.unique
    {depth : Nat} {node : Node key} {tree otherTree : Node Unit}
    (unfolds : Unfolds meaning depth node tree) (otherUnfolds : Unfolds meaning depth node otherTree) :
    tree = otherTree := by
  induction depth generalizing node tree otherTree with
  | zero => exact unfolds.trans otherUnfolds.symm
  | succ depth inductionHypothesis =>
      obtain ⟨shape, leads, layer⟩ := unfolds
      obtain ⟨otherShape, otherLeads, otherLayer⟩ := otherUnfolds
      have sameShape := leads.unique layer otherLeads otherLayer
      rw [← sameShape] at otherLayer
      exact layer.unique (fun one another => inductionHypothesis one another) otherLayer

end Unique

/-! ## Simulation -/

section Simulation

variable {related : Node key → Node other → Prop} {below : Node key → Node Unit → Prop}
  {belowOther : Node other → Node Unit → Prop}

theorem forall₂_compose
    {first second third : Type} {one : first → second → Prop} {two : first → third → Prop}
    {result : second → third → Prop}
    (combine : ∀ a b c, one a b → two a c → result b c)
    {left : List first} {middle : List second} {right : List third}
    (eachOne : List.Forall₂ one left middle) (eachTwo : List.Forall₂ two left right) :
    List.Forall₂ result middle right := by
  induction eachOne generalizing right with
  | nil =>
      cases eachTwo
      exact .nil
  | cons isOne _ inductionHypothesis =>
      cases eachTwo with
      | cons isTwo rest => exact .cons (combine _ _ _ isOne isTwo) (inductionHypothesis rest)

/-- What lies below a layer lies below a related one. -/
theorem Layer.push
    {shape : Node key} {otherShape : Node other} {tree : Node Unit}
    (layers : Layer related shape otherShape) (layer : Layer below shape tree)
    (carry : ∀ node other tree, related node other → below node tree → belowOther other tree) :
    Layer belowOther otherShape tree := by
  cases layers with
  | primitive kind =>
      cases layer
      exact .primitive kind
  | literals values =>
      cases layer
      exact .literals values
  | fields each =>
      cases layer with
      | fields parts =>
          refine .fields (forall₂_compose ?_ each parts)
          rintro entry part subtree ⟨sameName, isRelated⟩ ⟨sameLabel, isBelow⟩
          exact ⟨sameName.symm.trans sameLabel, carry _ _ _ isRelated isBelow⟩
  | container isRelated =>
      cases layer with
      | container isBelow => exact .container (carry _ _ _ isRelated isBelow)
  | group each =>
      cases layer with
      | group parts => exact .group (forall₂_compose carry each parts)
  | made text =>
      cases layer
      exact .made text
  | watched name =>
      cases layer
      exact .made name

theorem Layer.pull
    {shape : Node key} {otherShape : Node other} {tree : Node Unit}
    (layers : Layer related shape otherShape) (layer : Layer belowOther otherShape tree)
    (carry : ∀ node other tree, related node other → belowOther other tree → below node tree) :
    Layer below shape tree := by
  cases layers with
  | primitive kind =>
      cases layer
      exact .primitive kind
  | literals values =>
      cases layer
      exact .literals values
  | fields each =>
      cases layer with
      | fields parts =>
          refine .fields (forall₂_compose ?_ each.flip parts)
          rintro part entry subtree ⟨sameName, isRelated⟩ ⟨sameLabel, isBelow⟩
          exact ⟨sameName.trans sameLabel, carry _ _ _ isRelated isBelow⟩
  | container isRelated =>
      cases layer with
      | container isBelow => exact .container (carry _ _ _ isRelated isBelow)
  | group each =>
      cases layer with
      | group parts =>
          refine .group (forall₂_compose ?_ each.flip parts)
          intro part member subtree isRelated isBelow
          exact carry _ _ _ isRelated isBelow
  | made text =>
      cases layer
      exact .made text
  | watched name =>
      cases layer
      exact .watched name

/-- Nodes that are related have the same unfoldings, if a chain of leaves to a constructor on either
side is matched by one on the other. -/
theorem unfolds_iff_of_simulation
    {meaning : key → Option (Node key)} {otherMeaning : other → Option (Node other)}
    (forward : ∀ {node otherNode shape}, related node otherNode → Leads meaning node shape →
      (∀ leaf, shape ≠ .lazy leaf) →
      ∃ otherShape, Leads otherMeaning otherNode otherShape ∧ Layer related shape otherShape)
    (backward : ∀ {node otherNode otherShape}, related node otherNode →
      Leads otherMeaning otherNode otherShape → (∀ leaf, otherShape ≠ .lazy leaf) →
      ∃ shape, Leads meaning node shape ∧ Layer related shape otherShape)
    {node : Node key} {otherNode : Node other} (isRelated : related node otherNode)
    (depth : Nat) (tree : Node Unit) :
    Unfolds meaning depth node tree ↔ Unfolds otherMeaning depth otherNode tree := by
  induction depth generalizing node otherNode tree with
  | zero => exact Iff.rfl
  | succ depth inductionHypothesis =>
      constructor
      · rintro ⟨shape, leads, layer⟩
        obtain ⟨otherShape, otherLeads, layers⟩ := forward isRelated leads (by
          rintro leaf rfl
          cases layer)
        exact ⟨otherShape, otherLeads, layers.push layer
          fun _ _ _ isRelated unfolds => (inductionHypothesis isRelated _).mp unfolds⟩
      · rintro ⟨otherShape, otherLeads, layer⟩
        obtain ⟨shape, leads, layers⟩ := backward isRelated otherLeads (by
          rintro leaf rfl
          cases layer)
        exact ⟨shape, leads, layers.pull layer
          fun _ _ _ isRelated unfolds => (inductionHypothesis isRelated _).mpr unfolds⟩

end Simulation

end SchemaSignature.Node
