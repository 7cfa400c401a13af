import SchemaSignature.Proofs.Outcome
import SchemaSignature.Signature.Construction

/-!
What constructors refuse. The checks of the constructors have failures of their own, which nothing
else fails with: for numbers of members, for parts that are no nodes, for names and values without a
literal form, and for bodies and texts that cannot be produced on demand.
-/

namespace SchemaSignature

open Outcome (FailsOnly)

/-- The failure is one that the checks of the constructors have for the parts of a node. -/
def Failure.IsPartFault : Failure → Prop
  | .arity .. | .memberNotANode .. | .fieldNotANode .. | .fieldNameNotText _ | .noLiterals
  | .unsupportedLiteral _ | .noUnionMembers | .noSumMembers _ | .bodyNotDeferred _
  | .textNotDeferred _ => True
  | _ => False

namespace Construction

variable {key : Type}

/-- A constructor refuses some parts with a failure. -/
inductive Refuses : Failure → Prop where
  | literals {values : List Json} {failure : Failure}
      (refused : (Construction.literals values : Except Failure (Node String)) = .error failure) :
      Refuses failure
  | fields {presence : Presence} {entries : List (Json × Operand String)} {failure : Failure}
      (refused : Construction.fields presence entries = .error failure) : Refuses failure
  | container {kind : Container} {element : Operand String} {failure : Failure}
      (refused : Construction.container kind element = .error failure) : Refuses failure
  | tuple {members : List (Operand String)} {failure : Failure}
      (refused : Construction.tuple members = .error failure) : Refuses failure
  | intersection {members : List (Operand String)} {failure : Failure}
      (refused : Construction.intersection members = .error failure) : Refuses failure
  | sum {tag : Json} {members : List (Operand String)} {failure : Failure}
      (refused : Construction.sum tag members = .error failure) : Refuses failure
  | union {members : List (Operand String)} {failure : Failure}
      (refused : Construction.union members = .error failure) : Refuses failure
  /-- A lazy node was given something else than a body. -/
  | body (found : Json.Kind) : Refuses (.bodyNotDeferred found)
  /-- A node was given something else than a producer of its text. -/
  | text (found : Json.Kind) : Refuses (.textNotDeferred found)

theorem failsOnly_requireNode (combinator : String) (index : Nat) (operand : Operand key) :
    FailsOnly Failure.IsPartFault (requireNode combinator index operand) := by
  cases operand with
  | node node => exact .ok node
  | plain value => exact .error trivial

theorem failsOnly_requireNodes (combinator : String) (index : Nat) (members : List (Operand key)) :
    FailsOnly Failure.IsPartFault (requireNodes combinator index members) := by
  induction members generalizing index with
  | nil => exact .ok []
  | cons member rest inductionHypothesis =>
      refine .bind (failsOnly_requireNode combinator index member) fun _ _ => ?_
      exact .bind (inductionHypothesis (index + 1)) fun _ _ => .ok _

theorem failsOnly_requireArity (combinator : String) (bounds : Nat × Nat) (count : Nat) :
    FailsOnly Failure.IsPartFault (requireArity combinator bounds count) := by
  unfold requireArity
  split
  · exact .ok ()
  · exact .error trivial

theorem failsOnly_requireLiterals (values : List Json) :
    FailsOnly Failure.IsPartFault (values.mapM requireLiteral) := by
  induction values with
  | nil => exact .ok []
  | cons first rest inductionHypothesis =>
      rw [List.mapM_cons]
      refine .bind ?_ fun _ _ => .bind inductionHypothesis fun _ _ => .ok _
      unfold requireLiteral
      split
      · exact .ok _
      · exact .error trivial

theorem failsOnly_requireFields (entries : List (Json × Operand key)) :
    FailsOnly Failure.IsPartFault (requireFields entries) := by
  induction entries with
  | nil => exact .ok []
  | cons first rest inductionHypothesis =>
      unfold requireFields
      split
      · exact .ok []
      · next same =>
          cases same
          exact .bind inductionHypothesis fun _ _ => .ok _
      · exact .error trivial
      · exact .error trivial

theorem failsOnly_literals (values : List Json) :
    FailsOnly Failure.IsPartFault (literals values : Except Failure (Node key)) := by
  unfold literals
  split
  · exact .error trivial
  · exact .bind (failsOnly_requireLiterals values) fun _ _ => .ok _

theorem failsOnly_fields (presence : Presence) (entries : List (Json × Operand key)) :
    FailsOnly Failure.IsPartFault (fields presence entries) :=
  .bind (failsOnly_requireFields entries) fun _ _ => .ok _

theorem failsOnly_container (kind : Container) (element : Operand key) :
    FailsOnly Failure.IsPartFault (container kind element) :=
  .bind (failsOnly_requireNode _ 0 element) fun _ _ => .ok _

theorem failsOnly_tuple (members : List (Operand key)) :
    FailsOnly Failure.IsPartFault (tuple members) := by
  refine .bind (failsOnly_requireArity "tuple" tupleArity members.length) fun _ _ => ?_
  exact .bind (failsOnly_requireNodes "tuple" 0 members) fun _ _ => .ok _

theorem failsOnly_intersection (members : List (Operand key)) :
    FailsOnly Failure.IsPartFault (intersection members) := by
  refine .bind (failsOnly_requireArity "intersection" intersectionArity members.length) fun _ _ => ?_
  exact .bind (failsOnly_requireNodes "intersection" 0 members) fun _ _ => .ok _

theorem failsOnly_sum (tag : Json) (members : List (Operand key)) :
    FailsOnly Failure.IsPartFault (sum tag members) := by
  unfold sum
  split
  · exact .error trivial
  · exact .bind (failsOnly_requireNodes _ 0 members) fun _ _ => .ok _

theorem failsOnly_union (members : List (Operand key)) :
    FailsOnly Failure.IsPartFault (union members) := by
  unfold union
  split
  · exact .error trivial
  · exact .bind (failsOnly_requireNodes "union" 0 members) fun _ _ => .ok _

/-- Constructors have no other failures than those for parts. -/
theorem Refuses.isPartFault {failure : Failure} (refuses : Refuses failure) :
    failure.IsPartFault := by
  cases refuses with
  | literals refused => exact failsOnly_literals _ failure refused
  | fields refused => exact failsOnly_fields _ _ failure refused
  | container refused => exact failsOnly_container _ _ failure refused
  | tuple refused => exact failsOnly_tuple _ failure refused
  | intersection refused => exact failsOnly_intersection _ failure refused
  | sum refused => exact failsOnly_sum _ _ failure refused
  | union refused => exact failsOnly_union _ failure refused
  | body _ => trivial
  | text _ => trivial

end Construction

end SchemaSignature
