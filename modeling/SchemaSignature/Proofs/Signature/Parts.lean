import SchemaSignature.Proofs.Naming.Renaming
import SchemaSignature.Proofs.Outcome
import SchemaSignature.Signature.Construction

/-!
The parts of constructed nodes. A constructor adds no lazy leaves of its own: they are those of the
parts, in order. Renaming the leaves of the parts comes to renaming those of the node, and it makes no
difference to whether a constructor refuses its parts.
-/

namespace SchemaSignature

/-! ## Leaves -/

variable {key : Type}

/-- The keys of the lazy leaves of an operand. A plain value has none. -/
def Operand.keys : Operand key → List key
  | .node part => part.keys
  | .plain _ => []

namespace Construction

theorem keys_requireNode
    {combinator : String} {index : Nat} {operand : Operand key} {node : Node key}
    (made : requireNode combinator index operand = .ok node) : node.keys = operand.keys := by
  cases operand with
  | node part =>
      cases made
      rfl
  | plain value => cases made

theorem keys_requireNodes
    {combinator : String} {index : Nat} {members : List (Operand key)} {nodes : List (Node key)}
    (made : requireNodes combinator index members = .ok nodes) :
    Node.keysOfMembers nodes = members.flatMap Operand.keys := by
  induction members generalizing index nodes with
  | nil =>
      cases made
      rfl
  | cons member rest inductionHypothesis =>
      obtain ⟨first, madeFirst, made⟩ := Outcome.bind_eq_ok_iff.mp made
      obtain ⟨others, madeOthers, made⟩ := Outcome.bind_eq_ok_iff.mp made
      cases made
      rw [Node.keysOfMembers, keys_requireNode madeFirst, inductionHypothesis madeOthers,
        List.flatMap_cons]

theorem keys_requireFields
    {entries : List (Json × Operand key)} {fields : List (String × Node key)}
    (made : requireFields entries = .ok fields) :
    Node.keysOfEntries fields = entries.flatMap fun entry => entry.2.keys := by
  induction entries generalizing fields with
  | nil =>
      cases made
      rfl
  | cons entry rest inductionHypothesis =>
      unfold requireFields at made
      split at made
      · next absurdity => cases absurdity
      · next same =>
          cases same
          obtain ⟨others, madeOthers, made⟩ := Outcome.bind_eq_ok_iff.mp made
          cases made
          rw [Node.keysOfEntries, inductionHypothesis madeOthers, List.flatMap_cons]
          rfl
      · cases made
      · cases made

theorem keys_literals {values : List Json} {node : Node key} (made : literals values = .ok node) :
    node.keys = [] := by
  unfold literals at made
  split at made
  · cases made
  · obtain ⟨listed, _, made⟩ := Outcome.bind_eq_ok_iff.mp made
    cases made
    rfl

theorem keys_fields
    {presence : Presence} {entries : List (Json × Operand key)} {node : Node key}
    (made : fields presence entries = .ok node) :
    node.keys = entries.flatMap fun entry => entry.2.keys := by
  obtain ⟨parts, madeParts, made⟩ := Outcome.bind_eq_ok_iff.mp made
  cases made
  exact keys_requireFields madeParts

theorem keys_container
    {kind : Container} {element : Operand key} {node : Node key}
    (made : container kind element = .ok node) : node.keys = element.keys := by
  obtain ⟨part, madePart, made⟩ := Outcome.bind_eq_ok_iff.mp made
  cases made
  rw [Node.keys, keys_requireNode madePart]

/-- A group of the nodes of members has their leaves. -/
theorem keys_group
    {kind : Grouping} {combinator : String} {members : List (Operand key)} {node : Node key}
    (made : (do pure (.group kind (← requireNodes combinator 0 members))) =
      (Except.ok node : Except Failure (Node key))) :
    node.keys = members.flatMap Operand.keys := by
  obtain ⟨parts, madeParts, made⟩ := Outcome.bind_eq_ok_iff.mp made
  cases made
  exact keys_requireNodes madeParts

theorem keys_tuple {members : List (Operand key)} {node : Node key}
    (made : tuple members = .ok node) : node.keys = members.flatMap Operand.keys := by
  obtain ⟨_, _, made⟩ := Outcome.bind_eq_ok_iff.mp made
  exact keys_group made

theorem keys_intersection {members : List (Operand key)} {node : Node key}
    (made : intersection members = .ok node) : node.keys = members.flatMap Operand.keys := by
  obtain ⟨_, _, made⟩ := Outcome.bind_eq_ok_iff.mp made
  exact keys_group made

theorem keys_sum {tag : Json} {members : List (Operand key)} {node : Node key}
    (made : sum tag members = .ok node) : node.keys = members.flatMap Operand.keys := by
  unfold sum at made
  split at made
  · cases made
  · exact keys_group made

theorem keys_union {members : List (Operand key)} {node : Node key}
    (made : union members = .ok node) : node.keys = members.flatMap Operand.keys := by
  unfold union at made
  split at made
  · cases made
  · exact keys_group made

theorem keys_literalsOr
    {values : List Json} {fallback : Operand key} {node : Node key}
    (made : literalsOr values fallback = .ok node) : node.keys = fallback.keys := by
  obtain ⟨listed, madeListed, made⟩ := Outcome.bind_eq_ok_iff.mp made
  rw [keys_union made, List.flatMap_cons, List.flatMap_singleton]
  change listed.keys ++ fallback.keys = fallback.keys
  rw [keys_literals madeListed, List.nil_append]

end Construction

/-! ## Renamed leaves -/

variable {key image : Type}

def Operand.map (rename : key → image) : Operand key → Operand image
  | .node part => .node (part.map rename)
  | .plain value => .plain value

namespace Construction

variable (rename : key → image)

theorem requireNode_map (combinator : String) (index : Nat) (operand : Operand key) :
    requireNode combinator index (operand.map rename) =
      (requireNode combinator index operand).map (Node.map rename) := by
  cases operand <;> rfl

theorem requireNodes_map (combinator : String) (index : Nat) (members : List (Operand key)) :
    requireNodes combinator index (members.map (Operand.map rename)) =
      (requireNodes combinator index members).map (Node.mapMembers rename) := by
  induction members generalizing index with
  | nil => rfl
  | cons member rest inductionHypothesis =>
      rw [List.map_cons, requireNodes, requireNodes, requireNode_map, inductionHypothesis]
      cases requireNode combinator index member with
      | error failure => rfl
      | ok first => cases requireNodes combinator (index + 1) rest <;> rfl

theorem requireFields_map (entries : List (Json × Operand key)) :
    requireFields (entries.map (Prod.map id (Operand.map rename))) =
      (requireFields entries).map (Node.mapEntries rename) := by
  induction entries with
  | nil => rfl
  | cons entry rest inductionHypothesis =>
      obtain ⟨name, operand⟩ := entry
      rw [List.map_cons]
      cases name with
      | str name =>
          cases operand with
          | plain value => rfl
          | node part =>
              change (requireFields (rest.map (Prod.map id (Operand.map rename))) >>= _) = _
              rw [inductionHypothesis, requireFields]
              cases requireFields rest <;> rfl
      | _ => rfl

theorem literals_map (values : List Json) :
    literals values = (literals values).map (Node.map rename) := by
  unfold literals
  split
  · rfl
  · cases values.mapM requireLiteral <;> rfl

theorem fields_map (presence : Presence) (entries : List (Json × Operand key)) :
    fields presence (entries.map (Prod.map id (Operand.map rename))) =
      (fields presence entries).map (Node.map rename) := by
  rw [fields, fields, requireFields_map]
  cases requireFields entries <;> rfl

theorem container_map (kind : Container) (element : Operand key) :
    container kind (element.map rename) = (container kind element).map (Node.map rename) := by
  cases element <;> rfl

/-- The node of a group whose members are nodes. -/
theorem group_map (kind : Grouping) (combinator : String) (members : List (Operand key)) :
    (do pure (.group kind (← requireNodes combinator 0 (members.map (Operand.map rename)))) :
        Except Failure (Node image)) =
      (do pure (.group kind (← requireNodes combinator 0 members)) :
        Except Failure (Node key)).map (Node.map rename) := by
  rw [requireNodes_map]
  cases requireNodes combinator 0 members <;> rfl

theorem tuple_map (members : List (Operand key)) :
    tuple (members.map (Operand.map rename)) = (tuple members).map (Node.map rename) := by
  rw [tuple, tuple, List.length_map]
  cases requireArity "tuple" tupleArity members.length with
  | error failure => rfl
  | ok done => exact group_map rename .tuple "tuple" members

theorem intersection_map (members : List (Operand key)) :
    intersection (members.map (Operand.map rename)) =
      (intersection members).map (Node.map rename) := by
  rw [intersection, intersection, List.length_map]
  cases requireArity "intersection" intersectionArity members.length with
  | error failure => rfl
  | ok done => exact group_map rename .intersection "intersection" members

theorem sum_map (tag : Json) (members : List (Operand key)) :
    sum tag (members.map (Operand.map rename)) = (sum tag members).map (Node.map rename) := by
  rw [sum, sum, List.isEmpty_map]
  split
  · rfl
  · exact group_map rename .sum _ members

theorem union_map (members : List (Operand key)) :
    union (members.map (Operand.map rename)) = (union members).map (Node.map rename) := by
  rw [union, union, List.isEmpty_map]
  split
  · rfl
  · exact group_map rename .union "union" members

theorem literalsOr_map (values : List Json) (fallback : Operand key) :
    literalsOr values (fallback.map rename) =
      (literalsOr values fallback).map (Node.map rename) := by
  have listed := literals_map rename values
  rw [literalsOr, literalsOr, listed]
  cases literals values with
  | error failure => rfl
  | ok node => exact union_map rename [.node node, fallback]

end Construction

end SchemaSignature
