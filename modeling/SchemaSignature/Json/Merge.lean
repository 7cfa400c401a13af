import SchemaSignature.Failure
import SchemaSignature.Json.Comparison

/-!
Small operations on values and collections: emptiness, membership, strict equality, and the
right-biased merge of two values.
-/

namespace SchemaSignature.Json

/-- The members of two objects: those of the left in their order with the values of the right where
it has the key, then the new ones of the right in theirs. -/
def mergeMembers (left right : List (String × Json)) : List (String × Json) :=
  right.foldl (fun merged member => Table.set (· == ·) member.1 member.2 merged) left

/-- The merge of two values that prefers the second. Beside an object, a value that is neither null
nor an object counts as an object without members. -/
def intersect (left right : Json) : Json :=
  match left, right with
  | .null, other => other
  | _, .null => .null
  | .obj leftMembers, .obj rightMembers => .obj (mergeMembers leftMembers rightMembers)
  | .obj members, _ => .obj members
  | _, other => other

/-- The elements of a value that has a length. -/
def sizedElements (value : Json) : Except Failure (List Json) :=
  match value.elements? with
  | some items => .ok items
  | none => .error (.misuse (.notSized value.kind))

/-- A value that has a length is not empty. -/
def isNonEmpty (value : Json) : Except Failure Bool :=
  (sizedElements value).map fun items => !items.isEmpty

/-- An object has a member with the key; other values have no members. -/
def hasOwn (value key : Json) : Except Failure Bool :=
  if !key.isKey then .error (.misuse (.notAKey key.kind))
  else
    match value, key with
    | .obj members, .str name => .ok (hasMember members name)
    | _, _ => .ok false

/-- Two values of one kind are equal. Only the outermost kinds are compared; within containers one,
one point zero and true are equal. The undefined number equals nothing. -/
def equalOfKind (left right : Json) : Bool :=
  left.kind == right.kind &&
    match left with
    | .float .notANumber => false
    | _ => equal left right

/-- The images of the elements of a value that must not be empty. -/
def mapNonEmpty (image : Json → Json) (value : Json) : Except Failure (List Json) := do
  let items ← sizedElements value
  if items.isEmpty then throw .emptySequence
  pure (items.map image)

end SchemaSignature.Json
