import SchemaSignature.Json.Value

/-!
Two equalities of JSON values. `equal` is equality of table keys and of values held in containers:
numbers are compared by their exact value whatever their spelling, and truth values count as one
and zero. `strictEqual` is the equality of JSON Schema, which keeps truth values apart from
numbers. Both take objects as maps, whatever the order of their keys.
-/

namespace SchemaSignature.Json

/-- The numeric content of a value: a whole number, or a double that is none. -/
inductive Quantity where
  | whole (value : Int)
  | other (value : Double)
  deriving DecidableEq, Repr

def Quantity.ofDouble (number : Double) : Quantity :=
  match number.toInt? with
  | some value => .whole value
  | none => .other number

def quantity? : Json → Option Quantity
  | .bool value => some (.whole (if value then 1 else 0))
  | .int value => some (.whole value)
  | .float value => some (.ofDouble value)
  | _ => none

mutual

/-- Equality by value: one, one point zero and true are equal, and the undefined number equals
itself. -/
def equal : Json → Json → Bool
  | .null, .null => true
  | .str left, .str right => left == right
  | .arr left, .arr right => equalItems left right
  | .obj left, .obj right => left.length == right.length && equalMembers left right
  | left, right =>
      match left.quantity?, right.quantity? with
      | some leftQuantity, some rightQuantity => leftQuantity == rightQuantity
      | _, _ => false

def equalItems : List Json → List Json → Bool
  | [], [] => true
  | left :: leftRest, right :: rightRest => equal left right && equalItems leftRest rightRest
  | _, _ => false

/-- Every member has an equal one of the same key on the other side. -/
def equalMembers : List (String × Json) → List (String × Json) → Bool
  | [], _ => true
  | (key, value) :: rest, right =>
      (match member? right key with
        | some other => equal value other
        | none => false) && equalMembers rest right

end

mutual

/-- Equality of JSON Schema: as `equal`, but a truth value equals only itself. -/
def strictEqual : Json → Json → Bool
  | .null, .null => true
  | .bool left, .bool right => left == right
  | .bool _, _ => false
  | _, .bool _ => false
  | .str left, .str right => left == right
  | .arr left, .arr right => strictEqualItems left right
  | .obj left, .obj right => left.length == right.length && strictEqualMembers left right
  | left, right =>
      match left.quantity?, right.quantity? with
      | some leftQuantity, some rightQuantity => leftQuantity == rightQuantity
      | _, _ => false

def strictEqualItems : List Json → List Json → Bool
  | [], [] => true
  | left :: leftRest, right :: rightRest =>
      strictEqual left right && strictEqualItems leftRest rightRest
  | _, _ => false

/-- Every member has a strictly equal one of the same key on the other side. -/
def strictEqualMembers : List (String × Json) → List (String × Json) → Bool
  | [], _ => true
  | (key, value) :: rest, right =>
      (match member? right key with
        | some other => strictEqual value other
        | none => false) && strictEqualMembers rest right

end

end SchemaSignature.Json
