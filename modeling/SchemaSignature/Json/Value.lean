import SchemaSignature.Number.Double

/-!
JSON values. Objects are lists of members in the order of their keys; whole numbers and
double-precision numbers are different kinds of value.
-/

namespace SchemaSignature

inductive Json where
  | null
  | bool (value : Bool)
  | int (value : Int)
  | float (value : Double)
  | str (text : String)
  | arr (items : List Json)
  | obj (members : List (String × Json))
  deriving Inhabited, Repr

namespace Json

inductive Kind where
  | null
  | bool
  | int
  | float
  | str
  | arr
  | obj
  deriving DecidableEq, Repr

def kind : Json → Kind
  | .null => .null
  | .bool _ => .bool
  | .int _ => .int
  | .float _ => .float
  | .str _ => .str
  | .arr _ => .arr
  | .obj _ => .obj

/-- The word that messages use for a kind of value. -/
def Kind.name : Kind → String
  | .null => "NoneType"
  | .bool => "bool"
  | .int => "int"
  | .float => "float"
  | .str => "str"
  | .arr => "list"
  | .obj => "dict"

def member? (members : List (String × Json)) (key : String) : Option Json :=
  members.lookup key

def hasMember (members : List (String × Json)) (key : String) : Bool :=
  (member? members key).isSome

/-- What a value yields when its elements are taken one by one: an array its items, a text its
characters, an object its keys. Other values have no elements. -/
def elements? : Json → Option (List Json)
  | .arr items => some items
  | .str text => some (text.toList.map fun c => .str c.toString)
  | .obj members => some (members.map fun entry => .str entry.1)
  | _ => none

/-- Values that count as present in a condition: all but null, false, zero and the empty text,
array and object. -/
def isTruthy : Json → Bool
  | .null => false
  | .bool value => value
  | .int value => value != 0
  | .float value => !value.isZero
  | .str text => !text.isEmpty
  | .arr items => !items.isEmpty
  | .obj members => !members.isEmpty

/-- Values that can be the key of a table: all but arrays and objects. -/
def isKey : Json → Bool
  | .arr _ | .obj _ => false
  | _ => true

mutual

def height : Json → Nat
  | .arr items => heightOfItems items + 1
  | .obj members => heightOfMembers members + 1
  | _ => 0

/-- The greatest height of the items of an array. -/
def heightOfItems : List Json → Nat
  | [] => 0
  | item :: rest => max item.height (heightOfItems rest)

/-- The greatest height of the values of an object. -/
def heightOfMembers : List (String × Json) → Nat
  | [] => 0
  | (_, value) :: rest => max value.height (heightOfMembers rest)

end

theorem height_le_of_mem_items {item : Json} {items : List Json} (isItem : item ∈ items) :
    item.height ≤ heightOfItems items := by
  induction items with
  | nil => cases isItem
  | cons first rest inductionHypothesis =>
      cases isItem with
      | head => exact Nat.le_max_left _ _
      | tail _ later =>
          exact Nat.le_trans (inductionHypothesis later) (Nat.le_max_right _ _)

theorem height_le_of_mem_members
    {entry : String × Json} {members : List (String × Json)} (isMember : entry ∈ members) :
    entry.2.height ≤ heightOfMembers members := by
  induction members with
  | nil => cases isMember
  | cons first rest inductionHypothesis =>
      cases isMember with
      | head => exact Nat.le_max_left _ _
      | tail _ later =>
          exact Nat.le_trans (inductionHypothesis later) (Nat.le_max_right _ _)

theorem mem_of_member?
    {members : List (String × Json)} {key : String} {value : Json}
    (found : member? members key = some value) :
    (key, value) ∈ members := by
  obtain ⟨before, after, same, _⟩ := List.lookup_eq_some_iff.mp found
  rw [same]
  exact List.mem_append_right _ List.mem_cons_self

theorem height_lt_of_member?
    {members : List (String × Json)} {key : String} {value : Json}
    (found : member? members key = some value) :
    value.height < (Json.obj members).height := by
  have bound := height_le_of_mem_members (mem_of_member? found)
  simp only [height]
  exact Nat.lt_succ_of_le bound

end Json

end SchemaSignature
