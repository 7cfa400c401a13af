import SchemaSignature.Json.Value

/-!
Signature nodes: the tree of constructors behind a type signature. A node is parametric in the keys
of its lazy leaves. In a node that waits to be rendered a key says what the leaf expands to; in a
rendered signature the keys are reference names.
-/

namespace SchemaSignature

/-- A value that stands in a signature for itself. -/
inductive Literal where
  | bool (value : Bool)
  | int (value : Int)
  | float (value : Double)
  | str (text : String)
  deriving DecidableEq, Repr

/-- The literal of a value, if it has one: texts, numbers and truth values. -/
def Literal.ofJson? : Json → Option Literal
  | .bool value => some (.bool value)
  | .int value => some (.int value)
  | .float value => some (.float value)
  | .str text => some (.str text)
  | _ => none

inductive Primitive where
  | string
  | number
  | boolean
  | null
  | unknown
  | never
  | unknownArray
  | unknownRecord
  deriving DecidableEq, Repr

/-- Whether the fields of a record have to be present. -/
inductive Presence where
  | required
  | optional
  deriving DecidableEq, Repr

inductive Container where
  | array
  | record
  deriving DecidableEq, Repr

/-- Ways to combine a list of members. A sum is a union whose members are told apart by a tag. -/
inductive Grouping where
  | tuple
  | intersection
  | sum
  | union
  deriving DecidableEq, Repr

/-- A signature node with lazy leaves. `made` is a leaf with a text of its own; `watched` is one that
reports each time it is rendered. -/
inductive Node (key : Type) where
  | primitive (kind : Primitive)
  | literals (values : List Literal)
  | fields (presence : Presence) (entries : List (String × Node key))
  | container (kind : Container) (element : Node key)
  | group (kind : Grouping) (members : List (Node key))
  | lazy (key : key)
  | made (text : String)
  | watched (name : String)
  deriving Repr

abbrev Signature : Type :=
  Node String

namespace Node

variable {key other : Type}

mutual

/-- The keys of the lazy leaves, from left to right. -/
def keys : Node key → List key
  | .primitive _ | .literals _ | .made _ | .watched _ => []
  | .fields _ entries => keysOfEntries entries
  | .container _ element => keys element
  | .group _ members => keysOfMembers members
  | .lazy key => [key]

def keysOfEntries : List (String × Node key) → List key
  | [] => []
  | (_, node) :: rest => keys node ++ keysOfEntries rest

def keysOfMembers : List (Node key) → List key
  | [] => []
  | node :: rest => keys node ++ keysOfMembers rest

end

mutual

def map (rename : key → other) : Node key → Node other
  | .primitive kind => .primitive kind
  | .literals values => .literals values
  | .fields presence entries => .fields presence (mapEntries rename entries)
  | .container kind element => .container kind (map rename element)
  | .group kind members => .group kind (mapMembers rename members)
  | .lazy key => .lazy (rename key)
  | .made text => .made text
  | .watched name => .watched name

def mapEntries (rename : key → other) : List (String × Node key) → List (String × Node other)
  | [] => []
  | (name, node) :: rest => (name, map rename node) :: mapEntries rename rest

def mapMembers (rename : key → other) : List (Node key) → List (Node other)
  | [] => []
  | node :: rest => map rename node :: mapMembers rename rest

end

mutual

/-- Rebuilds a tree from left to right, replacing each lazy leaf by the tree that `expand` makes of
its key and telling `watch` of each watched leaf. -/
def traverse {effect : Type → Type} [Monad effect]
    (expand : key → effect (Node other)) (watch : String → effect Unit) :
    Node key → effect (Node other)
  | .primitive kind => pure (.primitive kind)
  | .literals values => pure (.literals values)
  | .fields presence entries => do
      pure (.fields presence (← traverseEntries expand watch entries))
  | .container kind element => do
      pure (.container kind (← traverse expand watch element))
  | .group kind members => do
      pure (.group kind (← traverseMembers expand watch members))
  | .lazy key => expand key
  | .made text => pure (.made text)
  | .watched name => do
      watch name
      pure (.made name)

def traverseEntries {effect : Type → Type} [Monad effect]
    (expand : key → effect (Node other)) (watch : String → effect Unit) :
    List (String × Node key) → effect (List (String × Node other))
  | [] => pure []
  | (name, node) :: rest => do
      let first ← traverse expand watch node
      let others ← traverseEntries expand watch rest
      pure ((name, first) :: others)

def traverseMembers {effect : Type → Type} [Monad effect]
    (expand : key → effect (Node other)) (watch : String → effect Unit) :
    List (Node key) → effect (List (Node other))
  | [] => pure []
  | node :: rest => do
      let first ← traverse expand watch node
      let others ← traverseMembers expand watch rest
      pure (first :: others)

end

end Node

end SchemaSignature
