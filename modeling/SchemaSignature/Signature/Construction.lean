import SchemaSignature.Failure
import SchemaSignature.Json.Comparison
import SchemaSignature.Signature.Node
import SchemaSignature.Table

/-!
Checked construction of nodes. The parts that a constructor is given may be plain values as well as
nodes; a constructor refuses plain parts, wrong numbers of members, values without a literal form
and field names that are not texts. Numbers of members are checked before the members.
-/

namespace SchemaSignature

/-- A part given to a constructor: a node, or a plain value in the place of one. -/
inductive Operand (key : Type) where
  | node (node : Node key)
  | plain (value : Json)
  deriving Repr

namespace Construction

variable {key : Type}

/-- The least and the greatest number of members of a tuple. -/
def tupleArity : Nat × Nat := (1, 5)

/-- The least and the greatest number of members of an intersection. -/
def intersectionArity : Nat × Nat := (2, 5)

/-- The node of an operand at the given place among the members of a combinator. -/
def requireNode (combinator : String) (index : Nat) :
    Operand key → Except Failure (Node key)
  | .node node => .ok node
  | .plain value => .error (.memberNotANode combinator index value)

/-- The nodes of the members from the given place on. -/
def requireNodes (combinator : String) (index : Nat) :
    List (Operand key) → Except Failure (List (Node key))
  | [] => .ok []
  | member :: rest => do
      let first ← requireNode combinator index member
      let others ← requireNodes combinator (index + 1) rest
      pure (first :: others)

/-- Refuses a number of members outside the given bounds. -/
def requireArity (combinator : String) (bounds : Nat × Nat) (count : Nat) :
    Except Failure Unit :=
  if bounds.1 ≤ count ∧ count ≤ bounds.2 then .ok ()
  else .error (.arity combinator bounds.1 bounds.2 count)

def requireLiteral (value : Json) : Except Failure Literal :=
  match Literal.ofJson? value with
  | some literal => .ok literal
  | none => .error (.unsupportedLiteral value)

def literals (values : List Json) : Except Failure (Node key) :=
  if values.isEmpty then .error .noLiterals
  else do pure (.literals (← values.mapM requireLiteral))

/-- The fields of a record, with names and nodes checked entry by entry. -/
def requireFields : List (Json × Operand key) → Except Failure (List (String × Node key))
  | [] => .ok []
  | (.str name, .node node) :: rest => do pure ((name, node) :: (← requireFields rest))
  | (.str name, .plain value) :: _ => .error (.fieldNotANode name value)
  | (name, _) :: _ => .error (.fieldNameNotText name)

def fields (presence : Presence) (entries : List (Json × Operand key)) :
    Except Failure (Node key) := do
  pure (.fields presence (← requireFields entries))

def containerName : Container → String
  | .array => "array"
  | .record => "record"

def container (kind : Container) (element : Operand key) : Except Failure (Node key) := do
  pure (.container kind (← requireNode (containerName kind) 0 element))

def tuple (members : List (Operand key)) : Except Failure (Node key) := do
  requireArity "tuple" tupleArity members.length
  pure (.group .tuple (← requireNodes "tuple" 0 members))

def intersection (members : List (Operand key)) : Except Failure (Node key) := do
  requireArity "intersection" intersectionArity members.length
  pure (.group .intersection (← requireNodes "intersection" 0 members))

def sum (tag : Json) (members : List (Operand key)) : Except Failure (Node key) :=
  if members.isEmpty then .error (.noSumMembers tag)
  else do pure (.group .sum (← requireNodes ("sum('" ++ tag.plain ++ "')") 0 members))

def union (members : List (Operand key)) : Except Failure (Node key) :=
  if members.isEmpty then .error .noUnionMembers
  else do pure (.group .union (← requireNodes "union" 0 members))

/-- A union of literal values and one more member. -/
def literalsOr (values : List Json) (fallback : Operand key) : Except Failure (Node key) := do
  union [.node (← literals values), fallback]

end Construction

/-- A table of entries keyed by values, later entries overriding earlier ones with an equal key. A
key that cannot be one is refused. -/
def keyedTable {content : Type} (entries : List (Json × content)) :
    Except Failure (List (Json × content)) :=
  entries.foldlM
    (fun table entry =>
      if entry.1.isKey then .ok (Table.set Json.equal entry.1 entry.2 table)
      else .error (.misuse (.notAKey entry.1.kind)))
    []

end SchemaSignature
