import SchemaSignature.Program.Shelf

/-!
Which results of definitions are still kept. A result goes when nothing refers to its interpreter
any more. What refers to an interpreter is a name, the registry, or a lazy node built with it, in a
stored value or in a result that is kept. The standard interpreter and lasting ones always stay.
-/

namespace SchemaSignature.Program.Retention

/-- The interpreters that the lazy nodes of a value refer to. -/
def heldBy (shelf : Shelf) (value : Value) : List Nat :=
  match value.content with
  | .plain _ => []
  | .node node =>
      node.keys.filterMap fun cell =>
        match cell with
        | .built index _ => shelf.bodies[index]?.map Body.interpreter
        | _ => none

/-- An interpreter is referred to by something other than results. -/
def isRooted (shelf : Shelf) (interpreter : Nat) : Bool :=
  interpreter == standardInterpreter ||
    (shelf.interpreters[interpreter]?.any Interpreter.isLasting) ||
    shelf.interpreterNames.any (fun entry => entry.2 == interpreter) ||
    shelf.registry.any (fun entry => entry.2 == interpreter) ||
    shelf.values.any (fun entry => (heldBy shelf entry.2).contains interpreter)

def results (shelf : Shelf) : List (Nat × Value) :=
  shelf.definitions.flatMap fun entry => entry.2.results

/-- An interpreter is referred to, given the results that are kept. -/
def isReferred (shelf : Shelf) (kept : List (Nat × Value)) (interpreter : Nat) : Bool :=
  isRooted shelf interpreter ||
    kept.any fun entry => (heldBy shelf entry.2).contains interpreter

/-- The results whose interpreters are referred to, given the results that are kept. -/
def prune (shelf : Shelf) (kept : List (Nat × Value)) : List (Nat × Value) :=
  kept.filter fun entry => isReferred shelf kept entry.1

def pruneTimes (shelf : Shelf) : Nat → List (Nat × Value) → List (Nat × Value)
  | 0, kept => kept
  | times + 1, kept => pruneTimes shelf times (prune shelf kept)

/-- The results that are kept: the most that keep one another. Each pruning that changes anything
removes a result, so as many prunings as there are results suffice. -/
def kept (shelf : Shelf) : List (Nat × Value) :=
  pruneTimes shelf (results shelf).length (results shelf)

def size (shelf : Shelf) (definition : Definition) : Except Failure Nat :=
  if definition.keepsResults then
    .ok (definition.results.countP fun entry => isReferred shelf (kept shelf) entry.1)
  else .error (.misuse .missingOperation)

end SchemaSignature.Program.Retention
