import SchemaSignature.Program.Shelf

/-!
The registry of interpreters by identifier. An identifier belongs to the first interpreter that is
registered under it; identifiers that are equal as values are one identifier.
-/

namespace SchemaSignature.Program.Registry

def sorted (texts : List String) : List String :=
  texts.mergeSort fun left right => compare left right != .gt

def holder? (shelf : Shelf) (uri : Json) : Option Nat :=
  Table.find? (Json.equal uri) shelf.registry

/-- The interpreter that has an identifier may be registered under it. -/
def allow (shelf : Shelf) (uri : Json) (interpreter : Nat) : Except Failure Unit :=
  if !uri.isTruthy then .error .missingUri
  else if !uri.isKey then .error (.misuse (.notAKey uri.kind))
  else
    match holder? shelf uri with
    | some holder =>
        if holder == interpreter then .ok ()
        else
          .error (.uriTaken uri (shelf.interpreters[holder]?.bind Interpreter.description?))
    | none => .ok ()

def register (interpreter : Nat) : ProgramWork Unit := do
  match (← Shelf.interpreterAt interpreter).uri? with
  | none => throw .missingUri
  | some uri =>
      match allow (← Shelf.current) uri interpreter with
      | .error failure => throw failure
      | .ok () =>
          Shelf.update fun shelf =>
            { shelf with registry := Table.set Json.equal uri interpreter shelf.registry }

/-- The failure to find an identifier. It lists the registered ones, which have to be texts. -/
def absence (shelf : Shelf) (uri : Json) : Failure :=
  match shelf.registry.mapM fun entry =>
      match entry.1 with
      | .str name => some name
      | _ => none with
  | some names => .notRegistered uri (sorted names)
  | none => .misuse .notOrdered

def lookup (uri : Json) : ProgramWork Nat := do
  let shelf ← Shelf.current
  if !uri.isKey then throw (.misuse (.notAKey uri.kind))
  match holder? shelf uri with
  | some interpreter => pure interpreter
  | none => throw (absence shelf uri)

/-- The names that stand for an interpreter, in order. -/
def namesOf (shelf : Shelf) (interpreter : Nat) : List String :=
  sorted <| shelf.interpreterNames.filterMap fun entry =>
    if entry.2 == interpreter then some entry.1 else none

end SchemaSignature.Program.Registry
