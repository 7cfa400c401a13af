import SchemaSignature.Naming.Expansion
import SchemaSignature.Program.Expression
import SchemaSignature.Signature.Construction

/-!
What a program keeps beside the namers: stored values, interpreters and their registry, definitions
with their results, the bodies of lazy nodes, and the documents behind references. Everything that
has an identity of its own is known by a number that is never used again.
-/

namespace SchemaSignature.Program

/-- Ways to turn expressions into results: as signature nodes; as signature nodes whose lazy nodes
take their names from one namer; as texts of a small language of its own; or not at all. A lasting
interpreter is kept by everything it has been used with. -/
inductive Interpreter where
  | standard
  | bound (namer : Nat)
  | toy (uri : Json) (lasting : Bool)
  | bare (lasting : Bool)
  deriving Repr

namespace Interpreter

/-- The identifier of the standard interpreter and of its copies. -/
def standardUri : String := "Static"

def uri? : Interpreter → Option Json
  | .standard | .bound _ => some (.str standardUri)
  | .toy uri _ => some uri
  | .bare _ => none

/-- The lasting description of an interpreter, if it has one. -/
def description? : Interpreter → Option String
  | .toy uri _ => some ("Toy(" ++ uri.display ++ ")")
  | _ => none

/-- Everything that an interpreter has been used with keeps it. -/
def isLasting : Interpreter → Bool
  | .toy _ lasting | .bare lasting => lasting
  | _ => false

end Interpreter

/-- What a name can be claimed for: a lazy node built by an expression, a reference in a document,
or a cell of its own. Lazy nodes and references may be bound to a namer. -/
inductive Cell where
  | built (index : Nat) (bound : Option Nat)
  | reference (document : Nat) (target : String) (bound : Option Nat)
  | alone (index : Nat)
  deriving DecidableEq, Repr

def Cell.bound? : Cell → Option Nat
  | .built _ bound | .reference _ _ bound => bound
  | .alone _ => none

/-- A value with its identity. Values without a mark are the same if they are equal; a marked value
is the same as itself only. -/
structure Value where
  mark : Option Nat
  content : Operand Cell
  deriving Repr

namespace Value

/-- A value that is the same wherever it comes from. -/
def constant (content : Operand Cell) : Value :=
  ⟨none, content⟩

def ofPrimitive (kind : Primitive) : Value :=
  constant (.node (.primitive kind))

def isSame (left right : Value) : Bool :=
  match left.mark, right.mark with
  | some first, some second => first == second
  | none, none =>
      match left.content, right.content with
      | .node (.primitive first), .node (.primitive second) => first == second
      | .plain first, .plain second => Json.strictEqual first second
      | _, _ => false
  | _, _ => false

def text? (value : Value) : Option String :=
  match value.content with
  | .plain (.str text) => some text
  | _ => none

/-- The text of a value inside another text. A node has no lasting text before it is rendered. -/
def inlineText (value : Value) : String :=
  match value.content with
  | .plain content => content.plain
  | .node _ => "(node)"

end Value

/-- The body of a lazy node: an expression and the interpreter to evaluate it with. -/
structure Body where
  expression : Expression
  interpreter : Nat
  deriving Repr

/-- A named definition: an expression for any interpreter, how often it has been evaluated, and its
results by interpreter, unless it keeps none. -/
structure Definition where
  expression : Expression
  keepsResults : Bool
  calls : Nat := 0
  results : List (Nat × Value) := []
  deriving Repr

/-- Everything a program keeps beside the namers. The first namer is the default one and the first
interpreter the standard one. -/
structure Shelf where
  values : List (String × Value) := []
  namers : List (String × Nat) := [("default", 0)]
  namerNames : List String := ["default"]
  cells : List (String × Nat) := []
  bodies : List Body := []
  documents : List Json := []
  interpreters : List Interpreter := [.standard]
  interpreterNames : List (String × Nat) := []
  registry : List (Json × Nat) := [(.str Interpreter.standardUri, 0)]
  definitions : List (String × Definition) := []
  probes : List String := []
  marks : Nat := 0
  deriving Repr

abbrev ProgramWork (result : Type) : Type :=
  Work Cell Shelf result

def standardInterpreter : Nat := 0

namespace Shelf

def update (change : Shelf → Shelf) : ProgramWork Unit :=
  modify fun desk => { desk with own := change desk.own }

def current : ProgramWork Shelf := do
  return (← get).own

/-- The entry of a table, or a failure if nothing defines the name. -/
def find {content : Type} (table : Shelf → List (String × content)) (name : String) :
    ProgramWork content := do
  match Table.find? (· == name) (table (← current)) with
  | some found => pure found
  | none => throw .undefined

def interpreterAt (index : Nat) : ProgramWork Interpreter := do
  match (← current).interpreters[index]? with
  | some interpreter => pure interpreter
  | none => throw .undefined

def freshMark : ProgramWork Nat := do
  let mark := (← current).marks
  update fun shelf => { shelf with marks := mark + 1 }
  pure mark

def newValue (content : Operand Cell) : ProgramWork Value := do
  return ⟨some (← freshMark), content⟩

def store (name : String) (value : Value) : ProgramWork Unit :=
  update fun shelf => { shelf with values := Table.set (· == ·) name value shelf.values }

def addNamer (name : String) (namer : Namer) : ProgramWork Unit := do
  let index := (← get).namers.length
  modify fun desk => { desk with namers := desk.namers ++ [namer] }
  update fun shelf =>
    { shelf with
      namers := Table.set (· == ·) name index shelf.namers
      namerNames := shelf.namerNames ++ [name] }

def addInterpreter (interpreter : Interpreter) : ProgramWork Nat := do
  let index := (← current).interpreters.length
  update fun shelf => { shelf with interpreters := shelf.interpreters ++ [interpreter] }
  pure index

def nameInterpreter (name : String) (index : Nat) : ProgramWork Unit :=
  update fun shelf =>
    { shelf with interpreterNames := Table.set (· == ·) name index shelf.interpreterNames }

def putDefinition (name : String) (definition : Definition) : ProgramWork Unit :=
  update fun shelf =>
    { shelf with definitions := Table.set (· == ·) name definition shelf.definitions }

/-- Adds the body of a lazy node and returns its number. -/
def addBody (body : Body) : ProgramWork Nat := do
  let index := (← current).bodies.length
  update fun shelf => { shelf with bodies := shelf.bodies ++ [body] }
  pure index

def addDocument (root : Json) : ProgramWork Nat := do
  let index := (← current).documents.length
  update fun shelf => { shelf with documents := shelf.documents ++ [root] }
  pure index

end Shelf

end SchemaSignature.Program
