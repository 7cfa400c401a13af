import SchemaSignature.Document.Session
import SchemaSignature.Json.Merge
import SchemaSignature.Program.Shelf

/-!
Evaluation of expressions. The parts of an expression are evaluated first, in order, and then the
constructor checks them. A definition is evaluated once for each interpreter that it keeps a result
for; a failed evaluation leaves no result behind.
-/

namespace SchemaSignature.Program

/-- What an interpreter makes of a constructor: the node, the text of the small language if the
constructor belongs to it, or nothing. -/
def Interpreter.construct (interpreter : Interpreter)
    (node : Except Failure (Node Cell)) (text : Option String) : ProgramWork Value :=
  match interpreter with
  | .standard | .bound _ =>
      match node with
      | .ok node => Shelf.newValue (.node node)
      | .error failure => throw failure
  | .toy .. =>
      match text with
      | some text => Shelf.newValue (.plain (.str text))
      | none => throw (.misuse .missingOperation)
  | .bare _ => throw (.misuse .missingOperation)

/-- The word of the small language for a primitive. -/
def toyWord? : Primitive → Option String
  | .string => some "S"
  | .number => some "N"
  | .boolean => some "B"
  | _ => none

def Interpreter.primitive (interpreter : Interpreter) (kind : Primitive) : ProgramWork Value :=
  match interpreter, toyWord? kind with
  | .standard, _ | .bound _, _ => pure (Value.ofPrimitive kind)
  | .toy .., some word => pure (Value.constant (.plain (.str word)))
  | _, _ => throw (.misuse .missingOperation)

def ListConstructor.node (kind : ListConstructor) (members : List (Operand Cell)) :
    Except Failure (Node Cell) :=
  match kind with
  | .tuple => Construction.tuple members
  | .intersection => Construction.intersection members
  | .union => Construction.union members

def operandsOf (value : Json) : Except Failure (List (Operand Cell)) :=
  match value.elements? with
  | some items => .ok (items.map .plain)
  | none => .error (.misuse (.notIterable value.kind))

def toyRecord (entries : List (Json × Value)) : String :=
  "\x7b" ++
    ",".intercalate (entries.map fun entry => entry.1.plain ++ ":" ++ entry.2.inlineText) ++ "\x7d"

def operandEntries (entries : List (Json × Value)) : List (Json × Operand Cell) :=
  entries.map fun entry => (entry.1, entry.2.content)

/-- A lazy node that an interpreter makes of a body, with names from the given namer. -/
def Interpreter.lazyNode (interpreter : Interpreter) (namer : Option Nat)
    (body : Except Failure Body) : ProgramWork Value := do
  let bound ←
    match interpreter with
    | .standard => pure namer
    | .bound own => if namer.isSome then throw (.misuse .unexpectedOption) else pure (some own)
    | _ => throw (.misuse .missingOperation)
  match body with
  | .ok body => Shelf.newValue (.node (.lazy (.built (← Shelf.addBody body) bound)))
  | .error failure => throw failure

/-- The number of the namer that goes by a name, if one is given. -/
def namerOf? (name : Option String) : ProgramWork (Option Nat) :=
  match name with
  | some name => some <$> Shelf.find Shelf.namers name
  | none => pure none

namespace Expression

mutual

/-- Evaluates an expression with the interpreter of the given number. `call` evaluates named
definitions. -/
def build (call : String → Nat → ProgramWork Value) (interpreter : Nat) :
    Expression → ProgramWork Value
  | .primitive kind => do (← Shelf.interpreterAt interpreter).primitive kind
  | .null => pure (Value.ofPrimitive .null)
  | .raw value => pure (Value.constant (.plain value))
  | .stored name => Shelf.find Shelf.values name
  | .defined name => call name interpreter
  | .constant text => Shelf.newValue (.node (.made text))
  | .produced value => throw (.textNotDeferred value.kind)
  | .probe name => Shelf.newValue (.node (.watched name))
  | .literals values => do
      let node := do Construction.literals (← values.sizedElements)
      (← Shelf.interpreterAt interpreter).construct node none
  | .literalsOr values fallback => do
      let other ← build call interpreter fallback
      let node := do Construction.literalsOr (← values.sizedElements) other.content
      (← Shelf.interpreterAt interpreter).construct node none
  | .fields presence entries => do
      let table ← buildEntries call interpreter [] entries
      let text :=
        match presence with
        | .required => some (toyRecord table)
        | .optional => none
      (← Shelf.interpreterAt interpreter).construct
        (Construction.fields presence (operandEntries table)) text
  | .container kind element => do
      let inner ← build call interpreter element
      let text :=
        match kind with
        | .array => some ("[" ++ inner.inlineText ++ "]")
        | .record => none
      (← Shelf.interpreterAt interpreter).construct
        (Construction.container kind inner.content) text
  | .list kind members => do
      let built ← buildAll call interpreter members
      (← Shelf.interpreterAt interpreter).construct (kind.node (built.map Value.content)) none
  | .listOf kind members => do
      (← Shelf.interpreterAt interpreter).construct (operandsOf members >>= kind.node) none
  | .sum tag members => do
      let table ← buildEntries call interpreter [] members
      (← Shelf.interpreterAt interpreter).construct
        (Construction.sum tag (table.map fun entry => entry.2.content)) none
  | .lazy body namer => do
      let bound ← namerOf? namer
      (← Shelf.interpreterAt interpreter).lazyNode bound
        (.ok { expression := body, interpreter := interpreter })
  | .lazyOf producer namer => do
      let bound ← namerOf? namer
      (← Shelf.interpreterAt interpreter).lazyNode bound (.error (.bodyNotDeferred producer.kind))

def buildAll (call : String → Nat → ProgramWork Value) (interpreter : Nat) :
    List Expression → ProgramWork (List Value)
  | [] => pure []
  | expression :: rest => do
      let first ← build call interpreter expression
      let others ← buildAll call interpreter rest
      pure (first :: others)

/-- Evaluates the entries of a table in order and adds them to it, each as soon as it is
evaluated. -/
def buildEntries (call : String → Nat → ProgramWork Value) (interpreter : Nat)
    (table : List (Json × Value)) :
    List (Json × Expression) → ProgramWork (List (Json × Value))
  | [] => pure table
  | (key, expression) :: rest => do
      let value ← build call interpreter expression
      if key.isKey then
        buildEntries call interpreter (Table.set Json.equal key value table) rest
      else throw (.misuse (.notAKey key.kind))

end

end Expression

/-- The result of a definition for an interpreter. `depth` bounds how deeply definitions use one
another. -/
def call : Nat → String → Nat → ProgramWork Value
  | 0, _, _ => throw .outOfFuel
  | depth + 1, name, interpreter => do
      let definition ← Shelf.find Shelf.definitions name
      match definition.results.lookup interpreter with
      | some value => pure value
      | none =>
          Shelf.putDefinition name { definition with calls := definition.calls + 1 }
          let value ← definition.expression.build (call depth) interpreter
          if definition.keepsResults then
            let evaluated ← Shelf.find Shelf.definitions name
            Shelf.putDefinition name
              { evaluated with results := evaluated.results ++ [(interpreter, value)] }
          pure value

def evaluate (depth : Nat) (expression : Expression) (interpreter : Nat) : ProgramWork Value :=
  expression.build (call depth) interpreter

def requireNode (value : Value) : ProgramWork (Node Cell) :=
  match value.content with
  | .node node => pure node
  | .plain content => throw (.misuse (.notRenderable content.kind))

/-- The node of a schema in a document of the program. -/
def documentNode (document : Nat) (bound : Option Nat) (root schema : Json) :
    ProgramWork (Node Cell) :=
  match (root.draft schema).outcome with
  | .ok node => pure (node.map fun target => .reference document target bound)
  | .error failure => throw failure

def bodyOf (depth : Nat) (cell : Cell) : ProgramWork (Node Cell) := do
  match cell with
  | .built index _ =>
      match (← Shelf.current).bodies[index]? with
      | some body => requireNode (← evaluate depth body.expression body.interpreter)
      | none => throw .undefined
  | .reference document target bound =>
      match (← Shelf.current).documents[document]? with
      | some root =>
          match Pointer.resolve root target with
          | .ok schema => documentNode document bound root schema
          | .error failure => throw failure
      | none => throw .undefined
  | .alone _ => throw .undefined

def workshop (depth : Nat) : Workshop Cell Shelf where
  bound := Cell.bound?
  body := bodyOf depth
  watch name := Shelf.update fun shelf => { shelf with probes := shelf.probes ++ [name] }

end SchemaSignature.Program
