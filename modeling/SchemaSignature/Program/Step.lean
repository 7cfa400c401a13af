import SchemaSignature.Program.Building
import SchemaSignature.Program.Registry
import SchemaSignature.Program.Retention

/-!
Programs: lists of steps that create namers, cells, nodes, interpreters and definitions and look at
what comes of them. A step that fails leaves what it has changed and the next one is taken.
-/

namespace SchemaSignature.Program

inductive Choice where
  | standard
  | named (name : String)
  | registered (uri : Json)
  deriving Repr

inductive Step where
  | createNamer (name stem : String) (start : Int)
  | mint (namer : String)
  | declare (namer name expansion : String)
  | copyDeclarations (namer : String)
  | showNamer (namer : String)
  | showActive
  | useNamer (namer : String) (steps : List Step) (raises : Bool)
  | runApart (steps : List Step)
  | createCell (name : String)
  | claim (cell namer : String)
  | showCell (cell : String)
  | build (name : String) (expression : Expression)
  | draft (name : String) (document : Json) (namer : Option String)
  | render (name : String) (namer : Option String)
  | renderItself (name : String)
  | define (name : String) (expression : Expression) (keepsResults : Bool)
  | bindNamer (name namer : String)
  | createToy (name : String) (uri : Json) (lasting : Bool)
  | nameStandard (name : String)
  | createBare (name : String)
  | forget (name : String)
  | register (name : String)
  | lookup (uri : Json)
  | interpret (definition : String) (choice : Choice) (name sameAs : Option String)
  | countResults (definition : String)
  deriving Inhabited, Repr

inductive Reply where
  | done
  | text (content : String)
  | namer (namer : Namer) (description : String)
  | active (name : String) (inner : List Reply) (raised : Bool)
  | inner (replies : List Reply)
  | claimed (name : String) (first : Bool)
  | cell (name : Option String)
  | built (probes : List String)
  | rendered (text : String) (probes : List String)
  | found (uri : Json) (names : List String) (isStandard : Bool)
  | interpreted (calls : Nat) (text : Option String) (isSame : Option Bool)
  | count (number : Nat)
  | failed (failure : Failure)
  deriving Repr

def clearProbes : ProgramWork Unit :=
  Shelf.update fun shelf => { shelf with probes := [] }

def cellNamed (name : String) : ProgramWork Cell :=
  Cell.alone <$> Shelf.find Shelf.cells name

/-- The name of the namer that is active, or else of the default one. -/
def activeName : ProgramWork String := do
  let desk ← get
  match desk.own.namerNames[desk.currentNamer]? with
  | some name => pure name
  | none => throw .undefined

def createInterpreter (name : String) (interpreter : Interpreter) : ProgramWork Unit := do
  Shelf.nameInterpreter name (← Shelf.addInterpreter interpreter)

/-- The number of a chosen interpreter. A value that is neither null nor a text is an interpreter
without operations. -/
def chosen : Choice → ProgramWork Nat
  | .standard | .registered .null => pure standardInterpreter
  | .named name => Shelf.find Shelf.interpreterNames name
  | .registered (.str uri) => Registry.lookup (.str uri)
  | .registered _ => Shelf.addInterpreter (.bare true)

def storeDraft (name : String) (root : Json) (namer : Option String) : ProgramWork Unit := do
  let bound ← namerOf? namer
  let document ← Shelf.addDocument root
  let node ← documentNode document bound root root
  match node with
  | .primitive kind => Shelf.store name (Value.ofPrimitive kind)
  | node => Shelf.store name (← Shelf.newValue (.node node))

/-- Lets a stored value render itself. Only nodes can. -/
def renderItself (depth : Nat) (name : String) : ProgramWork Reply := do
  let value ← Shelf.find Shelf.values name
  clearProbes
  match value.content with
  | .node node =>
      let signature ← (workshop depth).render depth node
      return .rendered signature.text (← Shelf.current).probes
  | .plain _ => throw (.misuse .missingOperation)

def render (depth : Nat) (name : String) (namer : Option String) : ProgramWork Reply := do
  let value ← Shelf.find Shelf.values name
  let namer ← namerOf? namer
  clearProbes
  let node ← requireNode value
  let signature ←
    match namer with
    | some namer => (workshop depth).renderUnder depth namer node
    | none => (workshop depth).render depth node
  return .rendered signature.text (← Shelf.current).probes

/-- Evaluates a definition with an interpreter, stores the result and compares it. -/
def interpret (depth : Nat) (definition : String) (choice : Choice)
    (name sameAs : Option String) : ProgramWork Reply := do
  let _ ← Shelf.find Shelf.definitions definition
  let value ← call depth definition (← chosen choice)
  match name with
  | some name => Shelf.store name value
  | none => pure ()
  let evaluated ← Shelf.find Shelf.definitions definition
  match sameAs with
  | some other =>
      let isSame := value.isSame (← Shelf.find Shelf.values other)
      pure (.interpreted evaluated.calls value.text? (some isSame))
  | none => pure (.interpreted evaluated.calls value.text? none)

/-- Takes a step that fails at most by giving a failure as its reply. -/
def attempt (work : ProgramWork Reply) : ProgramWork Reply :=
  tryCatch work fun failure => pure (.failed failure)

mutual

/-- Takes a step. `depth` bounds how deeply definitions and first renderings are nested. -/
def perform (depth : Nat) : Step → ProgramWork Reply
  | .createNamer name stem start => do
      Shelf.addNamer name (← Work.ofExcept (Namer.create stem start))
      pure .done
  | .mint namer => do return .text (← Work.mint (← Shelf.find Shelf.namers namer))
  | .declare namer name expansion => do
      Work.declare (← Shelf.find Shelf.namers namer) name (.made expansion)
      pure .done
  | .copyDeclarations namer => do
      let _ ← Shelf.find Shelf.namers namer
      pure .done
  | .showNamer namer => do
      let found ← Work.namerAt (← Shelf.find Shelf.namers namer)
      return .namer found (← Work.ofExcept found.describe)
  | .showActive => do return .text (← activeName)
  | .useNamer namer steps raises => do
      let index ← Shelf.find Shelf.namers namer
      Work.withActive (some index) do
        return .active (← activeName) (← performAll depth steps) raises
  | .runApart steps => do
      return .inner (← Work.withActive none (performAll depth steps))
  | .createCell name => do
      let index ← Shelf.freshMark
      Shelf.update fun shelf =>
        { shelf with cells := Table.set (· == ·) name index shelf.cells }
      pure .done
  | .claim cell namer => do
      let key ← cellNamed cell
      let (name, first) ← Work.claim key (← Shelf.find Shelf.namers namer)
      pure (.claimed name first)
  | .showCell cell => do
      let key ← cellNamed cell
      return .cell ((← get).nameOf? key)
  | .build name expression => do
      clearProbes
      Shelf.store name (← evaluate depth expression standardInterpreter)
      return .built (← Shelf.current).probes
  | .draft name document namer => do
      storeDraft name document namer
      pure .done
  | .render name namer => render depth name namer
  | .renderItself name => renderItself depth name
  | .define name expression keepsResults => do
      Shelf.putDefinition name { expression := expression, keepsResults := keepsResults }
      pure .done
  | .bindNamer name namer => do
      createInterpreter name (.bound (← Shelf.find Shelf.namers namer))
      pure (.text Interpreter.standardUri)
  | .createToy name uri lasting => do
      createInterpreter name (.toy uri lasting)
      pure .done
  | .nameStandard name => do
      Shelf.nameInterpreter name standardInterpreter
      pure .done
  | .createBare name => do
      createInterpreter name (.bare false)
      pure .done
  | .forget name => do
      let _ ← Shelf.find Shelf.interpreterNames name
      Shelf.update fun shelf =>
        { shelf with
          interpreterNames := shelf.interpreterNames.filter fun entry => entry.1 != name }
      pure .done
  | .register name => do
      Registry.register (← Shelf.find Shelf.interpreterNames name)
      pure .done
  | .lookup uri => do
      let index ← Registry.lookup uri
      let interpreter ← Shelf.interpreterAt index
      return .found (interpreter.uri?.getD .null) (Registry.namesOf (← Shelf.current) index)
        (index == standardInterpreter)
  | .interpret definition choice name sameAs => interpret depth definition choice name sameAs
  | .countResults definition => do
      let found ← Shelf.find Shelf.definitions definition
      return .count (← Work.ofExcept (Retention.size (← Shelf.current) found))

def performAll (depth : Nat) : List Step → ProgramWork (List Reply)
  | [] => pure []
  | step :: rest => do
      let first ← attempt (perform depth step)
      let others ← performAll depth rest
      pure (first :: others)

end

def initial : Desk Cell Shelf :=
  { namers := [Namer.standard], own := {} }

def run (depth : Nat) (steps : List Step) : List Reply :=
  match (performAll depth steps).runOn initial with
  | (.ok replies, _) => replies
  | (.error failure, _) => [.failed failure]

end SchemaSignature.Program
