import SchemaSignature.CommandLine.Arguments
import SchemaSignature.Naming.Namer
import SchemaSignature.Storage.Path

/-!
What the command line asks for. Two commands take a schema file: `render` writes its signature and
`check` lists what is wrong with it.
-/

namespace SchemaSignature.CommandLine

/-- The options of the command that renders a schema. -/
structure RenderOptions where
  schema : Storage.Path
  stem : String
  start : Nat
  showDeclarations : Bool
  showSchema : Bool
  output : Option Storage.Path
  deriving Repr

/-- The options of the command that checks a schema. -/
structure CheckOptions where
  schema : Storage.Path
  showSchema : Bool
  deriving Repr

inductive Request where
  | help
  | version
  | render (options : RenderOptions)
  | check (options : CheckOptions)
  deriving Repr

/-- A request, and whether to report what happens on the way. -/
structure Invocation where
  request : Request
  verbose : Bool
  deriving Repr

inductive Command where
  | render
  | check
  deriving DecidableEq, Repr

def plainSwitch (long : String) (short : Option Char) : Switch :=
  ⟨long, short, false⟩

def valueSwitch (long : String) (short : Option Char) : Switch :=
  ⟨long, short, true⟩

def helpSwitch : Switch :=
  plainSwitch "help" none

def commonSwitches : List Switch :=
  [plainSwitch "version" (some 'v'), plainSwitch "verbose" none, helpSwitch]

namespace Command

def ofName? : String → Option Command
  | "render" => some .render
  | "check" => some .check
  | _ => none

def switches : Command → List Switch
  | .render =>
      [valueSwitch "schema" (some 's'), valueSwitch "prefix" none, valueSwitch "start" none,
        plainSwitch "declarations" (some 'd'), plainSwitch "show-schema" none,
        valueSwitch "output" (some 'o'), helpSwitch]
  | .check => [valueSwitch "schema" (some 's'), plainSwitch "show-schema" none, helpSwitch]

end Command

def startOf (given : Given) : Option Nat :=
  match given.value? "start" with
  | none => some 0
  | some text =>
      match Text.wholeNumber? text with
      | some (.ofNat start) => some start
      | _ => none

def Command.request (command : Command) (given : Given) : Option Request := do
  if given.has helpSwitch.long then return .help
  if !given.rest.isEmpty then none
  let schema ← Storage.Path.ofText <$> given.value? "schema"
  let showSchema := given.has "show-schema"
  match command with
  | .check => return .check { schema := schema, showSchema := showSchema }
  | .render =>
      return .render
        { schema := schema
          stem := (given.value? "prefix").getD Namer.defaultStem
          start := ← startOf given
          showDeclarations := given.has "declarations"
          showSchema := showSchema
          output := Storage.Path.ofText <$> given.value? "output" }

/-- What the options before the command and the arguments behind them ask for. Help and version come
before a look at the arguments of a command. -/
def requestOf (given : Given) : Option Request := do
  if given.has helpSwitch.long then return .help
  match given.rest with
  | [] => return if given.has "version" then .version else .help
  | name :: rest =>
      let command ← Command.ofName? name
      if given.has "version" then return .version
      command.request (← givenBy command.switches true rest)

/-- What a list of arguments asks for, if they are well-formed. -/
def Invocation.ofArguments? (arguments : List String) : Option Invocation := do
  let given ← givenBy commonSwitches false arguments
  return { request := ← requestOf given, verbose := given.has "verbose" }

end SchemaSignature.CommandLine
