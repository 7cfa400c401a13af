import SchemaSignature.CommandLine.Request
import SchemaSignature.Document.Check
import SchemaSignature.Document.Session
import SchemaSignature.Signature.Alias
import SchemaSignature.Storage.Loading
import SchemaSignature.Storage.Path
import SchemaSignature.Terminal.Piece

/-!
The commands. A command reads one document, prints pieces of output and ends with an exit code; the
rendered signature is written to a file if one is asked for. A document that cannot be rendered
leaves no file behind.
-/

namespace SchemaSignature.CommandLine

open Storage (Files Path)
open Terminal (Piece)

/-- How a command ends: its exit code, what it prints, and what happened on the way. -/
structure Outcome where
  exit : Nat
  pieces : List Piece
  events : List Event := []
  deriving Repr

/-- The exit code of a command that has done what was asked. -/
def successCode : Nat := 0

/-- The exit code of a command that has failed. -/
def failureCode : Nat := 1

/-- The exit code for arguments that ask for nothing sensible. -/
def usageCode : Nat := 2

def programVersion : String := "0.1.0"

def helpLines : List String :=
  ["Usage: static-schema [--version] [--verbose] COMMAND [OPTIONS]",
   "",
   "Commands:",
   "  render --schema FILE [--prefix TEXT] [--start NUMBER] [--declarations] [--show-schema]",
   "         [--output FILE]    Render a JSON Schema file as a type signature.",
   "  check --schema FILE [--show-schema]",
   "                            Report problems in a JSON Schema file."]

/-- A document with its signature: the text, and the table of what reference names stand for. -/
structure Rendering where
  signature : String
  declarations : List (String × String)
  deriving Repr

def renderOnce (document : Json) (stem : String) (start : Nat) :
    Except Failure Rendering × List Event :=
  let session :=
    Document.session document { stem := stem, count := start } true 1
  let rendering := do
    match ← session.renderings with
    | [outcome] => do
        let signature ← outcome
        pure { signature := signature.text, declarations := session.namer.declaredTexts }
    | _ => throw .undefined
  (rendering, session.events)

/-- The text of a file with a signature: the signature on a line, behind the declarations and an
empty line if there are any and they are asked for. -/
def fileText (withDeclarations : Bool) (rendering : Rendering) : String :=
  let signature := rendering.signature ++ "\n"
  if withDeclarations && !rendering.declarations.isEmpty then
    aliasText rendering.declarations ++ "\n\n" ++ signature
  else signature

/-- Failures that are the document's fault; all others are reported as failures of the command. -/
def isDocumentFault (failure : Failure) : Bool :=
  match failure.category with
  | .invalidValue | .undecodable | .wrongKind => true
  | _ => false

/-- The report that a document could not be loaded. -/
def loadFailure (failure : Failure) : Piece :=
  Piece.failure ("Failed to load schema: " ++ Terminal.escape failure.message)

/-- The report that a document could not be rendered. -/
def renderFailure (failure : Failure) : Piece :=
  Piece.failure ("Failed to render schema: " ++ Terminal.escape failure.message)

def commandFailure (failure : Failure) : Piece :=
  Piece.failure ("Command failed: " ++ failure.message)

/-- The box that shows a document: the text that a document is, or else its JSON text. -/
def documentBox (document : Json) : Piece :=
  Piece.panel "Schema" .cut <|
    match document with
    | .str text => text
    | value => value.encodeIndented 0

def declarationPieces (declarations : List (String × String)) : List Piece :=
  if declarations.isEmpty then [Piece.remark "No recursive references were rendered"]
  else [Piece.gap, Piece.table "Reference Declarations" "Name" "Expansion" declarations, Piece.gap]

/-- What is printed of a document that has been loaded. -/
def loadedPieces (path : String) (document : Json) (showSchema : Bool) : List Piece :=
  Piece.success ("Loaded schema from: " ++ Terminal.escape path) ::
    if showSchema then [documentBox document] else []

def renderingPieces (rendering : Rendering) (showDeclarations : Bool) : List Piece :=
  Piece.separator :: Piece.panel "Signature" .folded rendering.signature ::
    if showDeclarations then declarationPieces rendering.declarations else []

/-- The line on one report as marked-up text. A bracket in the place and one in the message can make
a tag together. -/
def reportMarkup (report : Document.Report) : String :=
  "  [red]•[/red] " ++ Terminal.escape report.place ++ ": " ++ Terminal.escape report.message

/-- The lines on reports. A line that cannot be shown ends the output. -/
def reportPieces : List Document.Report → List Piece
  | [] => [Piece.gap]
  | report :: rest =>
      let markup := reportMarkup report
      if (Terminal.shown? markup).isSome then Piece.ofMarkup markup :: reportPieces rest else []

def checkPieces (reports : List Document.Report) : List Piece :=
  if reports.isEmpty then [Piece.gap, Piece.success "Schema check passed!"]
  else
    [Piece.gap, Piece.failure "Schema check failed", Piece.gap, Piece.ofMarkup "Schema Errors:"] ++
      reportPieces reports

/-- The end of a program that was asked for nothing sensible. -/
def misusedEnd : Outcome :=
  { exit := usageCode, pieces := [] }

section Commands

variable {effect : Type → Type} [Monad effect]

def saveRendering (files : Files effect) (path : Path) (text : String) :
    effect (Nat × List Piece) := do
  match ← files.save path text with
  | .ok () =>
      return (successCode, [Piece.success ("Signature saved to: " ++ Terminal.escape path.text)])
  | .error refusal => return (failureCode, [commandFailure (.misuse (.refused refusal))])

def renderDocument (files : Files effect) (options : RenderOptions) (document : Json) :
    effect Outcome := do
  let (rendering, events) := renderOnce document options.stem options.start
  match rendering with
  | .error failure =>
      let piece := if isDocumentFault failure then renderFailure failure else commandFailure failure
      return { exit := failureCode, pieces := [piece], events := events }
  | .ok rendering =>
      let pieces := renderingPieces rendering options.showDeclarations
      match options.output with
      | none => return { exit := successCode, pieces := pieces, events := events }
      | some output =>
          let (exit, saved) ←
            saveRendering files output (fileText options.showDeclarations rendering)
          return { exit := exit, pieces := pieces ++ saved, events := events }

def checkDocument (document : Json) : Outcome :=
  let start := [Piece.separator, Piece.remark "Checking..."]
  match Document.check document with
  | .ok reports =>
      { exit := if reports.isEmpty then successCode else failureCode
        pieces := start ++ checkPieces reports }
  | .error failure => { exit := failureCode, pieces := start ++ [commandFailure failure] }

/-- Loads a document and continues with it, under a title. A path that leads to no file is an error
of usage. -/
def withDocument (files : Files effect) (title : String) (path : Path) (showSchema : Bool)
    (next : Json → effect Outcome) : effect Outcome := do
  match ← files.look path with
  | .error _ | .ok .directory => return misusedEnd
  | .ok (.file bytes) =>
      match Storage.readBytes bytes with
      | .error failure =>
          return { exit := failureCode, pieces := Piece.header title ++ [loadFailure failure] }
      | .ok document =>
          let outcome ← next document
          return { outcome with
            pieces :=
              Piece.header title ++ loadedPieces path.text document showSchema ++ outcome.pieces }

def perform (files : Files effect) : Request → effect Outcome
  | .help => return { exit := successCode, pieces := [.lines helpLines] }
  | .version =>
      return {
        exit := successCode
        pieces := [.lines ["static-schema version " ++ programVersion]] }
  | .render options =>
      withDocument files "static-schema - Render Signature" options.schema options.showSchema
        (renderDocument files options)
  | .check options =>
      withDocument files "static-schema - Check Schema" options.schema options.showSchema
        fun document => return checkDocument document

def run (files : Files effect) (arguments : List String) : effect Outcome :=
  match Invocation.ofArguments? arguments with
  | some invocation => do
      let outcome ← perform files invocation.request
      return { outcome with
        events := outcome.events.filter fun event => invocation.verbose || event.isWarning }
  | none => return misusedEnd

end Commands

end SchemaSignature.CommandLine
