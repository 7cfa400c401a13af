import SchemaSignature.Logging.Level
import SchemaSignature.Storage.Files

/-!
The logger of the program: its level, and the file that its messages are written to beside the
terminal. Setting it up again replaces what was set up before. Messages to the logger and to those
below it, whose names go on behind a dot, are accepted from its level on.
-/

namespace SchemaSignature.Logging

/-- A message: the name of the logger that it is sent to, its level and its text. -/
structure Message where
  logger : String
  level : Int
  text : String
  deriving Repr

/-- A logger that has been set up: the level as it was given and as a number, and the path of its
file, if it has one. -/
structure Logger where
  given : Json
  level : Int
  file : Option Storage.Path
  deriving Repr

def loggerName : String := "static_schema"

/-- The level that is given by a value: a name gives its number, any other value itself. -/
def givenLevel (value : Json) (level : Int) : Json :=
  match value with
  | .str _ => .int level
  | other => other

namespace Logger

/-- Sets up the logger. Its file is created empty, and so are the directories above it. -/
def setUp {effect : Type → Type} [Monad effect] (files : Storage.Files effect) (level : Json)
    (file : Option Storage.Path) : effect (Except Failure Logger) := do
  match levelOf level with
  | .error failure => return .error failure
  | .ok number =>
      let logger := { given := givenLevel level number, level := number, file := file }
      match file with
      | none => return .ok logger
      | some path =>
          match ← files.save path "" with
          | .ok () => return .ok logger
          | .error refusal => return .error (.misuse (.refused refusal))

def threshold (logger : Logger) : Int :=
  if logger.level = 0 then defaultThreshold else logger.level

/-- A name is that of the logger or of one below it. -/
def covers (name : String) : Bool :=
  name == loggerName || (loggerName ++ ".").isPrefixOf name

/-- A message is accepted. Levels up to zero are always silent. -/
def accepts (logger : Logger) (message : Message) : Bool :=
  covers message.logger && 0 < message.level && logger.threshold ≤ message.level

def handlers (logger : Logger) : Nat :=
  if logger.file.isSome then 2 else 1

/-- The text of a message in a file, behind the time: the level in at least eight columns, the name
of the logger, and the text. -/
def entry (message : Message) : String :=
  let level := levelText message.level
  level ++ String.ofList (List.replicate (8 - level.length) ' ') ++ " " ++ message.logger ++ ": " ++
    message.text ++ "\n"

/-- What a file holds after several messages, apart from the times. -/
def fileText (logger : Logger) (messages : List Message) : String :=
  "".intercalate ((messages.filter logger.accepts).map entry)

end Logger

end SchemaSignature.Logging
