import SchemaSignature.CommandLine.Run

/-!
The program `static-schema`: runs the command line on the files around it.
-/

namespace SchemaSignature

open CommandLine (Outcome)
open Storage (Entry Files Obstacle Path Refusal)
open Terminal (Piece)

/-- What is at the other end of an opened path. A directory can be opened but not read. -/
def readOpened (handle : IO.FS.Handle) : IO Entry := do
  try
    return .file ((← handle.readBinToEnd).toList.map UInt8.toNat)
  catch _ => return .directory

/-- What stands in the way when the system reports an error. -/
def obstacleOf (path : Path) : IO.Error → Obstacle
  | .alreadyExists .. => .alreadyThere
  | .inappropriateType .. => .notADirectory
  | .noFileOrDirectory .. => .missing
  | _ => if path.hasNull then .unspeakable else .nameTooLong

def lookAround (path : Path) : IO (Except Obstacle Entry) := do
  try
    return .ok (← readOpened (← IO.FS.Handle.mk path.text .read))
  catch error => return .error (obstacleOf path error)

def ensureAround (path : Path) : IO (Except Refusal Unit) := do
  try
    IO.FS.createDirAll path.text
    return .ok ()
  catch error => return .error ⟨obstacleOf path error, path.text⟩

def writeAround (path : Path) (text : String) : IO (Except Refusal Unit) := do
  try
    IO.FS.writeFile path.text text
    return .ok ()
  catch error => return .error ⟨obstacleOf path error, path.text⟩

/-- Writes a file of the system and the directories above it. -/
def saveAround (path : Path) (text : String) : IO (Except Refusal Unit) := do
  match ← ensureAround path.parent with
  | .ok () => writeAround path text
  | refused => return refused

def systemFiles : Files IO where
  look := lookAround
  save := saveAround

def printPiece : Piece → IO Unit
  | .lines content => content.forM IO.println
  | .box title rows => do
      IO.println ("[" ++ title ++ "]")
      rows.forM fun cells => IO.println ("  " ++ "  ".intercalate cells)

def report (outcome : Outcome) : IO Unit := do
  outcome.pieces.forM printPiece
  outcome.events.forM fun event => IO.eprintln event.message
  if outcome.exit = CommandLine.usageCode then
    IO.eprintln "static-schema: faulty arguments, try --help"

end SchemaSignature

def main (arguments : List String) : IO UInt32 := do
  let outcome ← SchemaSignature.CommandLine.run SchemaSignature.systemFiles arguments
  SchemaSignature.report outcome
  return outcome.exit.toUInt32
