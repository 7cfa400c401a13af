import SchemaSignature.Text.Pieces

/-!
Paths of files. A path is a root, which is empty for a path that starts in the working directory,
and the steps from there. Empty steps and steps to the same directory are left out; a step up is
kept, since what it leads to depends on the step before.
-/

namespace SchemaSignature.Storage

structure Path where
  root : String
  steps : List String
  deriving DecidableEq, Repr

namespace Path

def here : String := "."

def up : String := ".."

def isIdle (step : String) : Bool :=
  step.isEmpty || step == here

/-- The root that a number of leading slashes stands for: two slashes are a root of their own. -/
def rootOf : Nat → String
  | 0 => ""
  | 2 => "//"
  | _ => "/"

def ofText (text : String) : Path where
  root := rootOf (text.toList.takeWhile (· == '/')).length
  steps := (Text.piecesOf '/' text).filter fun step => !isIdle step

/-- The text of a path. A path without root and steps is written as the idle step. -/
def text (path : Path) : String :=
  if path.root.isEmpty && path.steps.isEmpty then here
  else path.root ++ "/".intercalate path.steps

/-- A path that does not start in the working directory. -/
def isAbsolute (path : Path) : Bool :=
  !path.root.isEmpty

def parent (path : Path) : Path :=
  { path with steps := path.steps.dropLast }

def stepLimit : Nat := 255

def isLongStep (step : String) : Bool :=
  stepLimit < step.utf8ByteSize

/-- The greatest number of bytes in the text of a path. -/
def textLimit : Nat := 4095

/-- The text of a path has more bytes than are allowed. -/
def isLong (path : Path) : Bool :=
  textLimit < path.text.utf8ByteSize

/-- A path holds a null character, which no system takes. -/
def hasNull (path : Path) : Bool :=
  path.text.toList.contains '\x00'

end Path

end SchemaSignature.Storage
