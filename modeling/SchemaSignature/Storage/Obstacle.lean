import SchemaSignature.Json.Display

/-!
What stands in the way of using a path, and the sentences that report it.
-/

namespace SchemaSignature.Storage

inductive Obstacle where
  /-- There is nothing at the path, or at a part of it. -/
  | missing
  /-- Something is in the place of a new directory. -/
  | alreadyThere
  | notADirectory
  | isADirectory
  /-- A name, or the path as a whole, is too long. -/
  | nameTooLong
  /-- The path holds a character that no path can hold. -/
  | unspeakable
  deriving DecidableEq, Repr

namespace Obstacle

/-- The number that systems give to an obstacle, and the phrase for it. -/
def notice? : Obstacle → Option (Nat × String)
  | .missing => some (2, "No such file or directory")
  | .alreadyThere => some (17, "File exists")
  | .notADirectory => some (20, "Not a directory")
  | .isADirectory => some (21, "Is a directory")
  | .nameTooLong => some (36, "File name too long")
  | .unspeakable => none

end Obstacle

/-- An operation on a path that was refused: why, and the path as a text. -/
structure Refusal where
  obstacle : Obstacle
  path : String
  deriving DecidableEq, Repr

def Refusal.message (refusal : Refusal) : String :=
  match refusal.obstacle.notice? with
  | some (number, phrase) =>
      "[Errno " ++ toString number ++ "] " ++ phrase ++ ": " ++ Json.displayText refusal.path
  | none => "embedded null byte"

end SchemaSignature.Storage
