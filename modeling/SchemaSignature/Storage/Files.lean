import SchemaSignature.Storage.Obstacle
import SchemaSignature.Storage.Path

/-!
What a program needs from the files around it.
-/

namespace SchemaSignature.Storage

inductive Entry where
  | directory
  | file (bytes : List Nat)
  deriving DecidableEq, Repr

/-- Access to files. `look` tells what is at a path; `save` writes a text to a file, creating the
directories above it. -/
structure Files (effect : Type → Type) where
  look : Path → effect (Except Obstacle Entry)
  save : (path : Path) → (text : String) → effect (Except Refusal Unit)

end SchemaSignature.Storage
