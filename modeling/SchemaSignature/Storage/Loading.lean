import SchemaSignature.Failure
import SchemaSignature.Storage.Files

/-!
Reading documents from files. A file is UTF-8 text, every spelling of a line end counts as one
character, and the text is JSON.
-/

namespace SchemaSignature.Storage

def readText (text : List Char) : Except Failure Json :=
  match Json.decode (String.ofList (Text.normalizeLineEnds text)) with
  | .ok value => .ok value
  | .error (.malformed problem position) => .error (.invalidJson problem position)
  | .error (.tooManyDigits count) => .error (.misuse (.tooManyDigits count))

/-- The value written by the bytes of a file. -/
def readBytes (bytes : List Nat) : Except Failure Json :=
  match Text.decodeUtf8 bytes with
  | .ok text => readText text.toList
  | .error error => .error (.misuse (.notUtf8 error))

/-- The document in what was found at a path. A path that leads nowhere holds no file; one that is too
long cannot even be looked at. -/
def readEntry (path : Path) : Except Obstacle Entry → Except Failure Json
  | .ok (.file bytes) => readBytes bytes
  | .ok .directory => .error (.misuse (.refused ⟨.isADirectory, path.text⟩))
  | .error .nameTooLong => .error (.misuse (.refused ⟨.nameTooLong, path.text⟩))
  | .error _ => .error (.fileNotFound path.text)

end SchemaSignature.Storage
