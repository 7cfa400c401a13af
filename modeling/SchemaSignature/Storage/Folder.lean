import SchemaSignature.Storage.Files

/-!
A working directory as a value. Nothing is known of what lies outside of it: there are no files to
be read, but everything can be created there.
-/

namespace SchemaSignature.Storage

/-- The files and directories inside a working directory, by their steps from there. -/
structure Folder where
  files : List (List String × List Nat)
  directories : List (List String) := []
  deriving Repr

/-- A directory that a walk along the steps of a path has reached: one inside the working directory,
one above it, or one that may or may not exist. -/
inductive Place where
  | inside (steps : List String)
  | above
  | unknown
  deriving DecidableEq, Repr

/-- Where a walk stands: at a directory, or at a file inside the working directory. -/
inductive Stop where
  | directory (place : Place)
  | file (steps : List String)
  deriving DecidableEq, Repr

def Place.up : Place → Place
  | .inside [] | .above => .above
  | .inside steps => .inside steps.dropLast
  | .unknown => .unknown

namespace Folder

def hasDirectory (folder : Folder) (steps : List String) : Bool :=
  steps.isEmpty || folder.directories.contains steps ||
    folder.files.any fun entry => steps.isPrefixOf entry.1 && steps != entry.1

def hasFile (folder : Folder) (steps : List String) : Bool :=
  folder.files.any fun entry => entry.1 == steps

/-- One step of a walk. No step leads on from a file. -/
def step (folder : Folder) (stop : Stop) (name : String) : Except Obstacle Stop :=
  match stop with
  | .file _ => .error .notADirectory
  | .directory place =>
      if name == Path.up then .ok (.directory place.up)
      else if Path.isLongStep name then .error .nameTooLong
      else
        match place with
        | .above | .unknown => .ok (.directory .unknown)
        | .inside steps =>
            let inner := steps ++ [name]
            if folder.hasFile inner then .ok (.file inner)
            else if folder.hasDirectory inner then .ok (.directory (.inside inner))
            else .error .missing

def start (path : Path) : Place :=
  if path.isAbsolute then .above else .inside []

def walk (folder : Folder) (path : Path) : Except Obstacle Stop :=
  if path.hasNull then .error .unspeakable
  else if path.isLong then .error .nameTooLong
  else path.steps.foldlM folder.step (.directory (start path))

def look (folder : Folder) (path : Path) : Except Obstacle Entry := do
  match ← folder.walk path with
  | .directory .unknown => throw .missing
  | .directory _ => return .directory
  | .file steps =>
      match folder.files.lookup steps with
      | some bytes => return .file bytes
      | none => throw .missing

/-- One step of a walk that creates a missing directory. -/
def enter (folder : Folder) (place : Place) (name : String) : Except Obstacle (Folder × Place) :=
  match folder.step (.directory place) name with
  | .ok (.directory next) => .ok (folder, next)
  | .ok (.file _) => .error .alreadyThere
  | .error .missing =>
      match place with
      | .inside steps =>
          let inner := steps ++ [name]
          .ok ({ folder with directories := inner :: folder.directories }, .inside inner)
      | _ => .error .missing
  | .error obstacle => .error obstacle

/-- Goes on from a place along steps, creating the missing directories. What has been created stays
if a later step is refused, and the refusal names the path up to that step. -/
def enterAll (done : Path) : Folder → Place → List String → Folder × Except Refusal Unit
  | folder, _, [] => (folder, .ok ())
  | folder, place, name :: rest =>
      let reached : Path := { done with steps := done.steps ++ [name] }
      match folder.enter place name with
      | .ok (extended, next) => enterAll reached extended next rest
      | .error obstacle => (folder, .error ⟨obstacle, reached.text⟩)

/-- Creates the directory at a path and the missing ones above it. Only a missing directory is made
up for: any other obstacle on the way refuses the whole path. -/
def ensureDirectory (folder : Folder) (path : Path) : Folder × Except Refusal Unit :=
  match folder.walk path with
  | .ok (.directory _) => (folder, .ok ())
  | .ok (.file _) => (folder, .error ⟨.alreadyThere, path.text⟩)
  | .error .missing => enterAll { path with steps := [] } folder (start path) path.steps
  | .error obstacle => (folder, .error ⟨obstacle, path.text⟩)

def put (folder : Folder) (steps : List String) (bytes : List Nat) : Folder :=
  if folder.hasFile steps then
    { folder with
      files := folder.files.map fun entry => if entry.1 == steps then (steps, bytes) else entry }
  else { folder with files := folder.files ++ [(steps, bytes)] }

def bytesOf (text : String) : List Nat :=
  text.toUTF8.toList.map UInt8.toNat

/-- Writes a text to a file in a directory that is there already. -/
def write (folder : Folder) (path : Path) (text : String) : Except Obstacle Folder :=
  match folder.walk path with
  | .ok (.file steps) => .ok (folder.put steps (bytesOf text))
  | .ok (.directory .unknown) => .ok folder
  | .ok (.directory _) => .error .isADirectory
  | .error .missing => do
      match ← folder.walk path.parent, path.steps.getLast? with
      | .directory (.inside steps), some name => return folder.put (steps ++ [name]) (bytesOf text)
      | _, _ => throw .missing
  | .error obstacle => .error obstacle

/-- Writes a text to a file, creating the directories above it. These stay if the file itself cannot
be written. -/
def save (folder : Folder) (path : Path) (text : String) : Folder × Except Refusal Unit :=
  match folder.ensureDirectory path.parent with
  | (extended, .ok ()) =>
      match extended.write path text with
      | .ok written => (written, .ok ())
      | .error obstacle => (extended, .error ⟨obstacle, path.text⟩)
  | refused => refused

def texts (folder : Folder) : List (String × List Nat) :=
  folder.files.map fun entry => ("/".intercalate entry.1, entry.2)

/-- Access to the files of a folder that is kept as state. -/
def access : Files (StateM Folder) where
  look path := do
    return (← get).look path
  save path text := do
    let (after, outcome) := (← get).save path text
    set after
    return outcome

end Folder

end SchemaSignature.Storage
