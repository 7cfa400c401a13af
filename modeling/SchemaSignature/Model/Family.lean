import SchemaSignature.Document.Session
import SchemaSignature.Model.FieldType

/-!
Families of record models and the schema document of one of them. The document lists the models
under `$defs`. A root that is not reachable from itself stands in the document itself, any other one
is referred to.
-/

namespace SchemaSignature.Model

/-- A field of a model. A field with a default is not required. -/
structure Field where
  name : String
  fieldType : FieldType
  required : Bool
  deriving Repr

structure RecordModel where
  name : String
  fields : List Field
  deriving Repr

/-- The models that the fields of a model refer to. -/
def RecordModel.references (model : RecordModel) : List String :=
  model.fields.flatMap fun field => field.fieldType.models

def RecordModel.keywords (model : RecordModel) : List (String × Json) :=
  let required := model.fields.filter Field.required
  [("properties", .obj (model.fields.map fun field => (field.name, field.fieldType.schema))),
   ("type", .str "object")] ++
    if required.isEmpty then []
    else [("required", .arr (required.map fun field => .str field.name))]

def find? (family : List RecordModel) (name : String) : Option RecordModel :=
  family.find? fun model => model.name == name

/-- The names that the models with the given names refer to. -/
def referencesOf (family : List RecordModel) (names : List String) : List String :=
  names.flatMap fun name => (find? family name).elim [] RecordModel.references

/-- The names reached from the given ones in at most `steps` further steps. -/
def reach (family : List RecordModel) : Nat → List String → List String
  | 0, names => names
  | steps + 1, names => reach family steps (names ++ referencesOf family names).eraseDups

/-- A model is reachable from itself through at least one field. -/
def isRecursive (family : List RecordModel) (model : RecordModel) : Bool :=
  (reach family family.length model.references.eraseDups).contains model.name

def definitions (family : List RecordModel) : Json :=
  .obj (family.map fun model => (model.name, .obj model.keywords))

/-- The schema document of a model in its family. -/
def document (family : List RecordModel) (root : RecordModel) : Json :=
  if isRecursive family root then
    .obj [("$defs", definitions family), ("$ref", .str ("#/$defs/" ++ root.name))]
  else
    .obj <|
      ("$defs", definitions (family.filter fun model => model.name != root.name)) ::
        root.keywords

/-- Renders a model of a family twice with a fresh namer. -/
def session (family : List RecordModel) (root : String) : Except Failure Document.Session :=
  match find? family root with
  | some model => .ok (Document.session (document family model) Namer.standard true 2)
  | none => .error .undefined

end SchemaSignature.Model
