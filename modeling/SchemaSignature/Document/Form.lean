import SchemaSignature.Document.Pointer
import SchemaSignature.Json.Comparison
import SchemaSignature.Signature.Node
import SchemaSignature.Table

/-!
The form of a schema: which keyword decides what it describes, and the subschemas that take part.
Keywords are looked up in a fixed order: `$ref`, `anyOf`, `oneOf`, `allOf`, `const`, `enum`, `type`,
and without a type the keywords of objects and arrays. A faulty keyword gives a form that is
rejected when it is drafted, not before.
-/

namespace SchemaSignature

/-- A property of an object: its name, its subschema, and whether it is required. -/
structure Property where
  name : String
  schema : Json
  required : Bool
  deriving Repr

inductive Form where
  | rejected (failure : Failure)
  | primitive (kind : Primitive)
  | reference (target : String)
  | choice (members : List Json)
  /-- One of several subschemas, told apart by the value of a field. -/
  | discriminated (tag : Json) (tags : List Json) (members : List Json)
  | intersection (members : List Json)
  /-- Listed values, and whether null is one of them. -/
  | values (literals : List Json) (nullable : Bool)
  | alternatives (forms : List Form)
  /-- An object: the subschema of its other members, and its properties if it lists any. The
  subschema comes first, so its faults precede those of the properties. -/
  | object (additional : Option Json) (properties : Except Failure (Option (List Property)))
  | array (item : Json)
  | tuple (members : List Json)

namespace Form

/-- The elements of a value that a keyword iterates over. -/
def elements (value : Json) : Except Failure (List Json) :=
  match value.elements? with
  | some items => .ok items
  | none => .error (.misuse (.notIterable value.kind))

/-- The members of a keyword that must list at least one; `missing` is the failure otherwise. -/
def nonEmptyElements (missing : Failure) (value : Json) : Except Failure (List Json) :=
  if value.isTruthy then elements value else .error missing

/-- Listed values: arrays and objects are refused, and null is set apart. -/
def ofValues (listed : List Json) : Form :=
  match listed.find? fun value => !value.isKey with
  | some value => .rejected (.unsupportedEnumValue value)
  | none =>
      let isNull (value : Json) : Bool := value.kind == .null
      .values (listed.filter fun value => !isNull value) (listed.any isNull)

def ofEnum (value : Json) : Form :=
  match nonEmptyElements .noValues value with
  | .ok listed => ofValues listed
  | .error failure => .rejected failure

def ofChoice (value : Json) : Form :=
  match nonEmptyElements .noChoices value with
  | .ok members => .choice members
  | .error failure => .rejected failure

def ofIntersection (value : Json) : Form :=
  match nonEmptyElements .noParts value with
  | .ok members => .intersection members
  | .error failure => .rejected failure

def ofReference (root pointer : Json) : Form :=
  if !pointer.isKey then .rejected (.misuse (.notAKey pointer.kind))
  else
    match pointer with
    | .str target =>
        match Pointer.resolve root target with
        | .ok _ => .reference target
        | .error failure => .rejected failure
    | other => .rejected (.notLocal other)

/-! ## Discriminated choices -/

/-- The tag that each reference of a discriminator's mapping stands for. A reference that is mapped
twice has the later tag. -/
def mappedTags (discriminator : List (String × Json)) :
    Except Failure (List (Json × Json)) :=
  match Json.member? discriminator "mapping" with
  | none => .ok []
  | some (.obj mapping) =>
      mapping.foldlM
        (fun table entry =>
          if entry.2.isKey then .ok (Table.set Json.equal entry.2 (.str entry.1) table)
          else .error (.misuse (.notAKey entry.2.kind)))
        []
  | some _ => .error (.misuse .missingOperation)

/-- The value of the discriminant that its subschema declares, by `const` or by the first value of
`enum`. -/
def declaredValue (discriminant : List (String × Json)) : Except Failure (Option Json) :=
  match Json.member? discriminant "const" with
  | some value => .ok (some value)
  | none =>
      match Json.member? discriminant "enum" with
      | none => .ok none
      | some listed =>
          if !listed.isTruthy then .ok none
          else
            match listed with
            | .arr items => .ok items.head?
            | .str text => .ok (text.toList.head?.map fun c => .str c.toString)
            | .obj _ => .error (.misuse .missingPosition)
            | other => .error (.misuse (.notIndexed other.kind))

/-- The tag that a subschema declares for itself: the value of the discriminant, if it is a text, a
number or a truth value. -/
def declaredTag (tag : Json) (schema : List (String × Json)) : Except Failure (Option Json) :=
  match Json.member? schema "properties" with
  | some (.obj properties) =>
      if !tag.isKey then .error (.misuse (.notAKey tag.kind))
      else
        let discriminant := match tag with
          | .str name => Json.member? properties name
          | _ => none
        match discriminant with
        | some (.obj keywords) => do
            let value ← declaredValue keywords
            pure (value.filter fun value => (Literal.ofJson? value).isSome)
        | _ => .ok none
  | _ => .ok none

/-- The tag that a member of a discriminated choice declares: the one mapped to its reference, or
else the one that the schema or the target of its reference declares. -/
def memberTag (root tag : Json) (tagOf : List (Json × Json)) (member : Json) :
    Except Failure (Option Json) :=
  match member with
  | .obj schema =>
      match Json.member? schema "$ref" with
      | none => declaredTag tag schema
      | some pointer =>
          if !pointer.isKey then .error (.misuse (.notAKey pointer.kind))
          else
            match Table.find? (Json.equal · pointer) tagOf with
            | some mapped => .ok (some mapped)
            | none => do
                match ← Pointer.resolveValue root pointer with
                | .obj target => declaredTag tag target
                | _ => pure none
  | _ => .ok none

/-- The tags of the members from the given place on. A member that declares none has its place as
tag. -/
def memberTags (root tag : Json) (tagOf : List (Json × Json)) (place : Nat) :
    List Json → Except Failure (List Json)
  | [] => .ok []
  | member :: rest => do
      let declared ← memberTag root tag tagOf member
      let others ← memberTags root tag tagOf (place + 1) rest
      pure (declared.getD (.int place) :: others)

/-- The form of the keyword `oneOf` beside a discriminator. -/
def ofDiscriminated
    (root tag : Json) (discriminator : List (String × Json)) (value : Json) : Form :=
  let form : Except Failure Form := do
    if !value.isTruthy then throw .noAlternatives
    let tagOf ← mappedTags discriminator
    let members ← elements value
    let tags ← memberTags root tag tagOf 0 members
    pure (.discriminated tag tags members)
  match form with
  | .ok form => form
  | .error failure => .rejected failure

/-! ## Types -/

/-- The names that the keyword `required` lists. Every listed value must be able to be a key. -/
def requiredNames (schema : List (String × Json)) : Except Failure (List String) :=
  match Json.member? schema "required" with
  | none => .ok []
  | some value => do
      let listed ← elements value
      match listed.find? fun name => !name.isKey with
      | some name => throw (.misuse (.notAKey name.kind))
      | none =>
          pure <| listed.filterMap fun name =>
            match name with
            | .str text => some text
            | _ => none

/-- The properties of an object, each with whether it is required. -/
def properties (schema : List (String × Json)) : Except Failure (Option (List Property)) :=
  match Json.member? schema "properties" with
  | none | some .null => .ok none
  | some value => do
      let required ← requiredNames schema
      match value with
      | .obj members =>
          pure <| some <| members.map fun member => ⟨member.1, member.2, required.contains member.1⟩
      | _ => throw (.misuse .missingOperation)

/-- The form of an object. Only an object-valued `additionalProperties` is a subschema. -/
def ofObject (schema : List (String × Json)) : Form :=
  let additional := match Json.member? schema "additionalProperties" with
    | some (.obj members) => some (.obj members)
    | _ => none
  .object additional (properties schema)

/-- The form of a tuple whose members a keyword lists. -/
def ofTuple (value : Json) : Form :=
  match elements value with
  | .ok members => .tuple members
  | .error failure => .rejected failure

/-- The form of an array: a tuple if `prefixItems`, or else `items`, lists subschemas. -/
def ofArray (schema : List (String × Json)) : Form :=
  match Json.member? schema "prefixItems", Json.member? schema "items" with
  | none, some (.arr members) | some .null, some (.arr members) => .tuple members
  | none, items | some .null, items =>
      match items with
      | none | some .null | some (.bool true) => .primitive .unknownArray
      | some item => .array item
  | some members, _ => ofTuple members

/-- The form of a schema without a type: an object or an array if it has keywords of one. -/
def inferred (schema : List (String × Json)) : Form :=
  if Json.hasMember schema "properties" || Json.hasMember schema "additionalProperties" then
    ofObject schema
  else if Json.hasMember schema "items" || Json.hasMember schema "prefixItems" then
    ofArray schema
  else .primitive .unknown

/-- The form of a schema of the type with the given name. -/
def ofTypeName (schema : List (String × Json)) (name : String) : Form :=
  match name with
  | "object" => ofObject schema
  | "array" => ofArray schema
  | "string" => .primitive .string
  | "integer" | "number" => .primitive .number
  | "boolean" => .primitive .boolean
  | "null" => .primitive .null
  | _ => .rejected (.unsupportedType (.str name))

mutual

/-- The form of a schema, by the value of its type. -/
def ofType (schema : List (String × Json)) : Json → Form
  | .null => inferred schema
  | .str name => ofTypeName schema name
  | .arr [] => .rejected .noTypes
  | .arr (first :: rest) => .alternatives (ofType schema first :: ofTypes schema rest)
  | other => .rejected (.unsupportedType other)

/-- The forms of a schema for each of several types. -/
def ofTypes (schema : List (String × Json)) : List Json → List Form
  | [] => []
  | type :: rest => ofType schema type :: ofTypes schema rest

end

def ofKeywords (root : Json) (schema : List (String × Json)) : Form :=
  match Json.member? schema "$ref" with
  | some pointer => ofReference root pointer
  | none =>
  match Json.member? schema "anyOf" with
  | some members => ofChoice members
  | none =>
  match Json.member? schema "oneOf" with
  | some members =>
      match Json.member? schema "discriminator" with
      | some (.obj discriminator) =>
          match Json.member? discriminator "propertyName" with
          | some tag => ofDiscriminated root tag discriminator members
          | none => ofChoice members
      | _ => ofChoice members
  | none =>
  match Json.member? schema "allOf" with
  | some members => ofIntersection members
  | none =>
  match Json.member? schema "const" with
  | some value => ofValues [value]
  | none =>
  match Json.member? schema "enum" with
  | some listed => ofEnum listed
  | none => ofType schema ((Json.member? schema "type").getD .null)

end Form

def Json.form (root : Json) : Json → Form
  | .bool true => .primitive .unknown
  | .bool false => .primitive .never
  | .obj schema => Form.ofKeywords root schema
  | other => .rejected (.notASchema other.kind)

end SchemaSignature
