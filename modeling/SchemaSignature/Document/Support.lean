import SchemaSignature.Document.Form

/-!
The supported subset of JSON Schema. The check walks through the subschemas of a schema, the ones of
its definitions included, and follows references only to see that they point somewhere.
-/

namespace SchemaSignature.Document

def supportedTypes : List String :=
  ["object", "array", "string", "integer", "number", "boolean", "null"]

def unsupportedKeywords : List String :=
  ["not", "if", "then", "else"]

def checkKeywords (schema : List (String × Json)) : Except Failure Unit :=
  match unsupportedKeywords.find? (Json.hasMember schema) with
  | some keyword => .error (.unsupportedKeyword keyword)
  | none => .ok ()

def checkReference (root : Json) (schema : List (String × Json)) : Except Failure Unit :=
  match Json.member? schema "$ref" with
  | some pointer => (Pointer.resolveValue root pointer).map fun _ => ()
  | none => .ok ()

def isSupportedType : Json → Bool
  | .str name => supportedTypes.contains name
  | _ => false

def checkType (schema : List (String × Json)) : Except Failure Unit :=
  match Json.member? schema "type" with
  | none | some .null => .ok ()
  | some (.str name) =>
      if supportedTypes.contains name then .ok () else .error (.invalidType name)
  | some (.arr types) =>
      match types.find? fun type => !isSupportedType type with
      | some type => .error (.invalidListedType type)
      | none => .ok ()
  | some other => .error (.typeNotNameOrList other.kind)

def checkEnum (schema : List (String × Json)) : Except Failure Unit :=
  match Json.member? schema "enum" with
  | some listed =>
      match Form.ofEnum listed with
      | .rejected failure => .error failure
      | _ => .ok ()
  | none => .ok ()

/-- The subschemas under a keyword whose value is an object of schemas. -/
def namedSubschemas (schema : List (String × Json)) (keyword : String) :
    Except Failure (List Json) :=
  match Json.member? schema keyword with
  | none => .ok []
  | some (.obj members) => .ok (members.map (·.2))
  | some _ => .error (.misuse .missingOperation)

def itemSubschemas (schema : List (String × Json)) : List Json :=
  match Json.member? schema "items" with
  | none | some .null => []
  | some (.arr members) => members
  | some item => [item]

/-- The subschema under `additionalProperties`, if its value is an object. -/
def additionalSubschemas (schema : List (String × Json)) : List Json :=
  match Json.member? schema "additionalProperties" with
  | some (.obj members) => [.obj members]
  | _ => []

/-- The subschemas under a keyword whose value lists schemas. -/
def listedSubschemas (schema : List (String × Json)) (keyword : String) :
    Except Failure (List Json) :=
  match Json.member? schema keyword with
  | none => .ok []
  | some listed => Form.elements listed

/-- The groups of subschemas in the order in which they are checked. A keyword of the wrong kind is
a failure when its turn comes. -/
def subschemaGroups (schema : List (String × Json)) : List (Except Failure (List Json)) :=
  ["properties", "definitions", "$defs"].map (namedSubschemas schema) ++
    [.ok (itemSubschemas schema), .ok (additionalSubschemas schema)] ++
    ["prefixItems", "anyOf", "oneOf", "allOf"].map (listedSubschemas schema)

/-- What is checked of an object of keywords before its subschemas. -/
def checkOwnKeywords (root : Json) (schema : List (String × Json)) : Except Failure Unit := do
  checkKeywords schema
  checkReference root schema
  checkType schema
  checkEnum schema

/-- What is checked of a schema, given how its subschemas are checked. -/
def checkSchema (root : Json) (inner : Json → Except Failure Unit) : Json → Except Failure Unit
  | .bool _ => .ok ()
  | .obj keywords => do
      checkOwnKeywords root keywords
      (subschemaGroups keywords).forM fun group => do
        (← group).forM inner
  | other => .error (.notASchema other.kind)

def checkSupportedWithin (root : Json) : Nat → Json → Except Failure Unit
  | 0, _ => .error .outOfFuel
  | bound + 1, schema => checkSchema root (checkSupportedWithin root bound) schema

/-- Checks that a schema and its subschemas are in the supported subset. Subschemas are nested less
deeply than the schema, so the bound on their height never takes effect. -/
def checkSupported (root schema : Json) : Except Failure Unit :=
  checkSupportedWithin root (schema.height + 1) schema

end SchemaSignature.Document
