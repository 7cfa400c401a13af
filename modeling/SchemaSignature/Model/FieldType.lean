import SchemaSignature.Json.Merge

/-!
Types of the fields of record models, and the schemas that describe them. Nested unions are one
union: alternatives that have the same schema count once, and null comes last.
-/

namespace SchemaSignature.Model

inductive FieldType where
  | text
  | integer
  | number
  | boolean
  | null
  | any
  | list
  | table
  | listOf (item : FieldType)
  | tableOf (value : FieldType)
  | optional (value : FieldType)
  | tuple (members : List FieldType)
  | union (members : List FieldType)
  | literal (values : List Json)
  | model (name : String)
  deriving Inhabited, Repr

def referenceTo (name : String) : Json :=
  .obj [("$ref", .str ("#/$defs/" ++ name))]

def typed (name : String) (others : List (String × Json)) : Json :=
  .obj (("type", .str name) :: others)

def withoutRepetitions (same : Json → Json → Bool) : List Json → List Json :=
  List.foldl (fun kept value => if kept.any (same value) then kept else kept ++ [value]) []

def literalSchema (values : List Json) : Json :=
  match withoutRepetitions Json.equalOfKind values with
  | [value] => .obj [("const", value)]
  | listed => .obj [("enum", .arr listed)]

/-- The alternatives of a type: the schemas of those that are not null, and whether null is one. -/
structure Alternatives where
  schemas : List Json
  nullable : Bool

def Alternatives.schema (alternatives : Alternatives) : Json :=
  let null := if alternatives.nullable then [typed "null" []] else []
  match withoutRepetitions Json.strictEqual (alternatives.schemas ++ null) with
  | [schema] => schema
  | schemas => .obj [("anyOf", .arr schemas)]

def Alternatives.only (schema : Json) : Alternatives :=
  ⟨[schema], false⟩

/-- A schema in a place where a schema without keywords is written as true. -/
def withTrue : Json → Json
  | .obj [] => .bool true
  | schema => schema

mutual

def FieldType.alternatives : FieldType → Alternatives
  | .text => .only (typed "string" [])
  | .integer => .only (typed "integer" [])
  | .number => .only (typed "number" [])
  | .boolean => .only (typed "boolean" [])
  | .null => ⟨[], true⟩
  | .any => .only (.obj [])
  | .list => .only (typed "array" [("items", .obj [])])
  | .table => .only (typed "object" [("additionalProperties", .bool true)])
  | .listOf item => .only (typed "array" [("items", item.alternatives.schema)])
  | .tableOf value =>
      .only (typed "object" [("additionalProperties", withTrue value.alternatives.schema)])
  | .optional value => ⟨value.alternatives.schemas, true⟩
  | .tuple [] => .only (typed "array" [])
  | .tuple (first :: rest) =>
      .only <| typed "array"
        [("prefixItems", .arr (first.alternatives.schema :: memberSchemas rest))]
  | .union members => unionAlternatives members
  | .literal values => .only (literalSchema values)
  | .model name => .only (referenceTo name)

def unionAlternatives : List FieldType → Alternatives
  | [] => ⟨[], false⟩
  | member :: rest =>
      let first := member.alternatives
      let others := unionAlternatives rest
      ⟨first.schemas ++ others.schemas, first.nullable || others.nullable⟩

def memberSchemas : List FieldType → List Json
  | [] => []
  | member :: rest => member.alternatives.schema :: memberSchemas rest

end

def FieldType.schema (fieldType : FieldType) : Json :=
  fieldType.alternatives.schema

mutual

def FieldType.models : FieldType → List String
  | .listOf item => item.models
  | .tableOf value => value.models
  | .optional value => value.models
  | .tuple members => modelsOfAll members
  | .union members => modelsOfAll members
  | .model name => [name]
  | _ => []

def modelsOfAll : List FieldType → List String
  | [] => []
  | fieldType :: rest => fieldType.models ++ modelsOfAll rest

end

end SchemaSignature.Model
