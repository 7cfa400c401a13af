import SchemaSignature.Document.Form
import SchemaSignature.Naming.Traced
import SchemaSignature.Signature.Construction
import SchemaSignature.Text.Identifier
import SchemaSignature.Json.Encoding

/-!
Drafts of schemas: their signature nodes before any reference has a name. References become lazy
leaves with the reference as key, so a draft never follows them; it looks only at the subschemas of
a schema, which are nested less deeply.
-/

namespace SchemaSignature

/-- The name of a field: a property name that is an identifier stands as it is, any other one as a
JSON string. -/
def fieldName (property : String) : String :=
  if Text.isIdentifier property then property else Json.quote property

namespace Form

/-- A node that waits to be rendered, with references as keys. -/
abbrev Draft : Type := Node String

def draftAll (draft : Json → Traced Draft) : List Json → Traced (List Draft)
  | [] => pure []
  | member :: rest => do
      let first ← draft member
      let others ← draftAll draft rest
      pure (first :: others)

/-- The fields of an object, required and optional ones apart, in the order of the properties. -/
structure Fields where
  required : List (String × Draft) := []
  optional : List (String × Draft) := []

/-- Adds the node of a property, under the name of its field. -/
def Fields.add (collected : Fields) (property : Property) (node : Draft) : Fields :=
  let name := fieldName property.name
  if property.required then
    { collected with required := Table.set (· == ·) name node collected.required }
  else { collected with optional := Table.set (· == ·) name node collected.optional }

/-- Drafts the properties of an object in order and adds them to the given fields. -/
def draftProperties (draft : Json → Traced Draft) (collected : Fields) :
    List Property → Traced Fields
  | [] => pure collected
  | property :: rest => do
      let node ← draft property.schema
      draftProperties draft (collected.add property node) rest

def fieldsNode (presence : Presence) (entries : List (String × Draft)) : Except Failure Draft :=
  Construction.fields presence (entries.map fun entry => (.str entry.1, .node entry.2))

/-- The parts of an object: its required fields, unless there are only optional ones; its optional
fields, if any; and a record of its other members, if they have a schema. -/
def objectParts (fields : Fields) (additional : Option Draft) : Except Failure (List Draft) := do
  let required ←
    if !fields.required.isEmpty || fields.optional.isEmpty then
      (fieldsNode .required fields.required).map ([·])
    else pure []
  let optional ←
    if fields.optional.isEmpty then pure []
    else (fieldsNode .optional fields.optional).map ([·])
  let others ←
    match additional with
    | some node => (Construction.container .record (.node node)).map ([·])
    | none => pure []
  pure (required ++ optional ++ others)

/-- The node of several parts: a single part is its own node. -/
def intersectParts (parts : List Draft) : Except Failure Draft :=
  match parts with
  | [part] => .ok part
  | parts => Construction.intersection (parts.map .node)

/-- The node of listed values: null alone, the values alone, or their union with null. -/
def valuesNode (literals : List Json) (nullable : Bool) : Except Failure Draft :=
  if literals.isEmpty then .ok (.primitive .null)
  else do
    let listed ← Construction.literals literals
    if nullable then Construction.union [.node listed, .node (.primitive .null)] else pure listed

/-- The node of a discriminated choice. Members whose tags are equal make it a plain union. -/
def discriminatedNode (tag : Json) (tags : List Json) (members : List Draft) : Traced Draft := do
  let table ← Traced.ofExcept (keyedTable (tags.zip members))
  if table.length != members.length then
    Traced.log (.equalTags tag tags)
    Traced.ofExcept (Construction.union (members.map .node))
  else Traced.ofExcept (Construction.sum tag (table.map fun entry => .node entry.2))

/-- The node of an object, given the draft of the schema of its other members. -/
def objectNode (draft : Json → Traced Draft) (properties : Except Failure (Option (List Property)))
    (others : Option Draft) : Traced Draft := do
  match ← Traced.ofExcept properties with
  | none =>
      match others with
      | some node => Traced.ofExcept (Construction.container .record (.node node))
      | none => pure (.primitive .unknownRecord)
  | some listed => do
      let fields ← draftProperties draft {} listed
      Traced.ofExcept (objectParts fields others >>= intersectParts)

mutual

/-- The node of a form, given how its subschemas are drafted. -/
def assemble (draft : Json → Traced Draft) : Form → Traced Draft
  | .rejected failure => Traced.ofExcept (.error failure)
  | .primitive kind => pure (.primitive kind)
  | .reference target => do
      Traced.log (.resolved target)
      pure (.lazy target)
  | .choice members => do
      let nodes ← draftAll draft members
      Traced.ofExcept (Construction.union (nodes.map .node))
  | .discriminated tag tags members => do
      discriminatedNode tag tags (← draftAll draft members)
  | .intersection members => do
      let nodes ← draftAll draft members
      Traced.ofExcept (intersectParts nodes)
  | .values literals nullable => Traced.ofExcept (valuesNode literals nullable)
  | .alternatives forms => do
      let nodes ← assembleAll draft forms
      Traced.ofExcept (Construction.union (nodes.map .node))
  | .object additional properties =>
      match additional with
      | some schema => do
          let others ← draft schema
          objectNode draft properties (some others)
      | none => objectNode draft properties none
  | .array item => do
      let node ← draft item
      Traced.ofExcept (Construction.container .array (.node node))
  | .tuple members => do
      let nodes ← draftAll draft members
      Traced.ofExcept (Construction.tuple (nodes.map .node))

def assembleAll (draft : Json → Traced Draft) : List Form → Traced (List Draft)
  | [] => pure []
  | form :: rest => do
      let first ← assemble draft form
      let others ← assembleAll draft rest
      pure (first :: others)

end

end Form

/-- The node of a schema in a document, for schemas of less than the given height. -/
def Json.draftWithin (root : Json) : Nat → Json → Traced (Node String)
  | 0, _ => Traced.ofExcept (.error .outOfFuel)
  | bound + 1, schema => (root.form schema).assemble (draftWithin root bound)

/-- The node of a schema in a document. Subschemas are nested less deeply than the schema, so the
bound on their height never takes effect. -/
def Json.draft (root schema : Json) : Traced (Node String) :=
  root.draftWithin (schema.height + 1) schema

end SchemaSignature
