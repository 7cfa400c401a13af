import SchemaSignature.Proofs.Document.FieldNames
import SchemaSignature.Proofs.Document.Renaming
import SchemaSignature.Proofs.Json.Reordering
import SchemaSignature.Proofs.Model.FieldTypes

/-!
The document of a model. Whatever is drafted for it is the document itself, a model that the root
leads to, or a part of the schema of a field of such a model or of the root. So the references that
are met are those to the models that the root leads to, and only tuples can be faulty.
-/

namespace SchemaSignature.Model

/-! ## References to models -/

theorem pointerTo_injective : Function.Injective pointerTo := by
  intro one other same
  have sameCharacters := congrArg String.toList same
  rw [pointerTo, pointerTo, String.toList_append, String.toList_append] at sameCharacters
  exact String.toList_inj.mp (List.append_cancel_left sameCharacters)

theorem pointerTo_eq_definition {name : String} (isIdentifier : Text.isIdentifier name = true) :
    pointerTo name = Pointer.definition name := by
  have noTilde : '~' ∉ name.toList :=
    Text.not_mem_of_isIdentifier isIdentifier (by decide) (by decide)
  have noSlash : '/' ∉ name.toList :=
    Text.not_mem_of_isIdentifier isIdentifier (by decide) (by decide)
  apply String.toList_inj.mp
  rw [Pointer.definition, Pointer.escape_of_not_mem noTilde noSlash, String.toList_ofList, pointerTo,
    String.toList_append]
  rfl

/-- The reference to a model leads to the keywords of the model, if a document defines it. -/
theorem resolve_pointerTo
    {listed : List RecordModel} (distinct : (listed.map RecordModel.name).Nodup)
    {model : RecordModel} (isListed : model ∈ listed)
    (isIdentifier : Text.isIdentifier model.name = true) (rest : List (String × Json)) :
    Pointer.resolve (.obj (("$defs", definitions listed) :: rest)) (pointerTo model.name) =
      .ok (.obj model.keywords) := by
  have keyed : (Json.obj (("$defs", definitions listed) :: rest)).KeysDefinitions := by
    intro items same
    cases same
  have keysDistinct : ((listed.map fun model => (model.name, Json.obj model.keywords)).map
      Prod.fst).Nodup := by
    rw [List.map_map]
    exact distinct
  have isMember : (model.name, Json.obj model.keywords) ∈
      listed.map fun model => (model.name, Json.obj model.keywords) :=
    List.mem_map.mpr ⟨model, isListed, rfl⟩
  have found := (Json.member?_eq_some_iff keysDistinct).mpr isMember
  have defined : (Json.obj (("$defs", definitions listed) :: rest)).definition? model.name =
      some (.obj model.keywords) := found
  rw [pointerTo_eq_definition isIdentifier, Pointer.resolve_definition keyed, defined]

/-! ## The keywords of a model -/

/-- The keywords of a schema that describe an object with properties. -/
theorem form_of_object
    {root : Json} {schema members : List (String × Json)}
    (undecided : ∀ keyword ∈ ["$ref", "anyOf", "oneOf", "allOf", "const", "enum"],
      Json.member? schema keyword = none)
    (hasType : Json.member? schema "type" = some (.str "object"))
    (closed : Json.member? schema "additionalProperties" = none)
    (hasProperties : Json.member? schema "properties" = some (.obj members))
    {required : List String} (hasRequired : Form.requiredNames schema = .ok required) :
    root.form (.obj schema) = .object none
      (.ok (some (members.map fun member =>
        ⟨member.1, member.2, required.contains member.1⟩))) := by
  simp only [List.forall_mem_cons] at undecided
  obtain ⟨noReference, noAnyOf, noOneOf, noAllOf, noConstant, noEnum, _⟩ := undecided
  simp only [Json.form, Form.ofKeywords, noReference, noAnyOf, noOneOf, noAllOf, noConstant, noEnum,
    hasType, Option.getD_some, Form.ofType, Form.ofTypeName, Form.ofObject, closed, Form.properties,
    hasProperties, hasRequired]
  rfl

theorem required_keywords (model : RecordModel) :
    Json.member? model.keywords "required" = none ∨
      ∃ names : List String,
        Json.member? model.keywords "required" = some (.arr (names.map .str)) := by
  rw [RecordModel.keywords]
  split
  · exact Or.inl rfl
  · refine Or.inr ⟨(model.fields.filter Field.required).map Field.name, ?_⟩
    rw [List.map_map]
    rfl

/-- A form is that of an object whose properties have the schemas of the fields of a model. -/
def IsRecord (model : RecordModel) (form : Form) : Prop :=
  ∃ listed, form = .object none (.ok (some listed)) ∧
    listed.map Property.schema = model.fields.map fun field => field.fieldType.schema

/-- The keywords of a model describe its fields, also with definitions in front of them. -/
theorem isRecord_keywords
    (root : Json) (model : RecordModel) (front : List (String × Json))
    (onlyDefinitions : ∀ entry ∈ front, entry.1 = "$defs") :
    IsRecord model (root.form (.obj (front ++ model.keywords))) := by
  have passed {keyword : String} (different : keyword ≠ "$defs") :
      Json.member? (front ++ model.keywords) keyword = Json.member? model.keywords keyword := by
    have absent : front.lookup keyword = none := by
      rw [List.lookup_eq_none_iff]
      intro entry isEntry
      rw [onlyDefinitions entry isEntry]
      exact bne_iff_ne.mpr different
    rw [Json.member?, List.lookup_append, absent, Option.none_or]
    rfl
  obtain ⟨required, hasRequired⟩ :
      ∃ required, Form.requiredNames (front ++ model.keywords) = .ok required := by
    have isRequired := passed (show "required" ≠ "$defs" by decide)
    rcases required_keywords model with absent | ⟨names, listed⟩
    · exact ⟨[], by rw [Form.requiredNames, isRequired, absent]⟩
    · exact Form.requiredNames_of_keys (isRequired.trans listed) (Form.isKey_of_mem_texts _)
  have undecided : ∀ keyword ∈ ["$ref", "anyOf", "oneOf", "allOf", "const", "enum"],
      Json.member? (front ++ model.keywords) keyword = none := by
    simp only [List.forall_mem_cons]
    refine ⟨?_, ?_, ?_, ?_, ?_, ?_, by simp⟩ <;>
      · rw [passed (by decide), RecordModel.keywords]
        split <;> rfl
  have hasType : Json.member? (front ++ model.keywords) "type" = some (.str "object") := by
    rw [passed (by decide)]
    rfl
  have closed : Json.member? (front ++ model.keywords) "additionalProperties" = none := by
    rw [passed (by decide), RecordModel.keywords]
    split <;> rfl
  have hasProperties : Json.member? (front ++ model.keywords) "properties" =
      some (.obj (model.fields.map fun field => (field.name, field.fieldType.schema))) := by
    rw [passed (by decide)]
    rfl
  refine ⟨_, form_of_object undecided hasType closed hasProperties hasRequired, ?_⟩
  rw [List.map_map, List.map_map]
  rfl

theorem isRecord_model (root : Json) (model : RecordModel) :
    IsRecord model (root.form (.obj model.keywords)) :=
  isRecord_keywords root model [] fun _ impossible =>
    (List.not_mem_nil impossible).elim

theorem fieldSchema_of_mem
    {model : RecordModel} (wellFormed : ∀ field ∈ model.fields, field.fieldType.WellFormed)
    {schema : Json} (isSchema : schema ∈ model.fields.map fun field => field.fieldType.schema) :
    FieldSchema model.references model.tupleLengths schema := by
  obtain ⟨field, isField, rfl⟩ := List.mem_map.mp isSchema
  apply (wellFormed field isField).fieldSchema.mono
  · intro name isReference
    exact List.mem_flatMap.mpr ⟨field, isField, isReference⟩
  · intro length isLength
    exact List.mem_flatMap.mpr ⟨field, isField, isLength⟩

theorem distinctKeys_keywords
    {model : RecordModel} (fieldsDistinct : (model.fields.map Field.name).Nodup)
    (wellFormed : ∀ field ∈ model.fields, field.fieldType.WellFormed) :
    (Json.obj model.keywords).DistinctKeys := by
  have ofProperties : (Json.obj (model.fields.map fun field =>
      (field.name, field.fieldType.schema))).DistinctKeys := by
    constructor
    · rw [List.map_map]
      exact fieldsDistinct
    · apply Json.distinctKeysOfMembers
      intro member isMember
      obtain ⟨field, isField, rfl⟩ := List.mem_map.mp isMember
      exact (wellFormed field isField).fieldSchema.distinctKeys
  rw [RecordModel.keywords]
  split
  · exact ⟨by simp, ofProperties, trivial, trivial⟩
  · refine ⟨by simp, ofProperties, trivial, ?_, trivial⟩
    apply Json.distinctKeysOfItems
    intro item isItem
    obtain ⟨_, _, rfl⟩ := List.mem_map.mp isItem
    trivial

theorem distinctKeys_definitions
    {listed : List RecordModel} (distinct : (listed.map RecordModel.name).Nodup)
    (each : ∀ model ∈ listed, (Json.obj model.keywords).DistinctKeys) :
    (definitions listed).DistinctKeys := by
  constructor
  · rw [List.map_map]
    exact distinct
  · apply Json.distinctKeysOfMembers
    intro member isMember
    obtain ⟨model, isListed, rfl⟩ := List.mem_map.mp isMember
    exact each model isListed

/-! ## The document -/

section Documents

variable {family : List RecordModel} (wellFormed : WellFormed family) {root : RecordModel}
  (isRoot : root ∈ family)

include wellFormed isRoot

/-- All models that the root leads to are defined in its document. -/
theorem exists_definitions :
    ∃ listed rest, document family root = .obj (("$defs", definitions listed) :: rest) ∧
      listed.Sublist family ∧
      ∀ model ∈ family, LeadsTo family root.name model.name → model ∈ listed := by
  unfold document
  split
  · exact ⟨family, _, rfl, List.Sublist.refl _, fun model isModel _ => isModel⟩
  · next notRecursive =>
      refine ⟨_, _, rfl, List.filter_sublist, ?_⟩
      intro model isModel leads
      refine List.mem_filter.mpr ⟨isModel, ?_⟩
      rw [bne_iff_ne]
      intro sameName
      rw [sameName] at leads
      exact notRecursive ((wellFormed.isRecursive_iff isRoot).mpr leads)

/-- A reference to a model that the root leads to gives the keywords of the model. -/
theorem resolve_of_leadsTo {name : String} (leads : LeadsTo family root.name name) :
    ∃ model ∈ family, model.name = name ∧
      Pointer.resolve (document family root) (pointerTo name) = .ok (.obj model.keywords) := by
  obtain ⟨model, isModel, rfl⟩ := List.mem_map.mp (wellFormed.mem_of_leadsTo leads)
  obtain ⟨listed, rest, isDocument, among, defined⟩ := exists_definitions wellFormed isRoot
  have distinct := wellFormed.distinct.sublist (among.map RecordModel.name)
  refine ⟨model, isModel, rfl, ?_⟩
  rw [isDocument]
  exact resolve_pointerTo distinct (defined model isModel leads)
    (wellFormed.identifiers model isModel) rest

/-- The references in the fields of a model that is reached lead somewhere. -/
theorem exists_of_mem_references
    {model : RecordModel} (isModel : model ∈ family)
    (leads : Relation.ReflTransGen (Refers family) root.name model.name) :
    ∀ name ∈ model.references,
      ∃ value, Pointer.resolve (document family root) (pointerTo name) = .ok value := by
  intro name isReference
  have further : LeadsTo family root.name name :=
    .tail' leads ((wellFormed.refers_iff isModel).mpr isReference)
  obtain ⟨_, _, _, resolved⟩ := resolve_of_leadsTo wellFormed isRoot further
  exact ⟨_, resolved⟩

/-- The document is a reference to the root, if the root leads to itself, and the keywords of the root
otherwise. -/
theorem form_document :
    (LeadsTo family root.name root.name ∧
        (document family root).form (document family root) = .reference (pointerTo root.name)) ∨
      IsRecord root ((document family root).form (document family root)) := by
  by_cases isRecursive : isRecursive family root = true
  · have leads := (wellFormed.isRecursive_iff isRoot).mp isRecursive
    obtain ⟨_, _, _, resolved⟩ := resolve_of_leadsTo wellFormed isRoot leads
    refine Or.inl ⟨leads, ?_⟩
    have isReference := FieldSchema.ofReference_of_resolve resolved
    rw [document, if_pos isRecursive] at isReference ⊢
    exact isReference
  · right
    rw [document, if_neg isRecursive]
    apply isRecord_keywords _ root [("$defs", _)]
    intro entry isEntry
    rw [List.mem_singleton.mp isEntry]

theorem distinctKeys_document : (document family root).DistinctKeys := by
  have each : ∀ model ∈ family, (Json.obj model.keywords).DistinctKeys := fun model isModel =>
    distinctKeys_keywords (wellFormed.fieldsDistinct model isModel)
      (wellFormed.fieldTypes model isModel)
  have ofDefinitions {listed : List RecordModel} (among : listed.Sublist family) :
      (definitions listed).DistinctKeys :=
    distinctKeys_definitions (wellFormed.distinct.sublist (among.map RecordModel.name))
      fun model isListed => each model (among.subset isListed)
  unfold document
  split
  · exact ⟨by simp, ofDefinitions (List.Sublist.refl _), trivial, trivial⟩
  · have ofOthers := ofDefinitions (List.filter_sublist (p := fun model => model.name != root.name))
    obtain ⟨keysDistinct, ofKeywords⟩ := each root isRoot
    refine ⟨List.nodup_cons.mpr ⟨?_, keysDistinct⟩, ofOthers, ofKeywords⟩
    rw [RecordModel.keywords]
    split <;> simp

end Documents

end SchemaSignature.Model
