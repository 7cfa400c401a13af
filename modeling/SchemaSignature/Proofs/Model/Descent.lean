import SchemaSignature.Proofs.Model.Documents

/-!
What is drafted for the document of a model: the document itself, the models that the root leads to,
and the schemas of their fields and of those of the root. The references that are met are therefore
those to the models that the root leads to, and a fault is a tuple that is too long.
-/

namespace SchemaSignature.Model

open Document (Reached IsMet)

/-- What a schema that is drafted for the document of a model stands for. -/
inductive Stands (family : List RecordModel) (root : RecordModel) : Json → Prop where
  | whole : Stands family root (document family root)
  | target {model : RecordModel} (isModel : model ∈ family)
      (leads : LeadsTo family root.name model.name) : Stands family root (.obj model.keywords)
  | field {model : RecordModel} {schema : Json} (isModel : model ∈ family)
      (leads : Relation.ReflTransGen (Refers family) root.name model.name)
      (generated : FieldSchema model.references model.tupleLengths schema) :
      Stands family root schema

/-- The fault of a tuple in a model that is reached from the root. -/
def TupleFault (family : List RecordModel) (root : RecordModel) (failure : Failure) : Prop :=
  ∃ model ∈ family, Relation.ReflTransGen (Refers family) root.name model.name ∧
    FieldSchema.TooLong model.tupleLengths failure

section Documents

variable {family : List RecordModel} (wellFormed : WellFormed family) {root : RecordModel}

include wellFormed

/-- The fields of a model are drafted as parts of its keywords. -/
theorem IsRecord.bounds
    {model : RecordModel} {form : Form} (isRecord : IsRecord model form) (isModel : model ∈ family)
    (leads : Relation.ReflTransGen (Refers family) root.name model.name) :
    form.Bounds (Stands family root)
      (fun target => ∃ name, LeadsTo family root.name name ∧ target = pointerTo name)
      (TupleFault family root) := by
  obtain ⟨listed, rfl, ofModel⟩ := isRecord
  apply Form.bounds_of_parts
  case noTargets => rfl
  case faultless => rfl
  case parts =>
    intro subschema isPart
    change subschema ∈ listed.map Property.schema at isPart
    rw [ofModel] at isPart
    exact .field isModel leads (fieldSchema_of_mem (wellFormed.fieldTypes model isModel) isPart)

variable (isRoot : root ∈ family)

include isRoot

/-- The form of a schema that is drafted leads to others that are. -/
theorem Stands.bounds {schema : Json} (stands : Stands family root schema) :
    ((document family root).form schema).Bounds (Stands family root)
      (fun target => ∃ name, LeadsTo family root.name name ∧ target = pointerTo name)
      (TupleFault family root) := by
  cases stands with
  | whole =>
      rcases form_document wellFormed isRoot with ⟨leads, isReference⟩ | isRecord
      · rw [isReference]
        exact Form.bounds_reference ⟨root.name, leads, rfl⟩
      · exact isRecord.bounds wellFormed isRoot .refl
  | @target model isModel leads =>
      have isRecord := isRecord_model (document family root) model
      exact isRecord.bounds wellFormed isModel leads.to_reflTransGen
  | @field model schema isModel leads generated =>
      have resolves := exists_of_mem_references wellFormed isRoot isModel leads
      apply (generated.bounds resolves).mono
      case ofPart => exact fun _ ofField => .field isModel leads ofField
      case ofTarget =>
        rintro target ⟨name, isReference, same⟩
        have refers := (wellFormed.refers_iff isModel).mpr isReference
        exact ⟨name, .tail' leads refers, same⟩
      case ofFault => exact fun _ tooLong => ⟨model, isModel, leads, tooLong⟩

/-- Everything that is drafted stands for the document, for a model or for a field. -/
theorem stands_of_reached {schema : Json} (reached : Reached (document family root) schema) :
    Stands family root schema := by
  induction reached with
  | document => exact .whole
  | part _ isPart inductionHypothesis =>
      exact (inductionHypothesis.bounds wellFormed isRoot).parts _ isPart
  | target _ refers resolved inductionHypothesis =>
      obtain ⟨name, leads, rfl⟩ :=
        (inductionHypothesis.bounds wellFormed isRoot).targets _ refers
      obtain ⟨model, isModel, rfl, found⟩ := resolve_of_leadsTo wellFormed isRoot leads
      cases found.symm.trans resolved
      exact .target isModel leads

theorem tupleFault_of_reached
    {schema : Json} (reached : Reached (document family root) schema) {failure : Failure}
    (faulty : ((document family root).form schema).fault? = some failure) :
    TupleFault family root failure :=
  ((stands_of_reached wellFormed isRoot reached).bounds wellFormed isRoot).faults failure faulty

/-! ## The references that are met -/

/-- The references of a model are met if its fields are the properties of a schema that is drafted. -/
theorem isMet_of_refers
    {schema : Json} (reached : Reached (document family root) schema) {model : RecordModel}
    (isRecord : IsRecord model ((document family root).form schema)) (isModel : model ∈ family)
    (leads : Relation.ReflTransGen (Refers family) root.name model.name) {name : String}
    (isReference : name ∈ model.references) : IsMet (document family root) (pointerTo name) := by
  obtain ⟨listed, isObject, ofModel⟩ := isRecord
  obtain ⟨field, isField, refers⟩ := List.mem_flatMap.mp isReference
  have isPart : field.fieldType.schema ∈ ((document family root).form schema).subschemas := by
    rw [isObject]
    change field.fieldType.schema ∈ listed.map Property.schema
    rw [ofModel]
    exact List.mem_map.mpr ⟨field, isField, rfl⟩
  have resolves : ∀ other ∈ field.fieldType.models,
      ∃ value, Pointer.resolve (document family root) (pointerTo other) = .ok value :=
    fun other isOther => exists_of_mem_references wellFormed isRoot isModel leads other
      (List.mem_flatMap.mpr ⟨field, isField, isOther⟩)
  have generated := (wellFormed.fieldTypes model isModel field isField).fieldSchema
  obtain ⟨inner, within, refersInside⟩ := generated.exists_within_of_mem_references resolves
    (FieldType.mem_references_schema field.fieldType refers)
  exact ⟨inner, (reached.part isPart).within within, refersInside⟩

theorem isMet_of_leadsTo {name : String} (leads : LeadsTo family root.name name) :
    IsMet (document family root) (pointerTo name) := by
  -- A model that is met is drafted, and the references in its fields are met with it.
  have further {middle other : String} (leadsMiddle : LeadsTo family root.name middle)
      (met : IsMet (document family root) (pointerTo middle)) (refers : Refers family middle other) :
      IsMet (document family root) (pointerTo other) := by
    obtain ⟨model, isModel, rfl, found⟩ := resolve_of_leadsTo wellFormed isRoot leadsMiddle
    obtain ⟨value, resolved, reached⟩ := met.exists_reached
    cases found.symm.trans resolved
    have isRecord := isRecord_model (document family root) model
    exact isMet_of_refers wellFormed isRoot reached isRecord isModel leadsMiddle.to_reflTransGen
      ((wellFormed.refers_iff isModel).mp refers)
  induction leads with
  | single refers =>
      rcases form_document wellFormed isRoot with ⟨leads, isReference⟩ | isRecord
      · have met : IsMet (document family root) (pointerTo root.name) :=
          ⟨_, .document, by rw [isReference]; exact List.mem_singleton.mpr rfl⟩
        exact further leads met refers
      · have isReference := (wellFormed.refers_iff isRoot).mp refers
        exact isMet_of_refers wellFormed isRoot .document isRecord isRoot .refl isReference
  | tail leadsMiddle refers inductionHypothesis =>
      exact further leadsMiddle inductionHypothesis refers

/-- The references that are met in the document of a model are those to the models that the model
leads to. -/
theorem isMet_iff {reference : String} :
    IsMet (document family root) reference ↔
      ∃ name, LeadsTo family root.name name ∧ reference = pointerTo name := by
  constructor
  · rintro ⟨schema, reached, refers⟩
    have stands := stands_of_reached wellFormed isRoot reached
    exact (stands.bounds wellFormed isRoot).targets reference refers
  · rintro ⟨name, leads, rfl⟩
    exact isMet_of_leadsTo wellFormed isRoot leads

end Documents

end SchemaSignature.Model
