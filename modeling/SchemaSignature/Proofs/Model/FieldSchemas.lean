import SchemaSignature.Proofs.Document.DistinctKeys
import SchemaSignature.Proofs.Document.References
import SchemaSignature.Proofs.Model.Reachability

/-!
The schemas that describe the types of fields. They have few shapes, none of which is faulty but that
of a tuple with too many members, and all references in them are to the models of the type.
-/

namespace SchemaSignature

/-- What the subschemas, the references and the faults of a form are. -/
structure Form.Bounds (part : Json → Prop) (target : String → Prop) (fault : Failure → Prop)
    (form : Form) : Prop where
  parts : ∀ subschema ∈ form.subschemas, part subschema
  targets : ∀ reference ∈ form.targets, target reference
  faults : ∀ failure, form.fault? = some failure → fault failure

section Bounds

variable {part : Json → Prop} {target : String → Prop} {fault : Failure → Prop} {form : Form}

theorem Form.bounds_of_parts
    (parts : ∀ subschema ∈ form.subschemas, part subschema) (noTargets : form.targets = [])
    (faultless : form.fault? = none) : form.Bounds part target fault where
  parts := parts
  targets reference isTarget := by
    rw [noTargets] at isTarget
    cases isTarget
  faults failure faulty := by
    rw [faultless] at faulty
    cases faulty

theorem Form.bounds_reference {reference : String} (isTarget : target reference) :
    (Form.reference reference).Bounds part target fault where
  parts _ isPart := by cases isPart
  targets _ isOnly := List.mem_singleton.mp isOnly ▸ isTarget
  faults _ faulty := by cases faulty

theorem Form.Bounds.mono
    (bounds : form.Bounds part target fault) {widerPart : Json → Prop} {widerTarget : String → Prop}
    {widerFault : Failure → Prop} (ofPart : ∀ schema, part schema → widerPart schema)
    (ofTarget : ∀ reference, target reference → widerTarget reference)
    (ofFault : ∀ failure, fault failure → widerFault failure) :
    form.Bounds widerPart widerTarget widerFault where
  parts subschema isPart := ofPart subschema (bounds.parts subschema isPart)
  targets reference isTarget := ofTarget reference (bounds.targets reference isTarget)
  faults failure faulty := ofFault failure (bounds.faults failure faulty)

end Bounds

namespace Model

/-- The text of the reference to a model of the given name. -/
def pointerTo (name : String) : String :=
  "#/$defs/" ++ name

/-- The shapes of the schemas of fields whose types refer to the given models and have tuples of the
given lengths. -/
inductive FieldSchema (models : List String) (lengths : List Nat) : Json → Prop where
  | plain {name : String}
      (known : name ∈ ["string", "integer", "number", "boolean", "null", "array"]) :
      FieldSchema models lengths (typed name [])
  | any : FieldSchema models lengths (.obj [])
  | arrayOf {item : Json} (ofItem : FieldSchema models lengths item) :
      FieldSchema models lengths (typed "array" [("items", item)])
  | table : FieldSchema models lengths (typed "object" [("additionalProperties", .bool true)])
  | tableOf {value : Json} (ofValue : FieldSchema models lengths value) :
      FieldSchema models lengths (typed "object" [("additionalProperties", value)])
  | tuple {members : List Json} (each : ∀ member ∈ members, FieldSchema models lengths member)
      (present : members ≠ []) (isLength : members.length ∈ lengths) :
      FieldSchema models lengths (typed "array" [("prefixItems", .arr members)])
  | choice {members : List Json} (each : ∀ member ∈ members, FieldSchema models lengths member)
      (present : members ≠ []) :
      FieldSchema models lengths (.obj [("anyOf", .arr members)])
  | constant {value : Json} (isKey : value.isKey = true) :
      FieldSchema models lengths (.obj [("const", value)])
  | listed {values : List Json} (keys : ∀ value ∈ values, value.isKey = true)
      (present : values ≠ []) :
      FieldSchema models lengths (.obj [("enum", .arr values)])
  | reference {name : String} (isModel : name ∈ models) :
      FieldSchema models lengths (referenceTo name)

namespace FieldSchema

variable {root schema : Json} {models : List String} {lengths : List Nat}

theorem mono
    {moreModels : List String} {moreLengths : List Nat} (generated : FieldSchema models lengths schema)
    (modelsAmong : models ⊆ moreModels) (lengthsAmong : lengths ⊆ moreLengths) :
    FieldSchema moreModels moreLengths schema := by
  induction generated with
  | plain known => exact .plain known
  | any => exact .any
  | arrayOf _ inductionHypothesis => exact .arrayOf inductionHypothesis
  | table => exact .table
  | tableOf _ inductionHypothesis => exact .tableOf inductionHypothesis
  | tuple _ present isLength inductionHypothesis =>
      exact .tuple inductionHypothesis present (lengthsAmong isLength)
  | choice _ present inductionHypothesis => exact .choice inductionHypothesis present
  | constant isKey => exact .constant isKey
  | listed keys present => exact .listed keys present
  | reference isModel => exact .reference (modelsAmong isModel)

theorem exists_keywords (generated : FieldSchema models lengths schema) :
    ∃ keywords, schema = .obj keywords := by
  cases generated <;> exact ⟨_, rfl⟩

theorem distinctKeys (generated : FieldSchema models lengths schema) : schema.DistinctKeys := by
  have typedWith {name key : String} {value : Json} (different : "type" ≠ key)
      (ofValue : value.DistinctKeys) : (typed name [(key, value)]).DistinctKeys :=
    ⟨by simpa using different, trivial, ofValue, trivial⟩
  have alone {key : String} {value : Json} (ofValue : value.DistinctKeys) :
      (Json.obj [(key, value)]).DistinctKeys :=
    ⟨List.nodup_singleton key, ofValue, trivial⟩
  induction generated with
  | plain => exact alone trivial
  | any => exact ⟨List.nodup_nil, trivial⟩
  | arrayOf _ inductionHypothesis => exact typedWith (by decide) inductionHypothesis
  | table => exact typedWith (by decide) trivial
  | tableOf _ inductionHypothesis => exact typedWith (by decide) inductionHypothesis
  | tuple _ _ _ inductionHypothesis =>
      exact typedWith (by decide) (Json.distinctKeysOfItems inductionHypothesis)
  | choice _ _ inductionHypothesis => exact alone (Json.distinctKeysOfItems inductionHypothesis)
  | constant isKey => exact alone (Json.distinctKeys_of_isKey isKey)
  | listed keys =>
      exact alone (Json.distinctKeysOfItems fun value isListed =>
        Json.distinctKeys_of_isKey (keys value isListed))
  | reference => exact alone trivial

/-! ## The forms of the shapes -/

theorem form_arrayOf {item : Json} (generated : FieldSchema models lengths item) :
    root.form (typed "array" [("items", item)]) = .array item := by
  obtain ⟨_, rfl⟩ := generated.exists_keywords
  rfl

theorem form_tableOf {value : Json} (generated : FieldSchema models lengths value) :
    root.form (typed "object" [("additionalProperties", value)]) =
      .object (some value) (.ok none) := by
  obtain ⟨_, rfl⟩ := generated.exists_keywords
  rfl

theorem form_choice {members : List Json} (present : members ≠ []) :
    root.form (.obj [("anyOf", .arr members)]) = .choice members := by
  cases members with
  | nil => exact absurd rfl present
  | cons first rest => rfl

theorem form_constant (root : Json) {value : Json} (isKey : value.isKey = true) :
    ∃ literals nullable, root.form (.obj [("const", value)]) = .values literals nullable := by
  have keys : ∀ other ∈ [value], other.isKey = true :=
    fun other isOnly => List.mem_singleton.mp isOnly ▸ isKey
  exact Form.ofValues_of_keys keys

theorem form_listed
    (root : Json) {values : List Json} (keys : ∀ value ∈ values, value.isKey = true) (present : values ≠ []) :
    ∃ literals nullable, root.form (.obj [("enum", .arr values)]) = .values literals nullable := by
  cases values with
  | nil => exact absurd rfl present
  | cons first rest => exact Form.ofValues_of_keys keys

theorem ofReference_of_resolve
    {reference : String} {value : Json} (resolved : Pointer.resolve root reference = .ok value) :
    Form.ofReference root (.str reference) = .reference reference := by
  simp only [Form.ofReference, Json.isKey, resolved]
  rfl

theorem form_reference
    {name : String} {value : Json} (resolved : Pointer.resolve root (pointerTo name) = .ok value) :
    root.form (referenceTo name) = .reference (pointerTo name) :=
  ofReference_of_resolve resolved

/-- The fault of a tuple that is longer than any tuple can be. -/
def TooLong (lengths : List Nat) (failure : Failure) : Prop :=
  failure.category = .invalidValue ∧ ∃ length ∈ lengths, 5 < length

theorem bounds_tuple
    {members : List Json} (each : ∀ member ∈ members, FieldSchema models lengths member)
    (present : members ≠ []) (isLength : members.length ∈ lengths) :
    (Form.tuple members).Bounds (FieldSchema models lengths)
      (fun target => ∃ name ∈ models, target = pointerTo name) (TooLong lengths) where
  parts := each
  targets _ isTarget := by cases isTarget
  faults failure faulty := by
    rw [Form.fault?] at faulty
    split at faulty
    · cases faulty
    · next wrongLength =>
        cases faulty
        have notEmpty : 0 < members.length := List.length_pos_iff.mpr present
        exact ⟨rfl, members.length, isLength, by omega⟩

/-- The schema of a field is made of such schemas. It refers to models of the type only, and is faulty
only if a tuple of the type is too long. -/
theorem bounds
    (resolves : ∀ name ∈ models, ∃ value, Pointer.resolve root (pointerTo name) = .ok value)
    (generated : FieldSchema models lengths schema) :
    (root.form schema).Bounds (FieldSchema models lengths)
      (fun target => ∃ name ∈ models, target = pointerTo name) (TooLong lengths) := by
  have noParts {form : Form} (isLeaf : form.subschemas = []) :
      ∀ subschema ∈ form.subschemas, FieldSchema models lengths subschema := by
    intro subschema isPart
    rw [isLeaf] at isPart
    cases isPart
  cases generated with
  | plain known =>
      simp only [List.mem_cons, List.not_mem_nil, or_false] at known
      rcases known with rfl | rfl | rfl | rfl | rfl | rfl <;>
        exact Form.bounds_of_parts (noParts rfl) rfl rfl
  | any => exact Form.bounds_of_parts (noParts rfl) rfl rfl
  | arrayOf ofItem =>
      rw [form_arrayOf ofItem]
      exact Form.bounds_of_parts (fun _ isPart => List.mem_singleton.mp isPart ▸ ofItem) rfl rfl
  | table => exact Form.bounds_of_parts (noParts rfl) rfl rfl
  | tableOf ofValue =>
      rw [form_tableOf ofValue]
      exact Form.bounds_of_parts (fun _ isPart => List.mem_singleton.mp isPart ▸ ofValue) rfl rfl
  | tuple each present isLength => exact bounds_tuple each present isLength
  | choice each present =>
      rw [form_choice present]
      exact Form.bounds_of_parts each rfl rfl
  | constant isKey =>
      obtain ⟨literals, nullable, values⟩ := form_constant root isKey
      rw [values]
      exact Form.bounds_of_parts (noParts rfl) rfl rfl
  | listed keys present =>
      obtain ⟨literals, nullable, values⟩ := form_listed root keys present
      rw [values]
      exact Form.bounds_of_parts (noParts rfl) rfl rfl
  | @reference name isModel =>
      obtain ⟨value, resolved⟩ := resolves name isModel
      rw [form_reference resolved]
      exact Form.bounds_reference ⟨name, isModel, rfl⟩

/-! ## References in the shapes -/

theorem references_typed (name : String) (others : List (String × Json)) :
    (typed name others).references = Json.referencesOfMembers others :=
  rfl

/-- All references that stand in the schema of a field are drafted with it. -/
theorem exists_within_of_mem_references
    (resolves : ∀ name ∈ models, ∃ value, Pointer.resolve root (pointerTo name) = .ok value)
    (generated : FieldSchema models lengths schema) {reference : String}
    (isReference : reference ∈ schema.references) :
    ∃ inner, Document.Within root schema inner ∧ reference ∈ (root.form inner).targets := by
  induction generated with
  | plain => cases isReference
  | any => cases isReference
  | table => cases isReference
  | arrayOf ofItem inductionHypothesis =>
      rw [references_typed, Json.referencesOfMembers_singleton (by decide)] at isReference
      obtain ⟨inner, within, refers⟩ := inductionHypothesis isReference
      refine ⟨inner, .part ?_ within, refers⟩
      rw [form_arrayOf ofItem]
      exact List.mem_singleton.mpr rfl
  | tableOf ofValue inductionHypothesis =>
      rw [references_typed, Json.referencesOfMembers_singleton (by decide)] at isReference
      obtain ⟨inner, within, refers⟩ := inductionHypothesis isReference
      refine ⟨inner, .part ?_ within, refers⟩
      rw [form_tableOf ofValue]
      exact List.mem_singleton.mpr rfl
  | tuple _ _ _ inductionHypothesis =>
      rw [references_typed, Json.referencesOfMembers_singleton (by decide), Json.references,
        Json.mem_referencesOfItems_iff] at isReference
      obtain ⟨member, isMember, isReference⟩ := isReference
      obtain ⟨inner, within, refers⟩ := inductionHypothesis member isMember isReference
      exact ⟨inner, .part isMember within, refers⟩
  | choice _ present inductionHypothesis =>
      rw [Json.references, Json.referencesOfMembers_singleton (by decide), Json.references,
        Json.mem_referencesOfItems_iff] at isReference
      obtain ⟨member, isMember, isReference⟩ := isReference
      obtain ⟨inner, within, refers⟩ := inductionHypothesis member isMember isReference
      refine ⟨inner, .part ?_ within, refers⟩
      rw [form_choice present]
      exact isMember
  | constant isKey =>
      rw [Json.references, Json.referencesOfMembers_singleton (by decide), Json.references_of_isKey isKey] at isReference
      cases isReference
  | listed keys =>
      rw [Json.references, Json.referencesOfMembers_singleton (by decide), Json.references,
        Json.mem_referencesOfItems_iff] at isReference
      obtain ⟨value, isListed, isReference⟩ := isReference
      rw [Json.references_of_isKey (keys value isListed)] at isReference
      cases isReference
  | @reference name isModel =>
      obtain ⟨value, resolved⟩ := resolves name isModel
      refine ⟨referenceTo name, .refl _, ?_⟩
      rw [form_reference resolved]
      exact isReference

end FieldSchema

end Model

end SchemaSignature
