import SchemaSignature.Proofs.Model.FieldSchemas

/-!
The schemas of the types of fields. An alternative that has the same schema as an earlier one is left
out, but no reference is lost with it, because strictly equal values have the same references. So the
schema of a type refers to exactly the models of the type.
-/

namespace SchemaSignature

namespace Json

theorem eq_str_of_strictEqual {text : String} {other : Json}
    (same : strictEqual (.str text) other = true) : other = .str text := by
  cases other with
  | str otherText =>
      rw [strictEqual] at same
      rw [beq_iff_eq.mp same]
  | _ => simp [strictEqual, quantity?] at same

mutual

/-- The references in a value stand in every value that is strictly equal to it. -/
theorem references_subset_of_strictEqual :
    (value other : Json) → strictEqual value other = true → value.references ⊆ other.references
  | .arr items, .arr others, same => by
      rw [strictEqual] at same
      intro reference isReference
      obtain ⟨other, isOther, isReference⟩ := references_items_subset items others same isReference
      exact references_subset_of_mem_items isOther isReference
  | .obj members, .obj others, same => by
      rw [strictEqual, Bool.and_eq_true] at same
      exact references_members_subset members others same.2
  | .arr _, .null, same | .arr _, .bool _, same | .arr _, .int _, same | .arr _, .float _, same
  | .arr _, .str _, same | .arr _, .obj _, same
  | .obj _, .null, same | .obj _, .bool _, same | .obj _, .int _, same | .obj _, .float _, same
  | .obj _, .str _, same | .obj _, .arr _, same => by
      simp [strictEqual, quantity?] at same
  | .null, _, _ | .bool _, _, _ | .int _, _, _ | .float _, _, _ | .str _, _, _ =>
      List.nil_subset _

theorem references_items_subset :
    (items others : List Json) → strictEqualItems items others = true →
      ∀ {reference}, reference ∈ referencesOfItems items →
        ∃ other ∈ others, reference ∈ other.references
  | [], _, _, _, isReference => by cases isReference
  | _ :: _, [], same, _, _ => by cases same
  | item :: rest, other :: others, same, reference, isReference => by
      rw [strictEqualItems, Bool.and_eq_true] at same
      rw [referencesOfItems, List.mem_append] at isReference
      rcases isReference with ofFirst | ofRest
      · have among := references_subset_of_strictEqual item other same.1
        exact ⟨other, List.mem_cons_self, among ofFirst⟩
      · obtain ⟨later, isLater, among⟩ := references_items_subset rest others same.2 ofRest
        exact ⟨later, List.mem_cons_of_mem _ isLater, among⟩

theorem references_members_subset :
    (members others : List (String × Json)) → strictEqualMembers members others = true →
      referencesOfMembers members ⊆ (Json.obj others).references
  | [], _, _ => List.nil_subset _
  | (key, value) :: rest, others, same => by
      rw [strictEqualMembers, Bool.and_eq_true] at same
      have ofRest := references_members_subset rest others same.2
      cases found : member? others key with
      | none =>
          rw [found] at same
          cases same.1
      | some other =>
          rw [found] at same
          have isMember := mem_of_member? found
          rcases referencesOfMembers_cases key value rest with
            ⟨target, rfl, rfl, unfolded⟩ | ⟨_, unfolded⟩
          · rw [eq_str_of_strictEqual same.1] at isMember
            rw [unfolded]
            exact List.cons_subset.mpr ⟨mem_references_of_mem_members isMember, ofRest⟩
          · have among := references_subset_of_strictEqual value other same.1
            rw [unfolded]
            exact List.append_subset.mpr
              ⟨List.Subset.trans among (references_subset_of_mem_members isMember), ofRest⟩

end

end Json

namespace Model

/-! ## Lists without repetitions -/

/-- Adds a value unless the list has the same one. -/
def addNew (same : Json → Json → Bool) (kept : List Json) (value : Json) : List Json :=
  if kept.any (same value) then kept else kept ++ [value]

section Repetitions

variable {same : Json → Json → Bool} {kept values : List Json} {value : Json}

theorem withoutRepetitions_eq (same : Json → Json → Bool) (values : List Json) :
    withoutRepetitions same values = values.foldl (addNew same) [] :=
  rfl

theorem subset_addNew : kept ⊆ addNew same kept value := by
  unfold addNew
  split
  · exact List.Subset.refl _
  · exact List.subset_append_left _ _

theorem exists_mem_addNew (same : Json → Json → Bool) (kept : List Json) (value : Json) :
    ∃ found ∈ addNew same kept value, found = value ∨ same value found = true := by
  unfold addNew
  split
  · next isKept =>
      obtain ⟨found, isFound, isSame⟩ := List.any_eq_true.mp isKept
      exact ⟨found, isFound, Or.inr isSame⟩
  · exact ⟨value, List.mem_append_right _ (List.mem_singleton.mpr rfl), Or.inl rfl⟩

theorem subset_foldl_addNew (values kept : List Json) : kept ⊆ values.foldl (addNew same) kept := by
  induction values generalizing kept with
  | nil => exact List.Subset.refl _
  | cons first rest inductionHypothesis =>
      exact List.Subset.trans subset_addNew (inductionHypothesis (addNew same kept first))

theorem exists_mem_foldl_addNew
    (same : Json → Json → Bool) (isValue : value ∈ values) (kept : List Json) :
    ∃ found ∈ values.foldl (addNew same) kept, found = value ∨ same value found = true := by
  induction values generalizing kept with
  | nil => cases isValue
  | cons first rest inductionHypothesis =>
      rcases List.mem_cons.mp isValue with rfl | later
      · obtain ⟨found, isFound, isSame⟩ := exists_mem_addNew same kept value
        exact ⟨found, subset_foldl_addNew rest _ isFound, isSame⟩
      · exact inductionHypothesis later (addNew same kept first)

theorem mem_of_mem_foldl_addNew (isKept : value ∈ values.foldl (addNew same) kept) :
    value ∈ kept ∨ value ∈ values := by
  induction values generalizing kept with
  | nil => exact Or.inl isKept
  | cons first rest inductionHypothesis =>
      rcases inductionHypothesis isKept with isAdded | later
      · unfold addNew at isAdded
        split at isAdded
        · exact Or.inl isAdded
        · rcases List.mem_append.mp isAdded with isOld | isFirst
          · exact Or.inl isOld
          · exact Or.inr (List.mem_singleton.mp isFirst ▸ List.mem_cons_self)
      · exact Or.inr (List.mem_cons_of_mem _ later)

theorem withoutRepetitions_subset : withoutRepetitions same values ⊆ values := by
  intro value isKept
  rcases mem_of_mem_foldl_addNew isKept with impossible | isValue
  · cases impossible
  · exact isValue

theorem withoutRepetitions_ne_nil (present : values ≠ []) : withoutRepetitions same values ≠ [] := by
  obtain ⟨value, isValue⟩ := List.exists_mem_of_ne_nil values present
  obtain ⟨found, isFound, _⟩ := exists_mem_foldl_addNew same isValue []
  exact List.ne_nil_of_mem isFound

end Repetitions

/-! ## Alternatives -/

namespace Alternatives

variable {models : List String} {lengths : List Nat} {alternatives : Alternatives}

/-- The schemas among which the schema of alternatives chooses. -/
def listed (alternatives : Alternatives) : List Json :=
  alternatives.schemas ++ if alternatives.nullable then [typed "null" []] else []

theorem schema_cases (alternatives : Alternatives) :
    withoutRepetitions Json.strictEqual alternatives.listed = [alternatives.schema] ∨
      alternatives.schema =
        .obj [("anyOf", .arr (withoutRepetitions Json.strictEqual alternatives.listed))] := by
  rw [schema, ← listed]
  split
  · next only => exact Or.inl only
  · exact Or.inr rfl

/-- There is an alternative, and each one is the schema of a field. -/
structure Describe (models : List String) (lengths : List Nat) (alternatives : Alternatives) :
    Prop where
  each : ∀ schema ∈ alternatives.schemas, FieldSchema models lengths schema
  present : alternatives.schemas ≠ [] ∨ alternatives.nullable = true

theorem describe_only {schema : Json} (generated : FieldSchema models lengths schema) :
    Describe models lengths (only schema) where
  each _ isOnly := List.mem_singleton.mp isOnly ▸ generated
  present := Or.inl (List.cons_ne_nil _ _)

theorem Describe.each_listed (described : Describe models lengths alternatives) :
    ∀ schema ∈ alternatives.listed, FieldSchema models lengths schema := by
  intro schema isListed
  rcases List.mem_append.mp isListed with isSchema | isNull
  · exact described.each schema isSchema
  · split at isNull
    · rw [List.mem_singleton.mp isNull]
      exact .plain (by simp)
    · cases isNull

theorem Describe.listed_ne_nil (described : Describe models lengths alternatives) :
    alternatives.listed ≠ [] := by
  rw [listed, ne_eq, List.append_eq_nil_iff]
  rintro ⟨noSchemas, noNull⟩
  rcases described.present with someSchema | isNullable
  · exact someSchema noSchemas
  · rw [isNullable] at noNull
    cases noNull

theorem Describe.schema (described : Describe models lengths alternatives) :
    FieldSchema models lengths alternatives.schema := by
  have each : ∀ schema ∈ withoutRepetitions Json.strictEqual alternatives.listed,
      FieldSchema models lengths schema :=
    fun schema isKept => described.each_listed schema (withoutRepetitions_subset isKept)
  rcases schema_cases alternatives with only | choice
  · apply each
    rw [only]
    exact List.mem_singleton.mpr rfl
  · rw [choice]
    exact .choice each (withoutRepetitions_ne_nil described.listed_ne_nil)

/-- No reference of an alternative is lost when repetitions are left out. -/
theorem references_subset_schema {schema : Json} (isSchema : schema ∈ alternatives.schemas) :
    schema.references ⊆ alternatives.schema.references := by
  have isListed : schema ∈ alternatives.listed := List.mem_append_left _ isSchema
  obtain ⟨kept, isKept, isSame⟩ :=
    exists_mem_foldl_addNew Json.strictEqual isListed []
  rw [← withoutRepetitions_eq] at isKept
  have among : schema.references ⊆ kept.references := by
    rcases isSame with rfl | isSame
    · exact List.Subset.refl _
    · exact Json.references_subset_of_strictEqual schema kept isSame
  refine List.Subset.trans among ?_
  rcases schema_cases alternatives with only | choice
  · rw [only, List.mem_singleton] at isKept
    rw [isKept]
    exact List.Subset.refl _
  · rw [choice]
    have inItems := Json.references_subset_of_mem_items isKept
    exact List.Subset.trans inItems (Json.references_subset_of_mem_members List.mem_cons_self)

end Alternatives

/-! ## Types -/

theorem fieldSchema_tableOf
    {models : List String} {lengths : List Nat} {schema : Json}
    (generated : FieldSchema models lengths schema) :
    FieldSchema models lengths
      (typed "object" [("additionalProperties", withTrue schema)]) := by
  unfold withTrue
  split
  · exact .table
  · exact .tableOf generated

theorem references_withTrue (schema : Json) : (withTrue schema).references = schema.references := by
  unfold withTrue
  split
  · rfl
  · rfl

theorem fieldSchema_literalSchema
    {models : List String} {lengths : List Nat} {values : List Json} (present : values ≠ [])
    (keys : ∀ value ∈ values, value.isKey = true) :
    FieldSchema models lengths (literalSchema values) := by
  have keptKeys : ∀ value ∈ withoutRepetitions Json.equalOfKind values, value.isKey = true :=
    fun value isKept => keys value (withoutRepetitions_subset isKept)
  unfold literalSchema
  split
  · next value only =>
      refine .constant (keptKeys value ?_)
      rw [only]
      exact List.mem_singleton.mpr rfl
  · exact .listed keptKeys (withoutRepetitions_ne_nil present)

theorem length_memberSchemas (members : List FieldType) :
    (memberSchemas members).length = members.length := by
  induction members with
  | nil => rfl
  | cons member rest inductionHypothesis =>
      rw [memberSchemas, List.length_cons, List.length_cons, inductionHypothesis]

mutual

/-- The alternatives of a type refer to models of the type, and their tuples are tuples of the type. -/
theorem FieldType.describe :
    (fieldType : FieldType) → fieldType.WellFormed →
      fieldType.alternatives.Describe fieldType.models fieldType.tupleLengths
  | .text, _ | .integer, _ | .number, _ | .boolean, _ => by
      rw [FieldType.alternatives]
      exact Alternatives.describe_only (.plain (by simp))
  | .null, _ => by
      rw [FieldType.alternatives]
      exact ⟨fun _ impossible => (List.not_mem_nil impossible).elim, Or.inr rfl⟩
  | .any, _ => by
      rw [FieldType.alternatives]
      exact Alternatives.describe_only .any
  | .list, _ => by
      rw [FieldType.alternatives]
      exact Alternatives.describe_only (.arrayOf .any)
  | .table, _ => by
      rw [FieldType.alternatives]
      exact Alternatives.describe_only .table
  | .listOf item, wellFormed => by
      have ofItem := FieldType.describe item (by simpa only [FieldType.WellFormed] using wellFormed)
      rw [FieldType.alternatives, FieldType.models, FieldType.tupleLengths]
      exact Alternatives.describe_only (.arrayOf ofItem.schema)
  | .tableOf value, wellFormed => by
      have ofValue := FieldType.describe value (by simpa only [FieldType.WellFormed] using wellFormed)
      rw [FieldType.alternatives, FieldType.models, FieldType.tupleLengths]
      exact Alternatives.describe_only (fieldSchema_tableOf ofValue.schema)
  | .optional value, wellFormed => by
      have ofValue := FieldType.describe value (by simpa only [FieldType.WellFormed] using wellFormed)
      rw [FieldType.alternatives, FieldType.models, FieldType.tupleLengths]
      exact ⟨ofValue.each, Or.inr rfl⟩
  | .tuple [], _ => by
      rw [FieldType.alternatives]
      exact Alternatives.describe_only (.plain (by simp))
  | .tuple (first :: rest), wellFormed => by
      rw [FieldType.WellFormed] at wellFormed
      have each := describe_members (first :: rest) wellFormed
      rw [FieldType.alternatives, FieldType.models, FieldType.tupleLengths]
      refine Alternatives.describe_only (.tuple ?_ (List.cons_ne_nil _ _) ?_)
      · intro schema isMember
        exact (each schema isMember).mono (List.Subset.refl _) (List.subset_cons_self _ _)
      · rw [← length_memberSchemas (first :: rest)]
        exact List.mem_cons_self
  | .union members, wellFormed => by
      rw [FieldType.WellFormed] at wellFormed
      rw [FieldType.alternatives, FieldType.models, FieldType.tupleLengths]
      exact describe_union members wellFormed.2 wellFormed.1
  | .literal values, wellFormed => by
      rw [FieldType.WellFormed] at wellFormed
      rw [FieldType.alternatives]
      exact Alternatives.describe_only (fieldSchema_literalSchema wellFormed.1 wellFormed.2)
  | .model name, _ => by
      rw [FieldType.alternatives, FieldType.models]
      exact Alternatives.describe_only (.reference (List.mem_singleton.mpr rfl))

theorem describe_union :
    (members : List FieldType) → AllWellFormed members → members ≠ [] →
      (unionAlternatives members).Describe (modelsOfAll members) (tupleLengthsOfAll members)
  | [], _, present => absurd rfl present
  | member :: rest, wellFormed, _ => by
      rw [AllWellFormed] at wellFormed
      have ofFirst := FieldType.describe member wellFormed.1
      have ofRest : ∀ schema ∈ (unionAlternatives rest).schemas,
          FieldSchema (modelsOfAll rest) (tupleLengthsOfAll rest) schema := by
        cases rest with
        | nil =>
            intro schema impossible
            cases impossible
        | cons second others => exact (describe_union _ wellFormed.2 (List.cons_ne_nil _ _)).each
      rw [unionAlternatives, modelsOfAll, tupleLengthsOfAll]
      refine ⟨?_, ?_⟩
      · intro schema isSchema
        rcases List.mem_append.mp isSchema with isFirst | later
        · exact (ofFirst.each schema isFirst).mono (List.subset_append_left _ _)
            (List.subset_append_left _ _)
        · exact (ofRest schema later).mono (List.subset_append_right _ _)
            (List.subset_append_right _ _)
      · rcases ofFirst.present with someSchema | isNullable
        · exact Or.inl fun none => someSchema (List.append_eq_nil_iff.mp none).1
        · exact Or.inr (by simp [isNullable])

theorem describe_members :
    (members : List FieldType) → AllWellFormed members →
      ∀ schema ∈ memberSchemas members,
        FieldSchema (modelsOfAll members) (tupleLengthsOfAll members) schema
  | [], _, _, impossible => by cases impossible
  | member :: rest, wellFormed, schema, isMember => by
      rw [AllWellFormed] at wellFormed
      have ofFirst := FieldType.describe member wellFormed.1
      rw [memberSchemas] at isMember
      rw [modelsOfAll, tupleLengthsOfAll]
      rcases List.mem_cons.mp isMember with rfl | later
      · exact ofFirst.schema.mono (List.subset_append_left _ _) (List.subset_append_left _ _)
      · exact (describe_members rest wellFormed.2 schema later).mono
          (List.subset_append_right _ _) (List.subset_append_right _ _)

end

theorem FieldType.WellFormed.fieldSchema
    {fieldType : FieldType} (wellFormed : fieldType.WellFormed) :
    FieldSchema fieldType.models fieldType.tupleLengths fieldType.schema :=
  (fieldType.describe wellFormed).schema

mutual

/-- Each model of a type is referred to in an alternative of the type. -/
theorem FieldType.exists_schema_of_mem_models {name : String} :
    (fieldType : FieldType) → name ∈ fieldType.models →
      ∃ schema ∈ fieldType.alternatives.schemas, pointerTo name ∈ schema.references
  | .text, isModel | .integer, isModel | .number, isModel | .boolean, isModel | .null, isModel
  | .any, isModel | .list, isModel | .table, isModel | .literal _, isModel => by
      simp [FieldType.models] at isModel
  | .listOf item, isModel => by
      rw [FieldType.models] at isModel
      rw [FieldType.alternatives]
      refine ⟨_, List.mem_singleton.mpr rfl, ?_⟩
      rw [FieldSchema.references_typed, Json.referencesOfMembers_singleton (by decide)]
      exact FieldType.mem_references_schema item isModel
  | .tableOf value, isModel => by
      rw [FieldType.models] at isModel
      rw [FieldType.alternatives]
      refine ⟨_, List.mem_singleton.mpr rfl, ?_⟩
      rw [FieldSchema.references_typed, Json.referencesOfMembers_singleton (by decide),
        references_withTrue]
      exact FieldType.mem_references_schema value isModel
  | .optional value, isModel => by
      rw [FieldType.models] at isModel
      rw [FieldType.alternatives]
      exact FieldType.exists_schema_of_mem_models value isModel
  | .tuple [], isModel => by
      rw [FieldType.models, modelsOfAll] at isModel
      cases isModel
  | .tuple (first :: rest), isModel => by
      rw [FieldType.models] at isModel
      rw [FieldType.alternatives]
      refine ⟨_, List.mem_singleton.mpr rfl, ?_⟩
      rw [FieldSchema.references_typed, Json.referencesOfMembers_singleton (by decide),
        Json.references, Json.mem_referencesOfItems_iff]
      exact exists_member_of_mem_models (first :: rest) isModel
  | .union members, isModel => by
      rw [FieldType.models] at isModel
      rw [FieldType.alternatives]
      exact exists_alternative_of_mem_models members isModel
  | .model other, isModel => by
      rw [FieldType.models, List.mem_singleton] at isModel
      rw [FieldType.alternatives, isModel]
      exact ⟨referenceTo other, List.mem_singleton.mpr rfl, List.mem_cons_self⟩

theorem FieldType.mem_references_schema {name : String} (fieldType : FieldType)
    (isModel : name ∈ fieldType.models) :
    pointerTo name ∈ fieldType.alternatives.schema.references := by
  obtain ⟨schema, isSchema, isReference⟩ := FieldType.exists_schema_of_mem_models fieldType isModel
  exact Alternatives.references_subset_schema isSchema isReference

theorem exists_alternative_of_mem_models {name : String} :
    (members : List FieldType) → name ∈ modelsOfAll members →
      ∃ schema ∈ (unionAlternatives members).schemas, pointerTo name ∈ schema.references
  | [], impossible => by cases impossible
  | member :: rest, isModel => by
      rw [modelsOfAll] at isModel
      rw [unionAlternatives]
      rcases List.mem_append.mp isModel with ofFirst | ofRest
      · obtain ⟨schema, isSchema, isReference⟩ :=
          FieldType.exists_schema_of_mem_models member ofFirst
        exact ⟨schema, List.mem_append_left _ isSchema, isReference⟩
      · obtain ⟨schema, isSchema, isReference⟩ := exists_alternative_of_mem_models rest ofRest
        exact ⟨schema, List.mem_append_right _ isSchema, isReference⟩

theorem exists_member_of_mem_models {name : String} :
    (members : List FieldType) → name ∈ modelsOfAll members →
      ∃ schema ∈ memberSchemas members, pointerTo name ∈ schema.references
  | [], impossible => by cases impossible
  | member :: rest, isModel => by
      rw [modelsOfAll] at isModel
      rw [memberSchemas]
      rcases List.mem_append.mp isModel with ofFirst | ofRest
      · exact ⟨_, List.mem_cons_self, FieldType.mem_references_schema member ofFirst⟩
      · obtain ⟨schema, isSchema, isReference⟩ := exists_member_of_mem_models rest ofRest
        exact ⟨schema, List.mem_cons_of_mem _ isSchema, isReference⟩

end

end Model

end SchemaSignature
