import Mathlib.Data.List.Nodup
import SchemaSignature.Proofs.Document.Drafts
import SchemaSignature.Proofs.Document.FieldNames

/-!
What becomes of the properties of an object. Each of them has one field, among the required or among
the optional ones, in the order of the properties. No field takes the place of another, because
the name of a field determines the property.
-/

namespace SchemaSignature.Form

variable {draft : Json → Traced Draft}

/-- The fields of the properties that pass a test, in order, each with the node of its subschema. -/
def fieldsWhere (test : String → Bool) (node : Json → Draft) (members : List (String × Json)) :
    List (String × Draft) :=
  (members.filter fun member => test member.1).map fun member => (fieldName member.1, node member.2)

/-- The parts of an object with the given fields: the required ones, unless there are only optional
ones; the optional ones, if any; and a record of the other members, if they have a node. -/
def partsOf (required optional : List (String × Draft)) (others : Option Draft) : List Draft :=
  (if !required.isEmpty || optional.isEmpty then [.fields .required required] else []) ++
    (if optional.isEmpty then [] else [.fields .optional optional]) ++
    (others.map (Node.container .record)).toList

/-- A single part is its own node, and several are an intersection. -/
def ofParts : List Draft → Draft
  | [part] => part
  | parts => .group .intersection parts

/-- The subschema of the other members of an object. -/
def othersSchema? (schema : List (String × Json)) : Option Json :=
  match Json.member? schema "additionalProperties" with
  | some (.obj members) => some (.obj members)
  | _ => none

/-- The node of the other members of an object, if they have a subschema. -/
def draftOthers (draft : Json → Traced Draft) (schema : List (String × Json)) :
    Except Failure (Option Draft) :=
  match othersSchema? schema with
  | some others => (draft others).outcome.map some
  | none => .ok none

theorem length_partsOf (required optional : List (String × Draft)) (others : Option Draft) :
    1 ≤ (partsOf required optional others).length ∧
      (partsOf required optional others).length ≤ 3 := by
  cases required <;> cases optional <;> cases others <;> simp [partsOf]

/-- An object is an intersection only of a number of parts that is allowed. -/
theorem intersectParts_partsOf (required optional : List (String × Draft)) (others : Option Draft) :
    intersectParts (partsOf required optional others) =
      .ok (ofParts (partsOf required optional others)) := by
  obtain ⟨present, atMostThree⟩ := length_partsOf required optional others
  generalize partsOf required optional others = parts at present atMostThree
  match parts, present with
  | [part], _ => rfl
  | first :: second :: rest, _ =>
      have within : 2 ≤ (first :: second :: rest).length ∧ (first :: second :: rest).length ≤ 5 := by
        rw [List.length_cons, List.length_cons] at atMostThree ⊢
        omega
      exact (Construction.intersection_nodes _).trans (if_pos within)

/-! ## The fields -/

theorem outcome_draftProperties
    {collected : Fields} {listed : List Property} {node : Json → Draft}
    (different : (listed.map fun property => fieldName property.name).Nodup)
    (absent : ∀ property ∈ listed, fieldName property.name ∉ collected.names)
    (drafted : ∀ property ∈ listed,
      (draft property.schema).outcome = .ok (node property.schema)) :
    (draftProperties draft collected listed).outcome =
      .ok {
        required := collected.required ++ (listed.filter Property.required).map fun property =>
          (fieldName property.name, node property.schema)
        optional := collected.optional ++ (listed.filter fun property => !property.required).map
          fun property => (fieldName property.name, node property.schema) } := by
  induction listed generalizing collected with
  | nil => simp [draftProperties]
  | cons first rest inductionHypothesis =>
      rw [List.map_cons, List.nodup_cons] at different
      have firstAbsent := absent first List.mem_cons_self
      have restAbsent : ∀ property ∈ rest,
          fieldName property.name ∉ (collected.add first (node first.schema)).names := by
        intro property isListed isName
        rcases Fields.mem_names_add firstAbsent isName with old | same
        · exact absent property (List.mem_cons_of_mem _ isListed) old
        · exact different.1 (List.mem_map.mpr ⟨property, isListed, same⟩)
      have restDrafted := inductionHypothesis different.2 restAbsent
        fun property later => drafted property (List.mem_cons_of_mem _ later)
      rw [draftProperties, Traced.outcome_bind, drafted first List.mem_cons_self, Outcome.bind_ok,
        restDrafted, Fields.add_of_absent firstAbsent]
      cases required : first.required <;> simp [required]

theorem requiredNames_of_texts
    {schema : List (String × Json)} {names : List String}
    (listed : (Json.member? schema "required").getD (.arr []) = .arr (names.map .str)) :
    requiredNames schema = .ok names := by
  cases found : Json.member? schema "required" with
  | none =>
      rw [found, Option.getD_none] at listed
      have noNames : names = [] := List.map_eq_nil_iff.mp (Json.arr.inj listed).symm
      simp only [requiredNames, found, noNames]
  | some value =>
      rw [found, Option.getD_some] at listed
      simp only [requiredNames, found, listed, elements, Json.elements?, Outcome.bind_ok,
        find?_eq_none_of_keys (isKey_of_mem_texts names), List.filterMap_map]
      exact congrArg Except.ok List.filterMap_some

theorem outcome_objectNode
    {listed : List Property} {fields : Fields} (others : Option Draft)
    (drafted : (draftProperties draft {} listed).outcome = .ok fields) :
    (objectNode draft (.ok (some listed)) others).outcome =
      .ok (ofParts (partsOf fields.required fields.optional others)) := by
  have made : objectParts fields others = .ok (partsOf fields.required fields.optional others) :=
    objectParts_eq fields others
  unfold objectNode
  rw [Traced.ofExcept_ok_bind, Traced.outcome_bind, drafted, Outcome.bind_ok,
    Traced.outcome_ofExcept, made, Outcome.bind_ok, intersectParts_partsOf]

section Object

variable {schema members : List (String × Json)} {names : List String} {node : Json → Draft}

theorem nodup_fieldNames (distinct : (members.map Prod.fst).Nodup) :
    (members.map fun member => fieldName member.1).Nodup := by
  have apart := distinct.map fun _ _ same => fieldName_injective same
  rwa [List.map_map] at apart

theorem outcome_draftProperties_members
    (names : List String) (distinct : (members.map Prod.fst).Nodup)
    (drafted : ∀ member ∈ members, (draft member.2).outcome = .ok (node member.2)) :
    (draftProperties draft {} (members.map fun member =>
        ⟨member.1, member.2, names.contains member.1⟩)).outcome =
      .ok {
        required := fieldsWhere names.contains node members
        optional := fieldsWhere (fun name => !names.contains name) node members } := by
  rw [outcome_draftProperties]
  · simp only [List.filter_map, List.map_map]
    rfl
  · rw [List.map_map]
    exact nodup_fieldNames distinct
  · exact fun _ _ => List.not_mem_nil
  · intro property isListed
    obtain ⟨member, isMember, rfl⟩ := List.mem_map.mp isListed
    exact drafted member isMember

/-- What an object with properties is drafted as, if its subschemas are drafted as the given nodes. -/
theorem outcome_assemble_ofObject
    (found : Json.member? schema "properties" = some (.obj members))
    (distinct : (members.map Prod.fst).Nodup)
    (listed : (Json.member? schema "required").getD (.arr []) = .arr (names.map .str))
    (drafted : ∀ member ∈ members, (draft member.2).outcome = .ok (node member.2)) :
    (assemble draft (ofObject schema)).outcome =
      (draftOthers draft schema).map fun others =>
        ofParts (partsOf (fieldsWhere names.contains node members)
          (fieldsWhere (fun name => !names.contains name) node members) others) := by
  have asProperties : properties schema =
      .ok (some (members.map fun member => ⟨member.1, member.2, names.contains member.1⟩)) := by
    simp [properties, found, requiredNames_of_texts listed, pure, Except.pure]
  have made := fun others =>
    outcome_objectNode others (outcome_draftProperties_members names distinct drafted)
  have object : ofObject schema = .object (othersSchema? schema) (properties schema) := rfl
  rw [object, asProperties, draftOthers]
  cases othersSchema? schema with
  | none => exact made none
  | some others =>
      rw [assemble, Traced.outcome_bind]
      cases drafted : (draft others).outcome with
      | error failure => simp only [drafted, Outcome.bind_error, Except.map]
      | ok inner => simpa only [drafted, Outcome.bind_ok, Except.map] using made (some inner)

theorem perm_fieldsWhere (names : List String) :
    (fieldsWhere names.contains node members ++
        fieldsWhere (fun name => !names.contains name) node members).Perm
      (members.map fun member => (fieldName member.1, node member.2)) := by
  rw [fieldsWhere, fieldsWhere, ← List.map_append]
  exact (List.filter_append_perm (fun member => names.contains member.1) members).map _

theorem arity_ofParts {required optional : List (String × Draft)} {others : Option Draft}
    {parts : List Draft}
    (isIntersection : ofParts (partsOf required optional others) = .group .intersection parts) :
    Construction.intersectionArity.1 ≤ parts.length ∧
      parts.length ≤ Construction.intersectionArity.2 := by
  cases required <;> cases optional <;> cases others <;> cases isIntersection <;>
    simp [Construction.intersectionArity]

/-- Every property of an object has exactly one field with the node of its subschema, among the
required ones if it is listed as required and among the optional ones otherwise, both in the order of
the properties. Different properties have different fields, and no more parts are made of them than an
intersection can have. -/
theorem one_field_for_each_property {root : Json}
    (found : Json.member? schema "properties" = some (.obj members))
    (distinct : (members.map Prod.fst).Nodup)
    (listed : (Json.member? schema "required").getD (.arr []) = .arr (names.map .str))
    (drafted : ∀ member ∈ members, (root.draft member.2).outcome = .ok (node member.2)) :
    let required := fieldsWhere names.contains node members
    let optional := fieldsWhere (fun name => !names.contains name) node members
    (assemble root.draft (ofObject schema)).outcome =
        ((draftOthers root.draft schema).map fun others =>
          ofParts (partsOf required optional others)) ∧
      (required ++ optional).Perm (members.map fun member => (fieldName member.1, node member.2)) ∧
      ((required ++ optional).map Prod.fst).Nodup ∧
      (∀ name other, fieldName name = fieldName other → name = other) ∧
      ∀ others parts, ofParts (partsOf required optional others) = .group .intersection parts →
        Construction.intersectionArity.1 ≤ parts.length ∧
          parts.length ≤ Construction.intersectionArity.2 := by
  intro required optional
  have all : (required ++ optional).Perm
      (members.map fun member => (fieldName member.1, node member.2)) := perm_fieldsWhere names
  refine ⟨outcome_assemble_ofObject found distinct listed drafted, all, ?_, ?_, ?_⟩
  · rw [(all.map Prod.fst).nodup_iff, List.map_map]
    exact nodup_fieldNames distinct
  · exact fun _ _ same => fieldName_injective same
  · exact fun _ _ isIntersection => arity_ofParts isIntersection

end Object

/-- The properties of an object: an identifier, its quoted form, and a name with a backslash. -/
def quotedProperties : List (String × Json) :=
  [("a", .bool true), ("\"a\"", .bool false), ("a\\", .bool true)]

def quotedObject : List (String × Json) :=
  [("properties", .obj quotedProperties), ("required", .arr [.str "a\\", .str "a"]),
    ("additionalProperties", .obj [])]

theorem one_field_for_each_quotedProperty :
    Json.member? quotedObject "properties" = some (.obj quotedProperties) ∧
      (quotedProperties.map Prod.fst).Nodup ∧
      (Json.member? quotedObject "required").getD (.arr []) = .arr (["a\\", "a"].map .str) ∧
      (assemble (Json.obj quotedObject).draft (ofObject quotedObject)).outcome =
        .ok (.group .intersection
          [.fields .required [("a", .primitive .unknown), ("\"a\\\\\"", .primitive .unknown)],
            .fields .optional [("\"\\\"a\\\"\"", .primitive .never)],
            .container .record (.primitive .unknown)]) := by
  have found : Json.member? quotedObject "properties" = some (.obj quotedProperties) := rfl
  have distinct : (quotedProperties.map Prod.fst).Nodup := by decide
  have listed : (Json.member? quotedObject "required").getD (.arr []) =
      .arr (["a\\", "a"].map .str) := rfl
  let node : Json → Draft := fun schema => .primitive (if schema.isTruthy then .unknown else .never)
  have drafted : ∀ member ∈ quotedProperties,
      ((Json.obj quotedObject).draft member.2).outcome = .ok (node member.2) := by
    intro member isMember
    simp only [quotedProperties, List.mem_cons, List.not_mem_nil, or_false] at isMember
    rcases isMember with rfl | rfl | rfl <;> rfl
  exact ⟨found, distinct, listed, (one_field_for_each_property found distinct listed drafted).1⟩

end SchemaSignature.Form
