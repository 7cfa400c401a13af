import SchemaSignature.Proofs.Document.AlikeSessions
import SchemaSignature.Proofs.Document.Failures
import SchemaSignature.Proofs.Document.ReorderedDrafts
import SchemaSignature.Proofs.Document.ReorderedSupport

/-!
Sessions of a document and of a reordered one. The order of keys matters inside `properties` only,
where it is the order of fields: the renderings have the same texts, the same ones fail, and the namer
counts and declares the same, provided that listed values are listed in an array.
-/

namespace SchemaSignature

namespace Json

mutual

/-- Everything under a key `enum` is an array. -/
def ListsEnums : Json → Prop
  | .arr items => ListsEnumsOfItems items
  | .obj members => ListsEnumsOfMembers members
  | _ => True

def ListsEnumsOfItems : List Json → Prop
  | [] => True
  | item :: rest => item.ListsEnums ∧ ListsEnumsOfItems rest

def ListsEnumsOfMembers : List (String × Json) → Prop
  | [] => True
  | (key, value) :: rest =>
      (key = "enum" → value.kind = .arr) ∧ value.ListsEnums ∧ ListsEnumsOfMembers rest

end

theorem listsEnums_of_mem_items
    {items : List Json} (lists : ListsEnumsOfItems items) {item : Json} (isItem : item ∈ items) :
    item.ListsEnums := by
  induction items with
  | nil => cases isItem
  | cons first rest inductionHypothesis =>
      rcases List.mem_cons.mp isItem with isFirst | later
      · exact isFirst ▸ lists.1
      · exact inductionHypothesis lists.2 later

theorem listsEnums_of_mem_members
    {members : List (String × Json)} (lists : ListsEnumsOfMembers members) {key : String}
    {value : Json} (isMember : (key, value) ∈ members) :
    (key = "enum" → value.kind = .arr) ∧ value.ListsEnums := by
  induction members with
  | nil => cases isMember
  | cons first rest inductionHypothesis =>
      obtain ⟨firstKey, firstValue⟩ := first
      rcases List.mem_cons.mp isMember with isFirst | later
      · cases isFirst
        exact ⟨lists.1, lists.2.1⟩
      · exact inductionHypothesis lists.2.2 later

theorem hereditary_listsEnums : Hereditary ListsEnums where
  text _ := trivial
  item isItem lists := listsEnums_of_mem_items lists isItem
  member isMember lists := (listsEnums_of_mem_members lists isMember).2

mutual

/-- Nothing has to be reordered. -/
theorem Reordered.refl : (value : Json) → value.Reordered value
  | .null | .bool _ | .int _ | .float _ | .str _ => .atom rfl
  | .arr items => .array (ReorderedItems.refl items)
  | .obj members => .object (ReorderedMembers.refl members) (.refl members)

theorem ReorderedItems.refl : (items : List Json) → ReorderedItems items items
  | [] => .nil
  | item :: rest => .cons (Reordered.refl item) (ReorderedItems.refl rest)

theorem ReorderedMembers.refl : (members : List (String × Json)) → ReorderedMembers members members
  | [] => .nil
  | (key, value) :: rest => .cons (ReorderedUnder.refl key value) (ReorderedMembers.refl rest)

theorem ReorderedUnder.refl (key : String) : (value : Json) → ReorderedUnder key value value
  | .obj members => by
      by_cases isProperties : key = "properties"
      · rw [isProperties]
        exact .properties (ReorderedMembers.refl members)
      · have sameMembers := ReorderedMembers.refl members
        exact .free (fun same => absurd same isProperties) (.object sameMembers (.refl members))
  | .arr items => .free (fun _ _ => by simp) (.array (ReorderedItems.refl items))
  | .null | .bool _ | .int _ | .float _ | .str _ => .free (fun _ _ => by simp) (.atom rfl)

end

end Json

namespace Document

/-- The values that a schema lists are listed in an array, for every schema that is drafted. -/
def EnumsListed (root : Json) : Prop :=
  ∀ keywords value, Reached root (.obj keywords) → Json.member? keywords "enum" = some value →
    ∃ items, value = .arr items

theorem enumsListed_of_listsEnums {root : Json} (lists : root.ListsEnums) : EnumsListed root := by
  intro keywords value reached found
  have reachedLists := Json.hereditary_listsEnums.of_reached lists reached
  have isArray := (Json.listsEnums_of_mem_members reachedLists (Json.mem_of_member? found)).1 rfl
  cases value with
  | arr items => exact ⟨items, rfl⟩
  | _ => cases isArray

theorem outcome_draft_text (root : Json) (text : String) :
    ∃ failure, (root.draft (.str text)).outcome = .error failure := by
  refine ⟨.notASchema .str, ?_⟩
  rw [Json.draft_eq]
  rfl

section Reordering

variable {root other : Json} (document : root.Reordered other) (distinct : root.DistinctKeys)
  (enumsListed : EnumsListed root)

include document distinct enumsListed

/-- A schema that is drafted and a reordered one have drafts that are written alike. -/
theorem draft_reordered
    {schema otherSchema : Json} (reached : Reached root schema)
    (reordered : schema.Reordered otherSchema) :
    Form.AgreeAlike (root.draft schema).outcome (other.draft otherSchema).outcome := by
  induction schema using Json.descent_induction root generalizing otherSchema with
  | step schema inductionHypothesis =>
      have schemaDistinct := Json.hereditary_distinctKeys.of_reached distinct reached
      have forms := Form.form_reordered document distinct reordered schemaDistinct
        fun keywords value same => enumsListed keywords value (same ▸ reached)
      rw [Json.draft_eq, Json.draft_eq]
      refine Form.assemble_alike _ forms ⟨?_, outcome_draft_text root, outcome_draft_text other⟩
      intro subschema isPart otherSubschema related
      exact inductionHypothesis subschema isPart (reached.part isPart) related

theorem standAlike_reordered : StandAlike (IsMet root) (body root) (body other) where
  closed _ _ met stands _ isKey := isMet_of_body met stands isKey
  stands := by
    rintro reference ⟨schema, reached, refers⟩
    unfold body
    rcases (Pointer.resolve_reordered document distinct reference).outcomes with
      ⟨_, _, failed, otherFailed⟩ | ⟨value, otherValue, resolved, otherResolved, related⟩
    · rw [failed, otherFailed]
      exact .failed _ _
    · rw [resolved, otherResolved]
      exact draft_reordered document distinct enumsListed (reached.target refers resolved) related

end Reordering

/-- A choice whose discriminator maps two tags to one definition. -/
def twiceMapped (mapping : List (String × Json)) : Json :=
  .obj [("oneOf", .arr [.obj [("$ref", .str "#/$defs/A")], .obj [("type", .str "null")]]),
    ("discriminator", .obj [("propertyName", .str "kind"), ("mapping", .obj mapping)]),
    ("$defs", .obj [("A", .obj [("enum", .arr [.str "a", .str "b"])])])]

end Document

end SchemaSignature
