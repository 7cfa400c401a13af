import SchemaSignature.Document.MetaSchema

/-!
What the rules of the keywords say about values on which there are no reports. A schema without
reports has a value of the right shape under each keyword with a rule, and its subschemas are without
reports in turn.
-/

namespace SchemaSignature.Document

/-- A schema has the right shape. -/
def Shaped (schema : Json) : Prop :=
  ∃ path, reportsOn .schema path schema = []

section Rules

variable {path : List String} {value : Json}

theorem exists_text_of_reportsOn (unreported : reportsOn .text path value = []) :
    ∃ text, value = .str text := by
  cases value with
  | str text => exact ⟨text, rfl⟩
  | _ => cases unreported

theorem isText_of_textItemReports
    {place : Nat} {items : List Json} (unreported : textItemReports path place items = []) :
    ∀ item ∈ items, ∃ text, item = .str text := by
  induction items generalizing place with
  | nil =>
      intro item isItem
      cases isItem
  | cons first rest inductionHypothesis =>
      obtain ⟨firstUnreported, restUnreported⟩ := List.append_eq_nil_iff.mp unreported
      intro item isItem
      rcases List.mem_cons.mp isItem with isFirst | later
      · rw [isFirst]
        cases first with
        | str text => exact ⟨text, rfl⟩
        | _ => cases firstUnreported
      · exact inductionHypothesis restUnreported item later

theorem exists_names_of_reportsOn (unreported : reportsOn .names path value = []) :
    ∃ items, value = .arr items ∧ ∀ item ∈ items, ∃ text, item = .str text := by
  cases value with
  | arr items =>
      have unfolded : reportsOn .names path (.arr items) = nameReports path (.arr items) := rfl
      rw [unfolded, nameReports] at unreported
      exact ⟨items, rfl, isText_of_textItemReports (List.append_eq_nil_iff.mp unreported).1⟩
  | _ => cases unreported

theorem namesTypes_of_reportsOn (unreported : reportsOn .types path value = []) :
    namesTypes value = true := by
  have unfolded : reportsOn .types path value =
      if namesTypes value then [] else noShape path .types value := by
    cases value <;> rfl
  rw [unfolded] at unreported
  split at unreported
  · next names => exact names
  · cases unreported

theorem shaped_of_schemaItemReports
    {place : Nat} {items : List Json} (unreported : schemaItemReports path place items = []) :
    ∀ item ∈ items, Shaped item := by
  induction items generalizing place with
  | nil =>
      intro item isItem
      cases isItem
  | cons first rest inductionHypothesis =>
      rw [schemaItemReports] at unreported
      obtain ⟨firstUnreported, restUnreported⟩ := List.append_eq_nil_iff.mp unreported
      intro item isItem
      rcases List.mem_cons.mp isItem with isFirst | later
      · exact isFirst ▸ ⟨_, firstUnreported⟩
      · exact inductionHypothesis restUnreported item later

theorem exists_schemas_of_reportsOn (unreported : reportsOn .schemas path value = []) :
    ∃ items, value = .arr items ∧ items ≠ [] ∧ ∀ item ∈ items, Shaped item := by
  cases value with
  | arr items =>
      rw [reportsOn] at unreported
      obtain ⟨present, itemsUnreported⟩ := List.append_eq_nil_iff.mp unreported
      refine ⟨items, rfl, ?_, shaped_of_schemaItemReports itemsUnreported⟩
      rintro rfl
      cases present
  | _ => cases unreported

theorem shaped_or_schemas_of_reportsOn (unreported : reportsOn .schemaOrSchemas path value = []) :
    Shaped value ∨ ∃ items, value = .arr items ∧ items ≠ [] ∧ ∀ item ∈ items, Shaped item := by
  cases value with
  | arr items =>
      right
      rw [reportsOn] at unreported
      split at unreported
      · next shaped =>
          rw [Bool.and_eq_true] at shaped
          refine ⟨items, rfl, ?_, shaped_of_schemaItemReports (List.isEmpty_iff.mp shaped.2)⟩
          rintro rfl
          cases shaped.1
      · cases unreported
  | obj members =>
      left
      have unfolded : reportsOn .schemaOrSchemas path (.obj members) =
          if (inRuleOrder (keywordReports path members)).isEmpty then []
          else noShape path .schemaOrSchemas (.obj members) := rfl
      rw [unfolded] at unreported
      split at unreported
      · next shaped => exact ⟨path, List.isEmpty_iff.mp shaped⟩
      · cases unreported
  | bool value => exact Or.inl ⟨path, rfl⟩
  | _ => cases unreported

theorem shaped_of_entryReports
    {members : List (String × Json)} (unreported : entryReports .schema path members = []) :
    ∀ member ∈ members, Shaped member.2 := by
  induction members with
  | nil =>
      intro member isMember
      cases isMember
  | cons first rest inductionHypothesis =>
      obtain ⟨key, value⟩ := first
      rw [entryReports] at unreported
      obtain ⟨firstUnreported, restUnreported⟩ := List.append_eq_nil_iff.mp unreported
      intro member isMember
      rcases List.mem_cons.mp isMember with isFirst | later
      · exact isFirst ▸ ⟨_, firstUnreported⟩
      · exact inductionHypothesis restUnreported member later

theorem exists_table_of_reportsOn (unreported : reportsOn .schemaTable path value = []) :
    ∃ members, value = .obj members ∧ ∀ member ∈ members, Shaped member.2 := by
  cases value with
  | obj members =>
      rw [reportsOn] at unreported
      exact ⟨members, rfl, shaped_of_entryReports unreported⟩
  | _ => cases unreported

end Rules

/-! ## Keywords -/

theorem lookup_keywordReports (path : List String) (members : List (String × Json)) (keyword : String) :
    (keywordReports path members).lookup keyword =
      (Json.member? members keyword).map fun value =>
        reportsOn (ruleOf keyword) (path ++ [keyword]) value := by
  induction members with
  | nil => rfl
  | cons first rest inductionHypothesis =>
      obtain ⟨key, value⟩ := first
      rw [keywordReports, List.lookup_cons, Json.member?, List.lookup_cons]
      by_cases same : keyword = key
      · rw [same, beq_self_eq_true]
        rfl
      · rw [beq_false_of_ne same]
        exact inductionHypothesis

/-- The value of a keyword with a rule is without reports in a schema of the right shape. -/
theorem Shaped.reportsOn_member
    {schema : List (String × Json)} (shaped : Shaped (.obj schema)) {keyword : String}
    {value : Json} (found : Json.member? schema keyword = some value) (rule : Rule)
    (ruled : keywordRules.lookup keyword = some rule) :
    ∃ path, reportsOn rule path value = [] := by
  obtain ⟨path, unreported⟩ := shaped
  rw [reportsOn, inRuleOrder] at unreported
  have isRuled : (keyword, rule) ∈ keywordRules := by
    obtain ⟨before, after, same, _⟩ := List.lookup_eq_some_iff.mp ruled
    rw [same]
    exact List.mem_append_right _ List.mem_cons_self
  have ownReports := List.flatMap_eq_nil_iff.mp unreported _ isRuled
  rw [lookup_keywordReports, found] at ownReports
  have rule_eq : ruleOf keyword = rule := by
    rw [ruleOf, ruled, Option.getD_some]
  rw [rule_eq] at ownReports
  exact ⟨path ++ [keyword], ownReports⟩

theorem Shaped.isSchema {schema : Json} (shaped : Shaped schema) :
    (∃ value, schema = .bool value) ∨ ∃ keywords, schema = .obj keywords := by
  obtain ⟨path, unreported⟩ := shaped
  cases schema with
  | bool value => exact Or.inl ⟨value, rfl⟩
  | obj keywords => exact Or.inr ⟨keywords, rfl⟩
  | _ => cases unreported

end SchemaSignature.Document
