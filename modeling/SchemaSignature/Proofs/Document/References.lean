import SchemaSignature.Document.Session
import SchemaSignature.Proofs.Document.Drafts
import SchemaSignature.Proofs.Document.Heredity

/-!
The references of a document are finitely many. Whatever is drafted stands in the document, a part of
it or a value that a pointer leads to, so that its references are among those of the document.
-/

namespace SchemaSignature

namespace Json

theorem references_of_isKey {value : Json} (isKey : value.isKey = true) : value.references = [] := by
  cases value with
  | arr items => cases isKey
  | obj members => cases isKey
  | _ => rfl

theorem mem_referencesOfItems_iff {reference : String} {items : List Json} :
    reference ∈ referencesOfItems items ↔ ∃ item ∈ items, reference ∈ item.references := by
  induction items with
  | nil => simp [referencesOfItems]
  | cons first rest inductionHypothesis => simp [referencesOfItems, inductionHypothesis]

theorem references_subset_of_mem_items {item : Json} {items : List Json} (isItem : item ∈ items) :
    item.references ⊆ (Json.arr items).references := by
  intro reference isReference
  rw [references]
  exact mem_referencesOfItems_iff.mpr ⟨item, isItem, isReference⟩

/-- The first member is a reference with a text, or its references are those of its value. -/
theorem referencesOfMembers_cases (key : String) (value : Json) (rest : List (String × Json)) :
    (∃ target, key = "$ref" ∧ value = .str target ∧
        referencesOfMembers ((key, value) :: rest) = target :: referencesOfMembers rest) ∨
      (∀ target, (key, value) ≠ ("$ref", .str target)) ∧
        referencesOfMembers ((key, value) :: rest) =
          value.references ++ referencesOfMembers rest := by
  by_cases isReference : ∃ target, key = "$ref" ∧ value = .str target
  · obtain ⟨target, rfl, rfl⟩ := isReference
    exact Or.inl ⟨target, rfl, rfl, by rw [referencesOfMembers, List.singleton_append]⟩
  · refine Or.inr ⟨fun target same => isReference ⟨target, Prod.mk.inj same⟩, ?_⟩
    rw [referencesOfMembers]
    intro target isKey isText
    exact isReference ⟨target, isKey, isText⟩

/-- The references in a member whose key is no reference are those in its value. -/
theorem referencesOfMembers_singleton {key : String} (notReference : key ≠ "$ref") (value : Json) :
    referencesOfMembers [(key, value)] = value.references := by
  rcases referencesOfMembers_cases key value [] with ⟨_, isReference, _⟩ | ⟨_, unfolded⟩
  · exact absurd isReference notReference
  · rw [unfolded, referencesOfMembers, List.append_nil]

/-- The references of the first member stand before the others; its text is one of them if it is a
reference itself. -/
theorem referencesOfMembers_cons (member : String × Json) (rest : List (String × Json)) :
    ∃ first, referencesOfMembers (member :: rest) = first ++ referencesOfMembers rest ∧
      member.2.references ⊆ first ∧ ∀ target, member = ("$ref", .str target) → target ∈ first := by
  obtain ⟨key, value⟩ := member
  rcases referencesOfMembers_cases key value rest with
    ⟨target, rfl, rfl, unfolded⟩ | ⟨notReference, unfolded⟩
  · refine ⟨[target], unfolded, List.nil_subset _, ?_⟩
    intro other same
    cases same
    exact List.mem_singleton.mpr rfl
  · exact ⟨value.references, unfolded, List.Subset.refl _, fun target same =>
      absurd same (notReference target)⟩

theorem references_subset_of_mem_members
    {key : String} {value : Json} {members : List (String × Json)}
    (isMember : (key, value) ∈ members) :
    value.references ⊆ (Json.obj members).references := by
  rw [references]
  induction members with
  | nil => cases isMember
  | cons head rest inductionHypothesis =>
      obtain ⟨first, unfolded, ofValue, _⟩ := referencesOfMembers_cons head rest
      intro reference isReference
      rw [unfolded]
      rcases List.mem_cons.mp isMember with isFirst | later
      · rw [← isFirst] at ofValue
        exact List.mem_append_left _ (ofValue isReference)
      · exact List.mem_append_right _ (inductionHypothesis later isReference)

theorem mem_references_of_mem_members
    {target : String} {members : List (String × Json)}
    (isMember : ("$ref", Json.str target) ∈ members) :
    target ∈ (Json.obj members).references := by
  rw [references]
  induction members with
  | nil => cases isMember
  | cons head rest inductionHypothesis =>
      obtain ⟨first, unfolded, _, ofText⟩ := referencesOfMembers_cons head rest
      rw [unfolded]
      rcases List.mem_cons.mp isMember with isFirst | later
      · exact List.mem_append_left _ (ofText target isFirst.symm)
      · exact List.mem_append_right _ (inductionHypothesis later)

/-- What a value stands in has its references. -/
theorem hereditary_references (references : List String) :
    Hereditary fun value => value.references ⊆ references where
  text _ := List.nil_subset _
  item isItem holds := List.Subset.trans (references_subset_of_mem_items isItem) holds
  member isMember holds := List.Subset.trans (references_subset_of_mem_members isMember) holds

end Json

namespace Form

/-- Only a schema with the keyword `$ref` consists of a reference, and the reference leads
somewhere. -/
theorem found_of_mem_targets
    {root : Json} {schema : List (String × Json)} {target : String} :
    target ∈ (ofKeywords root schema).targets →
      Json.member? schema "$ref" = some (.str target) ∧
        ∃ value, Pointer.resolve root target = .ok value := by
  apply form_elim (motive := fun form => target ∈ form.targets →
    Json.member? schema "$ref" = some (.str target) ∧
      ∃ value, Pointer.resolve root target = .ok value)
  case reference =>
    intro other value found resolved isTarget
    cases List.mem_singleton.mp isTarget
    exact ⟨found, value, resolved⟩
  case alternatives =>
    intro forms _ each isTarget
    obtain ⟨form, isForm, isTarget⟩ := mem_targetsOfAll_iff.mp isTarget
    exact each form isForm isTarget
  all_goals
    intros
    contradiction

theorem resolves_of_mem_targets
    {root schema : Json} {target : String} (isTarget : target ∈ (root.form schema).targets) :
    target ∈ schema.references ∧ ∃ value, Pointer.resolve root target = .ok value := by
  cases schema with
  | obj keywords =>
      obtain ⟨found, resolves⟩ := found_of_mem_targets isTarget
      have isMember := Json.mem_of_member? found
      exact ⟨Json.mem_references_of_mem_members isMember, resolves⟩
  | bool value => cases value <;> cases isTarget
  | _ => cases isTarget

end Form

namespace Document

/-- The node that a reference stands for: the draft of what it points to. -/
def body (root : Json) (reference : String) : Except Failure (Node String) :=
  match Pointer.resolve root reference with
  | .ok schema => (root.draft schema).outcome
  | .error failure => .error failure

theorem body_eq_ok_iff {root : Json} {reference : String} {node : Node String} :
    body root reference = .ok node ↔
      ∃ schema, Pointer.resolve root reference = .ok schema ∧
        (root.draft schema).outcome = .ok node := by
  unfold body
  cases Pointer.resolve root reference with
  | ok schema => simp
  | error failure => simp

theorem mem_references_of_mem_keys
    {root schema : Json} {node : Node String} (drafted : (root.draft schema).outcome = .ok node)
    {reference : String} (isKey : reference ∈ node.keys) :
    reference ∈ schema.references := by
  obtain ⟨inner, within, refers⟩ := exists_within_of_mem_keys drafted isKey
  have isListed := (Form.resolves_of_mem_targets refers).1
  have among := (Json.hereditary_references schema.references).of_within (List.Subset.refl _) within
  exact among isListed

/-- The references of a document are closed under expansion. -/
theorem mem_references_of_body
    {root : Json} {reference : String} {node : Node String}
    (stands : body root reference = .ok node) {inside : String} (isKey : inside ∈ node.keys) :
    inside ∈ root.references := by
  obtain ⟨schema, resolved, drafted⟩ := body_eq_ok_iff.mp stands
  have isListed := mem_references_of_mem_keys drafted isKey
  have among :=
    (Json.hereditary_references root.references).of_resolve (List.Subset.refl _) resolved
  exact among isListed

/-! ## The references that are met -/

theorem isMet_of_mem_keys
    {root schema : Json} {node : Node String} (reached : Reached root schema)
    (drafted : (root.draft schema).outcome = .ok node) {reference : String}
    (isKey : reference ∈ node.keys) : IsMet root reference := by
  obtain ⟨inner, within, refers⟩ := exists_within_of_mem_keys drafted isKey
  exact ⟨inner, reached.within within, refers⟩

theorem isMet_of_body
    {root : Json} {reference : String} (met : IsMet root reference) {node : Node String}
    (stands : body root reference = .ok node) {inside : String} (isKey : inside ∈ node.keys) :
    IsMet root inside := by
  obtain ⟨schema, reached, refers⟩ := met
  obtain ⟨value, resolved, drafted⟩ := body_eq_ok_iff.mp stands
  have targetReached := reached.target refers resolved
  exact isMet_of_mem_keys targetReached drafted isKey

theorem IsMet.mem_references {root : Json} {reference : String} (met : IsMet root reference) :
    reference ∈ root.references := by
  obtain ⟨schema, reached, refers⟩ := met
  have isListed := (Form.resolves_of_mem_targets refers).1
  have among :=
    (Json.hereditary_references root.references).of_reached (List.Subset.refl _) reached
  exact among isListed

theorem IsMet.exists_reached {root : Json} {reference : String} (met : IsMet root reference) :
    ∃ value, Pointer.resolve root reference = .ok value ∧ Reached root value := by
  obtain ⟨schema, reached, refers⟩ := met
  obtain ⟨value, resolved⟩ := (Form.resolves_of_mem_targets refers).2
  exact ⟨value, resolved, reached.target refers resolved⟩

end Document

end SchemaSignature
