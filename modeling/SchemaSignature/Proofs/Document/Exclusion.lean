import SchemaSignature.Proofs.Document.Acceptance
import SchemaSignature.Proofs.Document.Sessions

/-!
The keywords that the supported subset leaves out. The check walks through the schemas that stand in a
document, and follows references only to see that they lead somewhere. A schema with an excluded
keyword can be drafted for an accepted document, but only within something that a reference leads to
and that the check does not walk through.
-/

namespace SchemaSignature.Document

def HasExcluded (schema : List (String × Json)) : Prop :=
  ∃ keyword ∈ unsupportedKeywords, Json.hasMember schema keyword = true

/-- What the check of the supported subset walks through. -/
inductive Walked (root : Json) : Json → Prop where
  | document : Walked root root
  | member {keywords : List (String × Json)} {members : List Json} {member : Json}
      (walked : Walked root (.obj keywords))
      (isGroup : .ok members ∈ subschemaGroups keywords)
      (isMember : member ∈ members) :
      Walked root member

/-- A reference that is met leads to a value that the check does not walk through. -/
def LeadsOut (root : Json) (reference : String) (value : Json) : Prop :=
  IsMet root reference ∧ Pointer.resolve root reference = .ok value ∧ ¬Walked root value

/-- A reference to the whole document, or to one of the definitions of the document. -/
def IsDefinitionReference (reference : String) : Prop :=
  reference = "#" ∨ ∃ keyword ∈ Pointer.definitionKeywords, ∃ key : String,
    '/' ∉ key.toList ∧ reference = "#/" ++ keyword ++ "/" ++ key

theorem Supported.not_hasExcluded
    {root : Json} {schema : List (String × Json)} (supported : Supported root (.obj schema)) :
    ¬HasExcluded schema := by
  rintro ⟨keyword, isUnsupported, present⟩
  obtain ⟨_, checked, _⟩ := Outcome.bind_eq_ok_iff.mp supported.own
  unfold checkKeywords at checked
  split at checked
  · cases checked
  · next noneFound =>
      have absent := List.find?_eq_none.mp noneFound keyword isUnsupported
      exact absent present

section Accepted

variable {root : Json}

theorem Walked.of_subschema
    {schema subschema : Json} (walked : Walked root schema)
    (isPart : subschema ∈ (root.form schema).subschemas) : Walked root subschema := by
  cases schema with
  | obj keywords =>
      have held := Form.holds_of_mem_subschemas isPart
      obtain ⟨members, isGroup, isMember⟩ := exists_group_of_holds held
      exact walked.member isGroup isMember
  | bool value => cases value <;> cases isPart
  | _ => cases isPart

theorem Walked.of_within
    {schema inner : Json} (walked : Walked root schema) (within : Within root schema inner) :
    Walked root inner := by
  induction within with
  | refl => exact walked
  | part isPart _ inductionHypothesis => exact inductionHypothesis (walked.of_subschema isPart)

theorem Walked.supported
    (accepted : Supported root root) {schema : Json} (walked : Walked root schema) :
    Supported root schema := by
  induction walked with
  | document => exact accepted
  | @member keywords members member _ isGroup isMember inductionHypothesis =>
      obtain ⟨others, opened, each⟩ := inductionHypothesis.of_group isGroup
      cases opened
      exact each member isMember

/-- What a reference to a definition leads to has been checked with the definitions. -/
theorem walked_of_definition
    (accepted : Supported root root) {reference : String}
    (isDefinition : IsDefinitionReference reference) {value : Json}
    (resolved : Pointer.resolve root reference = .ok value) : Walked root value := by
  rcases isDefinition with rfl | ⟨keyword, known, key, onePiece, rfl⟩
  · cases resolved
    exact .document
  · obtain ⟨keywords, definitions, rfl, found, leads⟩ :=
      Pointer.exists_definition_of_resolve known onePiece resolved
    have isGroup : namedSubschemas keywords keyword ∈ subschemaGroups keywords := by
      simp only [Pointer.definitionKeywords, List.mem_cons, List.not_mem_nil, or_false] at known
      rcases known with rfl | rfl <;> simp [subschemaGroups]
    -- An accepted document has a table there, and the groups of the document list its values.
    obtain ⟨listed, opened, _⟩ := accepted.of_group isGroup
    have isTable : ∃ members, definitions = .obj members ∧ listed = members.map (·.2) := by
      unfold namedSubschemas at opened
      rw [found] at opened
      cases definitions with
      | obj members => exact ⟨members, rfl, (Except.ok.inj opened).symm⟩
      | _ => cases opened
    obtain ⟨members, rfl, rfl⟩ := isTable
    obtain ⟨name, isMember⟩ := leads members rfl
    refine Walked.document.member (opened ▸ isGroup) ?_
    exact List.mem_map.mpr ⟨(name, value), isMember, rfl⟩

/-- What is drafted is walked through by the check, or stands in something that a reference leads to
and the check does not walk through. -/
theorem walked_or_leadsOut {schema : Json} (reached : Reached root schema) :
    Walked root schema ∨
      ∃ reference value, LeadsOut root reference value ∧ Within root value schema := by
  induction reached with
  | document => exact Or.inl .document
  | part _ isPart inductionHypothesis =>
      rcases inductionHypothesis with walked | ⟨reference, value, out, within⟩
      · exact Or.inl (walked.of_subschema isPart)
      · exact Or.inr ⟨reference, value, out, within.snoc isPart⟩
  | @target schema value reference reached refers resolved _ =>
      by_cases walked : Walked root value
      · exact Or.inl walked
      · have met : IsMet root reference := ⟨schema, reached, refers⟩
        exact Or.inr ⟨reference, value, ⟨met, resolved, walked⟩, .refl value⟩

/-- The excluded keywords and an accepted document: nothing that the check walks through has one of
them; a schema that has one is drafted exactly if it stands in something that a reference leads to
outside of what is walked through; and references to the document and its definitions do not lead
there. -/
theorem reached_hasExcluded_iff (accepted : Supported root root) :
    (∀ keywords, Walked root (.obj keywords) → ¬HasExcluded keywords) ∧
      (∀ keywords, HasExcluded keywords →
        (Reached root (.obj keywords) ↔
          ∃ reference value, LeadsOut root reference value ∧
            Within root value (.obj keywords))) ∧
      ∀ reference value, LeadsOut root reference value → ¬IsDefinitionReference reference := by
  refine ⟨?_, ?_, ?_⟩
  · intro keywords walked
    exact (walked.supported accepted).not_hasExcluded
  · intro keywords excluded
    constructor
    · intro reached
      rcases walked_or_leadsOut reached with walked | outside
      · exact absurd excluded (walked.supported accepted).not_hasExcluded
      · exact outside
    · rintro ⟨reference, value, ⟨met, resolved, _⟩, within⟩
      obtain ⟨schema, reached, refers⟩ := met
      have targetReached := reached.target refers resolved
      exact targetReached.within within
  · rintro reference value ⟨_, resolved, outside⟩ isDefinition
    exact outside (walked_of_definition accepted isDefinition resolved)

end Accepted

/-! ## A document whose check misses an excluded keyword -/

def negation : List (String × Json) :=
  [("type", .str "string"), ("not", .obj [("const", .str "x")])]

/-- A document that consists of a reference to a schema with an excluded keyword. The schema stands
under none of the keywords that the check walks through. -/
def outlyingNegation : Json :=
  .obj [("$ref", .str "#/components/schemas/A"),
    ("components", .obj [("schemas", .obj [("A", .obj negation)])])]

theorem resolve_outlyingNegation :
    Pointer.resolve outlyingNegation "#/components/schemas/A" = .ok (.obj negation) := by
  rfl

theorem supported_outlyingNegation : Supported outlyingNegation outlyingNegation := by
  rfl

theorem hasExcluded_negation : HasExcluded negation :=
  ⟨"not", by decide, rfl⟩

/-- The walk ends at the document itself: it has none of the keywords that lead on. -/
theorem walked_outlyingNegation {schema : Json} (walked : Walked outlyingNegation schema) :
    schema = outlyingNegation := by
  induction walked with
  | document => rfl
  | @member keywords members member _ isGroup isMember inductionHypothesis =>
      cases inductionHypothesis
      change Except.ok members ∈ List.replicate 9 (.ok []) at isGroup
      cases List.eq_of_mem_replicate isGroup
      cases isMember

theorem leadsOut_negation :
    LeadsOut outlyingNegation "#/components/schemas/A" (.obj negation) := by
  have refers : "#/components/schemas/A" ∈ (outlyingNegation.form outlyingNegation).targets :=
    List.mem_singleton.mpr rfl
  refine ⟨⟨outlyingNegation, .document, refers⟩, resolve_outlyingNegation, ?_⟩
  intro walked
  have same := walked_outlyingNegation walked
  simp [outlyingNegation, negation] at same

/-- The check accepts a document although a schema with an excluded keyword is drafted for it, and
rendered without an error. -/
theorem supported_and_drafts_negation :
    Supported outlyingNegation outlyingNegation ∧
      Reached outlyingNegation (.obj negation) ∧ HasExcluded negation ∧
      (session outlyingNegation Namer.standard true 1).renderings =
        .ok [.ok (.primitive .string)] ∧
      (session outlyingNegation Namer.standard true 1).namer.declarations =
        [("$Ref1", .primitive .string)] := by
  obtain ⟨⟨_, reached, refers⟩, resolved, _⟩ := leadsOut_negation
  refine ⟨supported_outlyingNegation, reached.target refers resolved, hasExcluded_negation, ?_, ?_⟩
  · rfl
  · rfl

theorem reached_hasExcluded_iff_negation :
    Supported outlyingNegation outlyingNegation ∧
      (∀ keywords, Walked outlyingNegation (.obj keywords) → ¬HasExcluded keywords) ∧
      (∀ keywords, HasExcluded keywords →
        (Reached outlyingNegation (.obj keywords) ↔
          ∃ reference value, LeadsOut outlyingNegation reference value ∧
            Within outlyingNegation value (.obj keywords))) ∧
      ∀ reference value, LeadsOut outlyingNegation reference value →
        ¬IsDefinitionReference reference :=
  ⟨supported_outlyingNegation, reached_hasExcluded_iff supported_outlyingNegation⟩

end SchemaSignature.Document
