import SchemaSignature.Proofs.Document.Descent
import SchemaSignature.Proofs.Document.RenamedForms

/-!
Documents that differ in the keys of their definitions. One is a relabelling of the other if it has
the same definitions under new keys, as far as references lead to them; in which order, and what else
it defines, does not matter. The forms of corresponding schemas are the same up to the renaming.
-/

namespace SchemaSignature

namespace Document

/-- A schema is reachable if it is the document, stands in a reachable schema, or is what a reference
in one points to. -/
inductive Reachable (root : Json) : Json → Prop where
  | document : Reachable root root
  | part {keywords : List (String × Json)} {part : Json}
      (reachable : Reachable root (.obj keywords)) (held : Form.Holds keywords part) :
      Reachable root part
  | target {keywords : List (String × Json)} {reference : String} {value : Json}
      (reachable : Reachable root (.obj keywords))
      (refers : Json.member? keywords "$ref" = some (.str reference))
      (resolved : Pointer.resolve root reference = .ok value) :
      Reachable root value

/-- A reachable schema is a reference. -/
def Refers (root : Json) (reference : String) : Prop :=
  ∃ keywords, Reachable root (.obj keywords) ∧
    Json.member? keywords "$ref" = some (.str reference)

/-- The discriminator of a reachable schema maps a tag to a reference. -/
def Maps (root : Json) (reference : String) : Prop :=
  ∃ keywords discriminator mapping tag, Reachable root (.obj keywords) ∧
    Json.member? keywords "discriminator" = some (.obj discriminator) ∧
    Json.member? discriminator "mapping" = some (.obj mapping) ∧ (tag, .str reference) ∈ mapping

end Document

/-- The document without its definitions. -/
def Json.withoutDefinitions : Json → Json
  | .obj keywords => .obj (keywords.filter fun keyword => keyword.1 != "$defs")
  | value => value

namespace Document

/-- A document has the definitions of another one that references lead to under renamed keys, and
apart from definitions is the same with its references renamed. All references are spelled as ones to
definitions. -/
structure Relabels (rename : String → String) (root other : Json) : Prop where
  spelled : ∀ reference, Refers root reference → ∃ key, reference = Pointer.definition key
  document : other.withoutDefinitions = root.withoutDefinitions.renamed rename .schema
  definitions : ∀ key, Refers root (Pointer.definition key) →
    other.definition? (rename key) = (root.definition? key).map (Json.renamed rename .schema)

/-- Different keys are renamed differently, if references to their definitions are of a kind. -/
def Apart (rename : String → String) (kind : String → Prop) : Prop :=
  ∀ key other, kind (Pointer.definition key) → kind (Pointer.definition other) →
    rename key = rename other → key = other

/-- A schema of the other document that corresponds to one of a document. -/
inductive Corresponds (rename : String → String) (root other : Json) : Json → Json → Prop where
  | document : Corresponds rename root other root other
  | renamed (schema : Json) : Corresponds rename root other schema (schema.renamed rename .schema)

end Document

theorem Json.member?_filter_ne
    {removed key : String} (different : key ≠ removed) (members : List (String × Json)) :
    member? (members.filter fun member => member.1 != removed) key = member? members key := by
  induction members with
  | nil => rfl
  | cons first rest inductionHypothesis =>
      obtain ⟨name, value⟩ := first
      simp only [member?] at inductionHypothesis ⊢
      by_cases isRemoved : name = removed
      · subst isRemoved
        simp [beq_false_of_ne different, inductionHypothesis, List.lookup_cons]
      · by_cases same : key = name
        · simp [isRemoved, same]
        · simp [isRemoved, beq_false_of_ne same, inductionHypothesis, List.lookup_cons]

namespace Document

variable {rename : String → String} {root other : Json} (relabels : Relabels rename root other)

include relabels

theorem Relabels.exists_alike
    {keywords : List (String × Json)} {schema : Json}
    (corresponds : Corresponds rename root other (.obj keywords) schema) :
    ∃ others, schema = .obj others ∧ Json.Alike rename keywords others := by
  cases corresponds with
  | renamed =>
      rw [Json.renamed_obj]
      exact ⟨_, rfl, Json.alike_renamedMembers keywords⟩
  | document =>
      have same := relabels.document
      rw [Json.withoutDefinitions, Json.renamed_obj] at same
      cases other with
      | obj others =>
          rw [Json.withoutDefinitions] at same
          refine ⟨others, rfl, ?_⟩
          intro key isOther
          rw [← Json.member?_filter_ne isOther others, Json.obj.inj same,
            Json.member?_renamedMembers, Json.member?_filter_ne isOther]
      | _ => cases same

/-- A value that is no object corresponds only to its renamed self. -/
theorem Relabels.eq_renamed
    {schema otherSchema : Json} (notObject : ∀ keywords, schema ≠ .obj keywords)
    (corresponds : Corresponds rename root other schema otherSchema) :
    otherSchema = schema.renamed rename .schema := by
  cases corresponds with
  | renamed => rfl
  | document =>
      have same := relabels.document
      have whole : root.withoutDefinitions = root := by
        cases root with
        | obj keywords => exact absurd rfl (notObject keywords)
        | _ => rfl
      rw [whole] at same
      cases other with
      | obj others =>
          have sameKind := congrArg Json.kind same
          rw [Json.kind_renamed] at sameKind
          cases root with
          | obj keywords => exact absurd rfl (notObject keywords)
          | _ => cases sameKind
      | _ => exact same

variable (keyed : root.KeysDefinitions) (otherKeyed : other.KeysDefinitions)

include keyed otherKeyed

/-- A renamed reference leads to the renamed definition. -/
theorem Relabels.resolve
    {reference : String} (refers : Refers root reference) :
    Outcome.Matches (fun value renamed => renamed = value.renamed rename .schema)
      (Pointer.resolve root reference)
      (Pointer.resolve other (Pointer.renamed rename reference)) := by
  obtain ⟨key, rfl⟩ := relabels.spelled reference refers
  rw [Pointer.renamed_definition, Pointer.resolve_definition keyed,
    Pointer.resolve_definition otherKeyed, relabels.definitions key refers]
  cases root.definition? key with
  | none => exact .failed _ _
  | some value => exact .done rfl

theorem Relabels.ofReference
    {pointer : Json} (refers : ∀ reference, pointer = .str reference → Refers root reference) :
    Form.Renamed rename (Form.ofReference root pointer)
      (Form.ofReference other (pointer.renamed rename .reference)) := by
  unfold Form.ofReference
  rw [Json.isKey_renamed]
  cases pointer with
  | str reference =>
      simp only [Json.isKey, Json.renamed]
      rcases (relabels.resolve keyed otherKeyed (refers reference rfl)).outcomes with
        ⟨_, _, failed, otherFailed⟩ | ⟨value, _, resolved, otherResolved, rfl⟩
      · rw [failed, otherFailed]
        exact .rejected _ _
      · rw [resolved, otherResolved]
        exact .reference reference
  | _ =>
      simp only [Json.isKey, Json.renamed]
      exact .rejected _ _

end Document

end SchemaSignature
