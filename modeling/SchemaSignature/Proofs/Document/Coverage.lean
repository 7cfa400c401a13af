import SchemaSignature.Proofs.Document.Acceptance
import SchemaSignature.Proofs.Document.Declarations
import SchemaSignature.Proofs.Document.Failures

/-!
What the check of a document is worth. Whether a document can be rendered depends on the faults of the
schemas that are drafted for it. The check finds those of the schemas that it sees, except for a few
keywords that it does not look at.
-/

namespace SchemaSignature.Document

/-- A schema is seen by both parts of the check: it is the document, a subschema of a schema that is
seen, or one of its definitions. What stands under `prefixItems` is not seen by the first part. -/
inductive Seen (root : Json) : Json → Prop where
  | document : Seen root root
  | part {keywords : List (String × Json)} {subschema : Json}
      (seen : Seen root (.obj keywords))
      (noPrefix : Json.member? keywords "prefixItems" = none)
      (held : Form.Holds keywords subschema) :
      Seen root subschema
  | definition {keywords members : List (String × Json)} {key : String} {value : Json}
      (seen : Seen root (.obj keywords))
      (found : Json.member? keywords "definitions" = some (.obj members))
      (isMember : (key, value) ∈ members) :
      Seen root value

/-- The keywords of a schema that the check does not look at. -/
inductive Unchecked (schema : List (String × Json)) : Prop where
  | gap (gap : Gap schema)
  | prefixItems {value : Json} (found : Json.member? schema "prefixItems" = some value)
  | discriminator {value : Json} (found : Json.member? schema "discriminator" = some value)

variable {root : Json}

theorem passes_of_seen
    (accepted : check root = .ok []) {schema : Json} (seen : Seen root schema) :
    Passes root schema := by
  induction seen with
  | document => exact passes_of_check accepted
  | part _ noPrefix held inductionHypothesis =>
      exact inductionHypothesis.of_holds noPrefix held
  | definition _ found isMember inductionHypothesis =>
      obtain ⟨members, isTable, each⟩ := inductionHypothesis.of_definition found
      cases isTable
      exact each _ isMember

/-- A schema that the check has seen has a fault only in keywords that it does not look at. -/
theorem unchecked_of_fault
    (accepted : check root = .ok []) {schema : Json} (seen : Seen root schema) {failure : Failure}
    (faulty : (root.form schema).fault? = some failure) :
    ∃ keywords, schema = .obj keywords ∧ Unchecked keywords := by
  have passes := passes_of_seen accepted seen
  rcases passes.shaped.isSchema with ⟨value, rfl⟩ | ⟨keywords, rfl⟩
  · cases value <;> cases faulty
  · refine ⟨keywords, rfl, ?_⟩
    cases prefixed : Json.member? keywords "prefixItems" with
    | some value => exact .prefixItems prefixed
    | none =>
        cases discriminated : Json.member? keywords "discriminator" with
        | some value => exact .discriminator discriminated
        | none => exact .gap (passes.dueToGap prefixed discriminated failure faulty).2

/-- A document whose first rendering is a signature is drafted without faults, the targets of all its
references included. -/
theorem faultless_of_succeeds
    (distinct : root.DistinctKeys) {namer : Namer} {bind : Bool}
    (succeeds : (session root namer bind 1).Succeeds 1) {schema : Json}
    (reached : Reached root schema) : (root.form schema).fault? = none := by
  obtain ⟨signatures, length, rendered⟩ := succeeds
  obtain ⟨signature, rfl⟩ := List.length_eq_one_iff.mp length
  obtain ⟨node, after, drafted, renders, _⟩ := exists_renders_of_renderings rendered
  cases renders with
  | signature visited _ =>
      obtain ⟨appearances, heads, follows, _⟩ := visited.exists_appearances
      obtain ⟨host, hostNode, within, _, hostDrafted, _⟩ :=
        exists_host_of_reached drafted heads follows distinct reached
      exact fault_eq_none_of_draft_ok hostDrafted within

/-- A document whose schemas are free of faults is rendered any number of times. -/
theorem succeeds_of_faultless
    {namer : Namer} (room : namer.count + root.references.length < Nat.pow 10 Number.digitLimit)
    (faultless : ∀ schema, Reached root schema → (root.form schema).fault? = none)
    (bind : Bool) (count : Nat) : (session root namer bind count).Succeeds count := by
  rw [succeeds_iff]
  intro failure failed
  rcases cause_of_failsWith failed with ⟨schema, reached, faulty⟩ | ⟨_, long⟩
  · rw [faultless schema reached] at faulty
    cases faulty
  · exact absurd room (Nat.not_lt_of_le long)

end SchemaSignature.Document
