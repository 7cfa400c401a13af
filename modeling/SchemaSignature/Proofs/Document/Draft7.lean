import SchemaSignature.Proofs.Document.Acceptance
import SchemaSignature.Proofs.Document.Failures

/-!
Documents of Draft 7 that pass the check. Everything that is drafted for such a document passes the
check as well, because its references lead to the document or to one of its definitions, which the
check has seen. So all that can go wrong is what the check does not look at.
-/

namespace SchemaSignature.Document

/-- What is drafted for a document keeps to the keywords of Draft 7, and refers to the whole document
or to one of its definitions only. -/
structure IsDraft7 (root : Json) : Prop where
  noPrefix : ∀ keywords, Reached root (.obj keywords) →
    Json.member? keywords "prefixItems" = none
  noDiscriminator : ∀ keywords, Reached root (.obj keywords) →
    Json.member? keywords "discriminator" = none
  references : ∀ keywords reference, Reached root (.obj keywords) →
    Json.member? keywords "$ref" = some (.str reference) → IsDraft7Reference reference

section Accepted

variable {root : Json} (accepted : check root = .ok []) (isDraft7 : IsDraft7 root)

include accepted isDraft7

theorem passes_of_reached {schema : Json} (reached : Reached root schema) : Passes root schema := by
  induction reached with
  | document => exact passes_of_check accepted
  | @part schema subschema reached isPart inductionHypothesis =>
      cases schema with
      | obj keywords =>
          exact inductionHypothesis.of_holds (isDraft7.noPrefix keywords reached)
            (Form.holds_of_mem_subschemas isPart)
      | bool value => cases value <;> cases isPart
      | _ => cases isPart
  | @target schema value reference reached refers resolved _ =>
      -- What the reference points to was seen as a definition, wherever the reference stands.
      cases schema with
      | obj keywords =>
          have found := (Form.found_of_mem_targets refers).1
          exact (passes_of_check accepted).of_resolve
            (isDraft7.references keywords reference reached found) resolved
      | bool value => cases value <;> cases refers
      | _ => cases refers

/-- A fault of something that is drafted is an invalid value, and due to a gap of the check. -/
theorem gap_of_fault
    {schema : Json} (reached : Reached root schema) {failure : Failure}
    (faulty : (root.form schema).fault? = some failure) :
    failure.category = .invalidValue ∧
      ∃ keywords, Reached root (.obj keywords) ∧ Gap keywords := by
  have passes := passes_of_reached accepted isDraft7 reached
  rcases passes.shaped.isSchema with ⟨value, rfl⟩ | ⟨keywords, rfl⟩
  · cases value <;> cases faulty
  · obtain ⟨category, gap⟩ := passes.dueToGap (isDraft7.noPrefix keywords reached)
      (isDraft7.noDiscriminator keywords reached) failure faulty
    exact ⟨category, keywords, reached, gap⟩

end Accepted

/-- Three schemas are drafted for the document with a tuple that is too long. -/
theorem reached_sixfold {schema : Json} (reached : Reached sixfold schema) :
    schema = sixfold ∨ schema = sixMembers ∨ schema = .obj [] := by
  have parts : (sixfold.form sixMembers).subschemas = List.replicate 6 (.obj []) := rfl
  have target : Pointer.resolve sixfold "#/definitions/six" = .ok sixMembers := rfl
  induction reached with
  | document => exact Or.inl rfl
  | part _ isPart inductionHypothesis =>
      rcases inductionHypothesis with rfl | rfl | rfl
      · cases isPart
      · rw [parts] at isPart
        exact Or.inr (Or.inr (List.eq_of_mem_replicate isPart))
      · cases isPart
  | target _ refers resolved inductionHypothesis =>
      rcases inductionHypothesis with rfl | rfl | rfl
      · cases List.mem_singleton.mp refers
        rw [target] at resolved
        cases resolved
        exact Or.inr (Or.inl rfl)
      · cases refers
      · cases refers

end SchemaSignature.Document
