import SchemaSignature.Proofs.Document.Faults

/-!
Why a schema is rejected: it has a value that is not allowed, or one of the wrong kind, or it lacks
an operation or a key, or a tuple or an intersection of it has a wrong number of members. A pointer is
never anything but a value that is not allowed. So drafting never fails for a reason that does not
lie in the document.
-/

namespace SchemaSignature

open Outcome (FailsOnly)

namespace Failure

/-- The failure lies in a value of the document. -/
def IsRefusal (failure : Failure) : Prop :=
  match failure.category with
  | .invalidValue | .wrongKind | .missingOperation | .missingKey => True
  | _ => False

/-- What can be wrong with a pointer. -/
def IsPointerFault : Failure → Prop
  | .notLocal _ | .unresolvable _ | .misuse (.notANumeral _) | .misuse (.tooManyDigits _) => True
  | _ => False

/-- A tuple has no members or too many, or an intersection has too many. -/
def IsArityFault (failure : Failure) : Prop :=
  (∃ count, (count = 0 ∨ 5 < count) ∧ failure = .arity "tuple" 1 5 count) ∨
    ∃ count, 5 < count ∧ failure = .arity "intersection" 2 5 count

/-- What can be wrong with a schema. -/
def IsSchemaFault : Failure → Prop
  | .notASchema _ | .notLocal _ | .unresolvable _ | .noChoices | .noParts | .noAlternatives
  | .noValues | .unsupportedEnumValue _ | .noTypes | .unsupportedType _ => True
  | .misuse cause =>
      match cause with
      | .notIterable _ | .notAKey _ | .notIndexed _ | .missingOperation | .missingPosition
      | .notANumeral _ | .tooManyDigits _ => True
      | _ => False
  | .arity combinator low high count => IsArityFault (.arity combinator low high count)
  | _ => False

theorem IsPointerFault.isInvalid
    {failure : Failure} (isFault : failure.IsPointerFault) : failure.category = .invalidValue := by
  cases failure with
  | notLocal _ | unresolvable _ => rfl
  | misuse cause => cases cause <;> first | rfl | exact isFault.elim
  | _ => exact isFault.elim

theorem IsPointerFault.isSchemaFault
    {failure : Failure} (isFault : failure.IsPointerFault) : failure.IsSchemaFault := by
  cases failure with
  | misuse cause => cases cause <;> trivial
  | _ => trivial

theorem IsArityFault.isSchemaFault
    {failure : Failure} (isFault : failure.IsArityFault) : failure.IsSchemaFault := by
  rcases isFault with ⟨count, outside, rfl⟩ | ⟨count, tooMany, rfl⟩
  · exact Or.inl ⟨count, outside, rfl⟩
  · exact Or.inr ⟨count, tooMany, rfl⟩

theorem IsSchemaFault.isRefusal
    {failure : Failure} (isFault : failure.IsSchemaFault) : failure.IsRefusal := by
  cases failure with
  | misuse cause => cases cause <;> trivial
  | _ => trivial

end Failure

namespace Pointer

/-- A step leads on, or something is wrong with the pointer. -/
theorem failsOnly_follow (reference : String) (target : Json) (step : String) :
    FailsOnly Failure.IsPointerFault (follow reference target step) := by
  unfold follow
  split
  · split
    · exact .ok _
    · exact .error trivial
  · split
    · refine .bind ?_ fun place _ => ?_
      · unfold position
        simp only
        split
        · exact .error trivial
        · split
          · exact .ok _
          · exact .error trivial
      · split
        · exact .ok _
        · exact .error trivial
    · exact .error trivial
  · exact .error trivial

theorem failsOnly_resolve (root : Json) (reference : String) :
    FailsOnly Failure.IsPointerFault (resolve root reference) := by
  unfold resolve
  split
  · split
    · exact .ok _
    · exact .foldlM (fun target step _ => failsOnly_follow reference target step) root
  · exact .error trivial

theorem failsOnly_resolveValue (root reference : Json) :
    FailsOnly Failure.IsPointerFault (resolveValue root reference) := by
  unfold resolveValue
  split
  · exact failsOnly_resolve root _
  · exact .error trivial

end Pointer

namespace Form

theorem failsOnly_elements (value : Json) : FailsOnly Failure.IsSchemaFault (elements value) := by
  unfold elements
  split
  · exact .ok _
  · exact .error trivial

theorem failsOnly_nonEmptyElements
    {missing : Failure} (isFault : missing.IsSchemaFault) (value : Json) :
    FailsOnly Failure.IsSchemaFault (nonEmptyElements missing value) := by
  unfold nonEmptyElements
  split
  · exact failsOnly_elements value
  · exact .error isFault

theorem failsOnly_mappedTags (discriminator : List (String × Json)) :
    FailsOnly Failure.IsSchemaFault (mappedTags discriminator) := by
  unfold mappedTags
  split
  · exact .ok _
  · refine .foldlM (fun table entry _ => ?_) _
    split
    · exact .ok _
    · exact .error trivial
  · exact .error trivial

theorem failsOnly_declaredValue (discriminant : List (String × Json)) :
    FailsOnly Failure.IsSchemaFault (declaredValue discriminant) := by
  unfold declaredValue
  repeat' split
  all_goals first | exact .ok _ | exact .error trivial

theorem failsOnly_declaredTag (tag : Json) (schema : List (String × Json)) :
    FailsOnly Failure.IsSchemaFault (declaredTag tag schema) := by
  unfold declaredTag
  split
  · split
    · exact .error trivial
    · simp only
      split
      · exact .bind (failsOnly_declaredValue _) fun _ _ => .ok _
      · exact .ok _
  · exact .ok _

theorem failsOnly_memberTag (root tag : Json) (tagOf : List (Json × Json)) (member : Json) :
    FailsOnly Failure.IsSchemaFault (memberTag root tag tagOf member) := by
  unfold memberTag
  split
  · split
    · exact failsOnly_declaredTag tag _
    · split
      · exact .error trivial
      · split
        · exact .ok _
        · refine .bind ?_ fun target _ => ?_
          · exact (Pointer.failsOnly_resolveValue root _).mono fun _ isFault => isFault.isSchemaFault
          · split
            · exact failsOnly_declaredTag tag _
            · exact .ok _
  · exact .ok _

theorem failsOnly_memberTags
    (root tag : Json) (tagOf : List (Json × Json)) (place : Nat) (members : List Json) :
    FailsOnly Failure.IsSchemaFault (memberTags root tag tagOf place members) := by
  induction members generalizing place with
  | nil => exact .ok _
  | cons member rest inductionHypothesis =>
      rw [memberTags]
      refine .bind (failsOnly_memberTag root tag tagOf member) fun _ _ => ?_
      exact .bind (inductionHypothesis (place + 1)) fun _ _ => .ok _

theorem failsOnly_requiredNames (schema : List (String × Json)) :
    FailsOnly Failure.IsSchemaFault (requiredNames schema) := by
  unfold requiredNames
  split
  · exact .ok _
  · refine .bind (failsOnly_elements _) fun listed _ => ?_
    split
    · exact .error trivial
    · exact .ok _

theorem failsOnly_properties (schema : List (String × Json)) :
    FailsOnly Failure.IsSchemaFault (properties schema) := by
  unfold properties
  split
  · exact .ok _
  · exact .ok _
  · refine .bind (failsOnly_requiredNames schema) fun required _ => ?_
    split
    · exact .ok _
    · exact .error trivial

/-! ## Faults -/

/-- The fault of a form, if it has one, lies in the document. -/
def FaultsOnly (form : Form) : Prop :=
  ∀ failure, form.fault? = some failure → failure.IsSchemaFault

theorem faultsOnly_rejected {failure : Failure} (isFault : failure.IsSchemaFault) :
    (Form.rejected failure).FaultsOnly := by
  intro other same
  cases same
  exact isFault

theorem faultsOnly_of_fault?_eq_none {form : Form} (faultless : form.fault? = none) :
    form.FaultsOnly := by
  intro failure found
  rw [faultless] at found
  cases found

theorem faultsOnly_tuple (members : List Json) : (Form.tuple members).FaultsOnly := by
  intro failure found
  rw [fault?] at found
  split at found
  · cases found
  · next outside =>
      cases found
      exact Or.inl ⟨members.length, by omega, rfl⟩

theorem faultsOnly_intersection (members : List Json) : (Form.intersection members).FaultsOnly := by
  intro failure found
  rw [fault?] at found
  split at found
  · cases found
  · next tooMany =>
      cases found
      exact Or.inr ⟨members.length, Nat.not_le.mp tooMany, rfl⟩

theorem faultsOnly_alternatives
    {forms : List Form} (each : ∀ form ∈ forms, form.FaultsOnly) :
    (Form.alternatives forms).FaultsOnly := by
  intro failure found
  rw [fault?] at found
  induction forms with
  | nil => cases found
  | cons first rest inductionHypothesis =>
      rw [faultOfAny?, Option.or_eq_some_iff] at found
      rcases found with isFirst | ⟨_, later⟩
      · exact each first List.mem_cons_self failure isFirst
      · exact inductionHypothesis (fun form isRest => each form (List.mem_cons_of_mem _ isRest)) later

theorem faultsOnly_ofReference (root pointer : Json) : (ofReference root pointer).FaultsOnly := by
  unfold ofReference
  split
  · exact faultsOnly_rejected trivial
  · split
    · split
      · exact faultsOnly_of_fault?_eq_none rfl
      · next failure failed =>
          have isFault := Pointer.failsOnly_resolve root _ failure failed
          exact faultsOnly_rejected isFault.isSchemaFault
    · exact faultsOnly_rejected trivial

theorem faultsOnly_ofChoice (value : Json) : (ofChoice value).FaultsOnly := by
  unfold ofChoice
  split
  · exact faultsOnly_of_fault?_eq_none rfl
  · next failure failed =>
      have isFault : Failure.noChoices.IsSchemaFault := trivial
      exact faultsOnly_rejected (failsOnly_nonEmptyElements isFault value failure failed)

theorem faultsOnly_ofIntersection (value : Json) : (ofIntersection value).FaultsOnly := by
  unfold ofIntersection
  split
  · exact faultsOnly_intersection _
  · next failure failed =>
      have isFault : Failure.noParts.IsSchemaFault := trivial
      exact faultsOnly_rejected (failsOnly_nonEmptyElements isFault value failure failed)

theorem faultsOnly_ofValues (listed : List Json) : (ofValues listed).FaultsOnly := by
  unfold ofValues
  split
  · exact faultsOnly_rejected trivial
  · exact faultsOnly_of_fault?_eq_none rfl

theorem faultsOnly_ofEnum (value : Json) : (ofEnum value).FaultsOnly := by
  unfold ofEnum
  split
  · exact faultsOnly_ofValues _
  · next failure failed =>
      have isFault : Failure.noValues.IsSchemaFault := trivial
      exact faultsOnly_rejected (failsOnly_nonEmptyElements isFault value failure failed)

theorem faultsOnly_ofDiscriminated
    (root tag value : Json) (discriminator : List (String × Json)) :
    (ofDiscriminated root tag discriminator value).FaultsOnly := by
  cases truthy : value.isTruthy with
  | false =>
      have rejected : ofDiscriminated root tag discriminator value = .rejected .noAlternatives := by
        simp [ofDiscriminated, truthy, throw, throwThe, MonadExceptOf.throw]
      rw [rejected]
      exact faultsOnly_rejected trivial
  | true =>
      cases mapped : mappedTags discriminator with
      | error failure =>
          have isFault := failsOnly_mappedTags discriminator failure mapped
          simpa [ofDiscriminated, truthy, mapped] using faultsOnly_rejected isFault
      | ok tagOf =>
          cases listing : elements value with
          | error failure =>
              have isFault := failsOnly_elements value failure listing
              simpa [ofDiscriminated, truthy, mapped, listing] using faultsOnly_rejected isFault
          | ok members =>
              cases declared : memberTags root tag tagOf 0 members with
              | error failure =>
                  have isFault := failsOnly_memberTags root tag tagOf 0 members failure declared
                  simpa [ofDiscriminated, truthy, mapped, listing, declared] using
                    faultsOnly_rejected isFault
              | ok tags =>
                  have faultless : (Form.discriminated tag tags members).FaultsOnly :=
                    faultsOnly_of_fault?_eq_none rfl
                  simpa [ofDiscriminated, truthy, mapped, listing, declared, pure, Except.pure]
                    using faultless

theorem faultsOnly_ofObject (schema : List (String × Json)) : (ofObject schema).FaultsOnly := by
  intro failure found
  unfold ofObject at found
  cases listing : properties schema with
  | ok listed =>
      rw [listing] at found
      cases found
  | error cause =>
      rw [listing] at found
      cases found
      exact failsOnly_properties schema failure listing

theorem faultsOnly_ofArray (schema : List (String × Json)) : (ofArray schema).FaultsOnly := by
  have listed (value : Json) : (ofTuple value).FaultsOnly := by
    unfold ofTuple
    split
    · exact faultsOnly_tuple _
    · next failure failed => exact faultsOnly_rejected (failsOnly_elements value failure failed)
  unfold ofArray
  repeat' split
  all_goals first
    | exact faultsOnly_tuple _
    | exact listed _
    | exact faultsOnly_of_fault?_eq_none rfl

/-- The faults of a schema lie in the document. -/
theorem faultsOnly_form (root schema : Json) : (root.form schema).FaultsOnly := by
  cases schema with
  | obj keywords =>
      apply ofKeywords_elim (motive := FaultsOnly)
      · exact fun pointer _ => faultsOnly_ofReference root pointer
      · exact fun _ _ value _ => faultsOnly_ofChoice value
      · exact fun value discriminator tag _ _ _ =>
          faultsOnly_ofDiscriminated root tag value discriminator
      · exact fun value _ => faultsOnly_ofIntersection value
      · exact fun value _ => faultsOnly_ofValues [value]
      · exact fun value _ => faultsOnly_ofEnum value
      · refine ofType_elim (faultsOnly_ofObject keywords) (faultsOnly_ofArray keywords) ?_ ?_ ?_ _
        · exact fun _ => faultsOnly_of_fault?_eq_none rfl
        · rintro failure (rfl | ⟨type, rfl⟩)
          · exact faultsOnly_rejected trivial
          · exact faultsOnly_rejected trivial
        · exact fun _ _ each => faultsOnly_alternatives each
  | bool value => cases value <;> exact faultsOnly_of_fault?_eq_none rfl
  | _ => exact faultsOnly_rejected trivial

end Form

end SchemaSignature
