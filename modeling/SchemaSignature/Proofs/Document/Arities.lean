import SchemaSignature.Proofs.Document.Failures
import SchemaSignature.Proofs.Document.Rejections
import SchemaSignature.Proofs.Signature.Refusals

/-!
Which checks of the constructors a document can fall foul of. A session only ever passes on to them
nodes, texts and literals, and never no members where one is needed, except to a tuple. So it fails for
its parts exactly with a tuple without members, or with a tuple or an intersection of more than five.
-/

namespace SchemaSignature.Document

/-- Of the failures for parts, a schema has only those for numbers of members. -/
theorem isArityFault_of_isPartFault
    {failure : Failure} (isPartFault : failure.IsPartFault) (isFault : failure.IsSchemaFault) :
    failure.IsArityFault := by
  cases failure with
  | arity _ _ _ _ => exact isFault
  | _ => trivial

/-- A session fails, if it does, for a schema, or for want of a number that can be written. -/
theorem isSchemaFault_of_failsWith
    {root : Json} {namer : Namer} {bind : Bool} {count : Nat} {failure : Failure}
    (failed : (session root namer bind count).FailsWith failure) :
    failure.IsSchemaFault ∨ failure = .misuse .numberTooLong :=
  (cause_of_failsWith failed).imp
    (fun ⟨schema, _, faulty⟩ => Form.faultsOnly_form root schema failure faulty)
    fun ⟨tooLong, _⟩ => tooLong

/-- A faulty schema whose subschemas all allow anything fails with its own fault. -/
theorem draft_error_of_fault
    {root schema : Json} {failure : Failure} (faulty : (root.form schema).fault? = some failure)
    (plain : ∀ subschema ∈ (root.form schema).subschemas, subschema = .bool true) :
    (root.draft schema).outcome = .error failure := by
  have faultless {inner : Json} (within : Within root (.bool true) inner) :
      (root.form inner).fault? = none := by
    cases within with
    | refl => rfl
    | part isPart _ => cases isPart
  cases drafted : (root.draft schema).outcome with
  | ok node =>
      have isFaultless := fault_eq_none_of_draft_ok drafted (.refl schema)
      cases isFaultless.symm.trans faulty
  | error other =>
      obtain ⟨inner, within, hasFault⟩ := fault_of_draft_error drafted
      cases within with
      | refl => rw [Option.some.inj (hasFault.symm.trans faulty)]
      | part isPart later =>
          rw [plain _ isPart] at later
          cases (faultless later).symm.trans hasFault

/-- An array of so many items of any kind. -/
def tupleOfAnything (count : Nat) : Json :=
  .obj [("items", .arr (List.replicate count (.bool true)))]

/-- A value to which so many schemas apply that allow anything. -/
def intersectionOfAnything (count : Nat) : Json :=
  .obj [("allOf", .arr (List.replicate count (.bool true)))]

theorem form_tupleOfAnything (root : Json) (count : Nat) :
    root.form (tupleOfAnything count) = .tuple (List.replicate count (.bool true)) :=
  rfl

theorem form_intersectionOfAnything (root : Json) {count : Nat} (present : 0 < count) :
    root.form (intersectionOfAnything count) =
      .intersection (List.replicate count (.bool true)) := by
  obtain ⟨more, rfl⟩ := Nat.exists_eq_succ_of_ne_zero (Nat.ne_of_gt present)
  rfl

theorem exists_failsWith_of_isArityFault {failure : Failure} (isFault : failure.IsArityFault) :
    ∃ root, (session root Namer.standard true 1).FailsWith failure := by
  rcases isFault with ⟨count, outside, rfl⟩ | ⟨count, tooMany, rfl⟩
  · have drafted : ((tupleOfAnything count).draft (tupleOfAnything count)).outcome =
        .error (.arity "tuple" 1 5 count) := by
      refine draft_error_of_fault ?_ ?_
      · rw [form_tupleOfAnything, Form.fault?, List.length_replicate, if_neg (by omega)]
      · rw [form_tupleOfAnything]
        exact fun subschema isPart => List.eq_of_mem_replicate isPart
    exact ⟨_, Or.inl (renderings_of_draft_error drafted Namer.standard true 1)⟩
  · have form := form_intersectionOfAnything (intersectionOfAnything count)
      (show 0 < count by omega)
    have drafted : ((intersectionOfAnything count).draft (intersectionOfAnything count)).outcome =
        .error (.arity "intersection" 2 5 count) := by
      refine draft_error_of_fault ?_ ?_
      · rw [form, Form.fault?, List.length_replicate, if_neg (by omega)]
      · rw [form]
        exact fun subschema isPart => List.eq_of_mem_replicate isPart
    exact ⟨_, Or.inl (renderings_of_draft_error drafted Namer.standard true 1)⟩

theorem refuses_of_isArityFault {failure : Failure} (isFault : failure.IsArityFault) :
    Construction.Refuses failure := by
  have anything : Node String := .primitive .unknown
  rcases isFault with ⟨count, outside, rfl⟩ | ⟨count, tooMany, rfl⟩
  · have refused := Construction.tuple_nodes (List.replicate count anything)
    rw [List.length_replicate, if_neg (by omega)] at refused
    exact .tuple refused
  · have refused := Construction.intersection_nodes (List.replicate count anything)
    rw [List.length_replicate, if_neg (by omega)] at refused
    exact .intersection refused

end SchemaSignature.Document
