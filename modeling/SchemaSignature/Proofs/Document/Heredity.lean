import SchemaSignature.Proofs.Document.Descent

/-!
Properties that pass from a value to the values in it. They hold of everything that is drafted when
they hold of the document: its parts, what its references point to, and the parts of those.
-/

namespace SchemaSignature

/-- A property passes from arrays to their items and from objects to the values of their members. All
texts have it, since a text in the place of a list of subschemas is read character by character. -/
structure Json.Hereditary (property : Json → Prop) : Prop where
  text (text : String) : property (.str text)
  item {items : List Json} {item : Json} (isItem : item ∈ items) (holds : property (.arr items)) :
    property item
  member {members : List (String × Json)} {key : String} {value : Json}
    (isMember : (key, value) ∈ members) (holds : property (.obj members)) : property value

namespace Json.Hereditary

variable {property : Json → Prop} (hereditary : Json.Hereditary property)

include hereditary

theorem of_member?
    {members : List (String × Json)} (holds : property (.obj members)) {key : String} {value : Json}
    (found : Json.member? members key = some value) : property value :=
  hereditary.member (Json.mem_of_member? found) holds

theorem of_mem_elements
    {value item : Json} (holds : property value) {members : List Json}
    (listing : Form.elements value = .ok members) (isMember : item ∈ members) : property item := by
  cases value with
  | arr items =>
      cases listing
      exact hereditary.item isMember holds
  | str text =>
      cases listing
      obtain ⟨c, _, rfl⟩ := List.mem_map.mp isMember
      exact hereditary.text _
  | obj entries =>
      cases listing
      obtain ⟨entry, _, rfl⟩ := List.mem_map.mp isMember
      exact hereditary.text _
  | _ => cases listing

theorem of_holds
    {schema : List (String × Json)} (holds : property (.obj schema)) {subschema : Json}
    (held : Form.Holds schema subschema) : property subschema := by
  cases held with
  | listed _ found listing isMember =>
      have ofList := hereditary.of_member? holds found
      exact hereditary.of_mem_elements ofList listing isMember
  | item found _ _ => exact hereditary.of_member? holds found
  | listedItem found isMember => exact hereditary.item isMember (hereditary.of_member? holds found)
  | additional found same => exact same ▸ hereditary.of_member? holds found
  | property found isMember =>
      exact hereditary.member isMember (hereditary.of_member? holds found)

theorem of_mem_subschemas
    {root schema subschema : Json} (holds : property schema)
    (isPart : subschema ∈ (root.form schema).subschemas) : property subschema := by
  cases schema with
  | obj keywords => exact hereditary.of_holds holds (Form.holds_of_mem_subschemas isPart)
  | bool value => cases value <;> cases isPart
  | _ => cases isPart

theorem of_follow
    {reference step : String} {target value : Json} (holds : property target)
    (followed : Pointer.follow reference target step = .ok value) : property value := by
  unfold Pointer.follow at followed
  split at followed
  · split at followed
    · next members _ found =>
        cases followed
        exact hereditary.of_member? holds found
    · cases followed
  · split at followed
    · obtain ⟨place, _, followed⟩ := Outcome.bind_eq_ok_iff.mp followed
      split at followed
      · next items _ _ found =>
          cases followed
          exact hereditary.item (List.mem_of_getElem? found) holds
      · cases followed
    · cases followed
  · cases followed

theorem of_steps
    {reference : String} {steps : List String} {target value : Json} (holds : property target)
    (followed : steps.foldlM (Pointer.follow reference) target = .ok value) : property value := by
  induction steps generalizing target with
  | nil =>
      cases followed
      exact holds
  | cons step rest inductionHypothesis =>
      rw [List.foldlM_cons] at followed
      obtain ⟨next, stepped, followed⟩ := Outcome.bind_eq_ok_iff.mp followed
      exact inductionHypothesis (hereditary.of_follow holds stepped) followed

/-- What a reference points to has a property that the document has. -/
theorem of_resolve
    {root value : Json} (holds : property root) {reference : String}
    (resolved : Pointer.resolve root reference = .ok value) : property value := by
  unfold Pointer.resolve at resolved
  split at resolved
  · split at resolved
    · cases resolved
      exact holds
    · exact hereditary.of_steps holds resolved
  · cases resolved

theorem of_within
    {root schema inner : Json} (holds : property schema)
    (within : Document.Within root schema inner) : property inner := by
  induction within with
  | refl => exact holds
  | part isPart _ inductionHypothesis =>
      exact inductionHypothesis (hereditary.of_mem_subschemas holds isPart)

/-- Everything that is drafted has a property that the document has. -/
theorem of_reached
    {root schema : Json} (holds : property root) (reached : Document.Reached root schema) :
    property schema := by
  induction reached with
  | document => exact holds
  | part _ isPart inductionHypothesis =>
      exact hereditary.of_mem_subschemas inductionHypothesis isPart
  | target _ _ resolved => exact hereditary.of_resolve holds resolved

end Json.Hereditary

end SchemaSignature
