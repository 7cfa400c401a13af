import SchemaSignature.Proofs.Document.Coverage
import SchemaSignature.Proofs.Document.Rejections

/-!
What the check of a document returns, and where it fails. It walks through the document in two ways:
the first follows the keywords that have a rule, and the second, which is taken only if the first has
nothing to report, follows `$defs` and `prefixItems` as well. A table or a list under these two is
opened although nothing is known of its shape.
-/

namespace SchemaSignature.Document

open Outcome (FailsOnly)

/-! ## What the walk through the subset can fail with -/

/-- A value that is not allowed, or one that cannot be opened as a table or as a list. -/
def IsMisfit (failure : Failure) : Prop :=
  failure.category = .invalidValue ∨ failure = .misuse .missingOperation ∨
    ∃ kind, failure = .misuse (.notIterable kind)

section Walk

variable {root : Json} {schema : List (String × Json)}

theorem failsOnly_checkKeywords (schema : List (String × Json)) :
    FailsOnly (fun failure => failure.category = .invalidValue) (checkKeywords schema) := by
  unfold checkKeywords
  split
  · exact .error rfl
  · exact .ok ()

theorem failsOnly_checkReference (root : Json) (schema : List (String × Json)) :
    FailsOnly (fun failure => failure.category = .invalidValue) (checkReference root schema) := by
  unfold checkReference
  split
  · exact ((Pointer.failsOnly_resolveValue root _).mono fun _ isFault => isFault.isInvalid).map _
  · exact .ok ()

theorem failsOnly_checkType (schema : List (String × Json)) :
    FailsOnly (fun failure => failure.category = .invalidValue) (checkType schema) := by
  unfold checkType
  repeat' split
  all_goals first | exact .ok () | exact .error rfl

theorem isMisfit_of_ofEnum
    {listed : Json} {failure : Failure} (rejected : Form.ofEnum listed = .rejected failure) :
    failure.category = .invalidValue ∨
      (∀ items, listed ≠ .arr items) ∧ ∃ kind, failure = .misuse (.notIterable kind) := by
  unfold Form.ofEnum Form.nonEmptyElements at rejected
  split at rejected
  · unfold Form.ofValues at rejected
    split at rejected
    · cases rejected
      exact Or.inl rfl
    · cases rejected
  · next cause failed =>
      cases rejected
      split at failed
      · unfold Form.elements at failed
        split at failed
        · cases failed
        · next notListed =>
            cases failed
            refine Or.inr ⟨?_, _, rfl⟩
            rintro items rfl
            cases notListed
      · cases failed
        exact Or.inl rfl

theorem failsOnly_checkOwnKeywords
    {allowed : Failure → Prop} (invalid : ∀ failure, failure.category = .invalidValue → allowed failure)
    (enum : FailsOnly allowed (checkEnum schema)) :
    FailsOnly allowed (checkOwnKeywords root schema) := by
  refine .bind ((failsOnly_checkKeywords schema).mono invalid) fun _ _ => ?_
  refine .bind ((failsOnly_checkReference root schema).mono invalid) fun _ _ => ?_
  exact .bind ((failsOnly_checkType schema).mono invalid) fun _ _ => enum

theorem isMisfit_of_group
    {failure : Failure} (isGroup : .error failure ∈ subschemaGroups schema) : IsMisfit failure := by
  rcases List.mem_append.mp isGroup with isFront | isListed
  · rcases List.mem_append.mp isFront with isNamed | isSingle
    · obtain ⟨keyword, _, failed⟩ := List.mem_map.mp isNamed
      unfold namedSubschemas at failed
      split at failed
      · cases failed
      · cases failed
      · cases failed
        exact Or.inr (Or.inl rfl)
    · simp at isSingle
  · obtain ⟨keyword, _, failed⟩ := List.mem_map.mp isListed
    unfold listedSubschemas at failed
    split at failed
    · cases failed
    · unfold Form.elements at failed
      split at failed
      · cases failed
      · cases failed
        exact Or.inr (Or.inr ⟨_, rfl⟩)

/-- A class of schemas that the walk stays within, and on which its steps fail in certain ways only. -/
structure Walks (root : Json) (allowed : Failure → Prop) (domain : Json → Prop) : Prop where
  invalid : ∀ failure, failure.category = .invalidValue → allowed failure
  enum : ∀ keywords, domain (.obj keywords) → FailsOnly allowed (checkEnum keywords)
  group : ∀ keywords failure, domain (.obj keywords) → .error failure ∈ subschemaGroups keywords →
    allowed failure
  closed : ∀ keywords members, domain (.obj keywords) → .ok members ∈ subschemaGroups keywords →
    ∀ member ∈ members, domain member

theorem Walks.failsOnly
    {allowed : Failure → Prop} {domain : Json → Prop} (walks : Walks root allowed domain)
    {schema : Json} (inDomain : domain schema) : FailsOnly allowed (checkSupported root schema) := by
  -- By induction on the height: subschemas are nested less deeply.
  induction bounded : schema.height using Nat.strongRecOn generalizing schema with
  | ind height inductionHypothesis =>
      subst bounded
      rw [checkSupported_eq]
      cases schema with
      | bool value => exact .ok ()
      | obj keywords =>
          rw [checkSchema]
          refine .bind (failsOnly_checkOwnKeywords walks.invalid (walks.enum keywords inDomain))
            fun _ _ => ?_
          refine .forM fun group isGroup => ?_
          cases group with
          | error failure => exact .error (walks.group keywords failure inDomain isGroup)
          | ok members =>
              refine .forM fun member isMember => ?_
              exact inductionHypothesis member.height (height_lt_of_mem_group isGroup isMember)
                (walks.closed keywords members inDomain isGroup member isMember) rfl
      | _ => exact .error (walks.invalid _ rfl)

/-- The walk fails only at a value that is not allowed or that cannot be opened. -/
theorem failsOnly_checkSupported (root schema : Json) :
    FailsOnly IsMisfit (checkSupported root schema) := by
  have walks : Walks root IsMisfit fun _ => True := by
    refine ⟨fun _ => Or.inl, ?_, fun _ _ _ => isMisfit_of_group, fun _ _ _ _ _ _ => trivial⟩
    intro keywords _
    unfold checkEnum
    split
    · split
      · next failure rejected =>
          rcases isMisfit_of_ofEnum rejected with invalid | ⟨_, notIterable⟩
          · exact .error (Or.inl invalid)
          · exact .error (Or.inr (Or.inr notIterable))
      · exact .ok ()
    · exact .ok ()
  exact walks.failsOnly trivial

/-! ## Schemas whose keywords have rules -/

theorem Shaped.failsOnly_checkEnum (shaped : Shaped (.obj schema)) :
    FailsOnly (fun failure => failure.category = .invalidValue) (checkEnum schema) := by
  unfold checkEnum
  split
  · next listed found =>
      obtain ⟨path, unreported⟩ := shaped.reportsOn_member found .list rfl
      split
      · next failure rejected =>
          rcases isMisfit_of_ofEnum rejected with invalid | ⟨notListed, _⟩
          · exact .error invalid
          · cases listed with
            | arr items => exact absurd rfl (notListed items)
            | _ => cases unreported
      · exact .ok ()
  · exact .ok ()

/-- The tables and lists under keywords with a rule can be opened. -/
theorem Shaped.not_error_mem_groups
    (shaped : Shaped (.obj schema)) (noDefs : Json.member? schema "$defs" = none)
    (noPrefix : Json.member? schema "prefixItems" = none) (failure : Failure) :
    .error failure ∉ subschemaGroups schema := by
  intro isGroup
  rcases List.mem_append.mp isGroup with isFront | isListed
  · rcases List.mem_append.mp isFront with isNamed | isSingle
    · obtain ⟨keyword, known, failed⟩ := List.mem_map.mp isNamed
      unfold namedSubschemas at failed
      split at failed
      · cases failed
      · cases failed
      · next value notTable found =>
          have ruled : keywordRules.lookup keyword = some .schemaTable := by
            simp only [List.mem_cons, List.not_mem_nil, or_false] at known
            rcases known with rfl | rfl | rfl
            · rfl
            · rfl
            · rw [noDefs] at found
              cases found
          obtain ⟨path, unreported⟩ := shaped.reportsOn_member found .schemaTable ruled
          obtain ⟨members, rfl, _⟩ := exists_table_of_reportsOn unreported
          exact notTable members rfl
    · simp at isSingle
  · obtain ⟨keyword, known, failed⟩ := List.mem_map.mp isListed
    unfold listedSubschemas at failed
    split at failed
    · cases failed
    · next listed found =>
        have ruled : keywordRules.lookup keyword = some .schemas := by
          simp only [List.mem_cons, List.not_mem_nil, or_false] at known
          rcases known with rfl | rfl | rfl | rfl
          · rw [noPrefix] at found
            cases found
          · rfl
          · rfl
          · rfl
        obtain ⟨path, unreported⟩ := shaped.reportsOn_member found .schemas ruled
        obtain ⟨items, rfl, _⟩ := exists_schemas_of_reportsOn unreported
        cases failed

theorem Shaped.of_definition
    (shaped : Shaped (.obj schema)) {members : List (String × Json)}
    (found : Json.member? schema "definitions" = some (.obj members)) :
    ∀ member ∈ members, Shaped member.2 := by
  obtain ⟨path, unreported⟩ := shaped.reportsOn_member found .schemaTable rfl
  obtain ⟨table, isTable, each⟩ := exists_table_of_reportsOn unreported
  cases isTable
  exact each

theorem shaped_of_seen
    (shaped : Shaped root) {subschema : Json} (seen : Seen root subschema) : Shaped subschema := by
  induction seen with
  | document => exact shaped
  | part _ noPrefix held inductionHypothesis => exact inductionHypothesis.of_holds noPrefix held
  | definition _ found isMember inductionHypothesis =>
      exact inductionHypothesis.of_definition found _ isMember

theorem Seen.of_named
    (seen : Seen root (.obj schema)) (noDefs : Json.member? schema "$defs" = none)
    (noPrefix : Json.member? schema "prefixItems" = none) {keyword : String}
    (known : keyword ∈ ["properties", "definitions", "$defs"]) {members : List Json}
    (listing : namedSubschemas schema keyword = .ok members) {member : Json}
    (isMember : member ∈ members) :
    Seen root member := by
  unfold namedSubschemas at listing
  split at listing
  · cases listing
    cases isMember
  · next table found =>
      cases listing
      obtain ⟨⟨name, value⟩, isEntry, rfl⟩ := List.mem_map.mp isMember
      simp only [List.mem_cons, List.not_mem_nil, or_false] at known
      rcases known with rfl | rfl | rfl
      · exact seen.part noPrefix (.property found isEntry)
      · exact seen.definition found isEntry
      · rw [noDefs] at found
        cases found
  · cases listing

theorem holds_of_mem_itemSubschemas {member : Json} (isItem : member ∈ itemSubschemas schema) :
    Form.Holds schema member := by
  unfold itemSubschemas at isItem
  split at isItem
  · cases isItem
  · cases isItem
  · next found => exact .listedItem found isItem
  · next item notNull notListed found =>
      cases List.mem_singleton.mp isItem
      exact .item found notNull notListed

/-- What the walk goes on to is seen, if there is nothing under keywords without a rule. -/
theorem Seen.of_group
    (seen : Seen root (.obj schema)) (noDefs : Json.member? schema "$defs" = none)
    (noPrefix : Json.member? schema "prefixItems" = none) {members : List Json}
    (isGroup : .ok members ∈ subschemaGroups schema) {member : Json} (isMember : member ∈ members) :
    Seen root member := by
  rcases List.mem_append.mp isGroup with isFront | isListed
  · rcases List.mem_append.mp isFront with isNamed | isSingle
    · obtain ⟨keyword, known, listing⟩ := List.mem_map.mp isNamed
      exact seen.of_named noDefs noPrefix known listing isMember
    · rcases List.mem_cons.mp isSingle with isItems | isLast
      · cases isItems
        exact seen.part noPrefix (holds_of_mem_itemSubschemas isMember)
      · cases List.mem_singleton.mp isLast
        unfold additionalSubschemas at isMember
        split at isMember
        · next found => exact seen.part noPrefix (.additional found (List.mem_singleton.mp isMember))
        · cases isMember
  · obtain ⟨keyword, known, listing⟩ := List.mem_map.mp isListed
    unfold listedSubschemas at listing
    split at listing
    · cases listing
      cases isMember
    · next listed found =>
        have isKnown : keyword ∈ ["anyOf", "oneOf", "allOf", "prefixItems"] := by
          simp only [List.mem_cons, List.not_mem_nil, or_false] at known ⊢
          tauto
        exact seen.part noPrefix (.listed isKnown found listing isMember)

/-- A schema has something under one of the keywords that the walk follows without a rule. -/
def HasUnruled (schema : List (String × Json)) : Prop :=
  Json.hasMember schema "$defs" = true ∨ Json.hasMember schema "prefixItems" = true

theorem none_of_not_hasUnruled (ruled : ¬HasUnruled schema) :
    Json.member? schema "$defs" = none ∧ Json.member? schema "prefixItems" = none := by
  simpa [HasUnruled, Json.hasMember] using ruled

/-- If everything that is seen keeps to keywords with a rule, the walk fails only at a value that is
not allowed. -/
theorem failsOnly_of_ruled
    (shaped : Shaped root) (ruled : ∀ keywords, Seen root (.obj keywords) → ¬HasUnruled keywords) :
    FailsOnly (fun failure => failure.category = .invalidValue) (checkSupported root root) := by
  have walks : Walks root (fun failure => failure.category = .invalidValue) (Seen root) := by
    refine ⟨fun _ => id, ?_, ?_, ?_⟩
    · intro keywords seen
      exact (shaped_of_seen shaped seen).failsOnly_checkEnum
    · intro keywords failure seen isGroup
      obtain ⟨noDefs, noPrefix⟩ := none_of_not_hasUnruled (ruled keywords seen)
      have opened := (shaped_of_seen shaped seen).not_error_mem_groups noDefs noPrefix failure
      exact absurd isGroup opened
    · intro keywords members seen isGroup member isMember
      obtain ⟨noDefs, noPrefix⟩ := none_of_not_hasUnruled (ruled keywords seen)
      exact seen.of_group noDefs noPrefix isGroup isMember
  exact walks.failsOnly .document

end Walk

/-! ## The check -/

/-- What the check of a document comes to: the reports on its shape, if there are any; otherwise no
report, or the one that it is outside the supported subset. It fails only if some schema that is seen
has something under `$defs` or `prefixItems`, and then at a value that cannot be opened. -/
theorem check_cases (document : Json) :
    shapeReports document ≠ [] ∧ check document = .ok (shapeReports document) ∨
      shapeReports document = [] ∧
        (checkSupported document document = .ok () ∧ check document = .ok [] ∨
          (∃ failure, checkSupported document document = .error failure ∧
            failure.category = .invalidValue ∧
            check document = .ok [unsupportedReport failure]) ∨
          ∃ failure, check document = .error failure ∧
            (failure = .misuse .missingOperation ∨ ∃ kind, failure = .misuse (.notIterable kind)) ∧
            ∃ keywords, Seen document (.obj keywords) ∧ HasUnruled keywords) := by
  unfold check
  cases shape : shapeReports document with
  | cons first rest => exact Or.inl ⟨List.cons_ne_nil _ _, rfl⟩
  | nil =>
      refine Or.inr ⟨rfl, ?_⟩
      simp only [List.isEmpty_nil, Bool.not_true, Bool.false_eq_true, if_false]
      cases walked : checkSupported document document with
      | ok done => exact Or.inl ⟨rfl, rfl⟩
      | error failure =>
          right
          by_cases invalid : failure.category = .invalidValue
          · exact Or.inl ⟨failure, rfl, invalid, if_pos invalid⟩
          · refine Or.inr ⟨failure, if_neg invalid, ?_, ?_⟩
            · exact (failsOnly_checkSupported document document failure walked).resolve_left invalid
            · by_contra ruled
              rw [not_exists] at ruled
              refine invalid (failsOnly_of_ruled ⟨[], shape⟩ (fun keywords seen unruled => ?_)
                failure walked)
              exact ruled keywords ⟨seen, unruled⟩

/-- A document whose definitions are a number. -/
def numberedDefs : Json :=
  .obj [("$defs", .int 5)]

/-- The check of a document can fail: nothing is wrong with its shape, and its definitions cannot be
opened as a table. -/
theorem check_numberedDefs_ne_ok :
    shapeReports numberedDefs = [] ∧
      check numberedDefs = .error (.misuse .missingOperation) ∧
      ∀ reports, check numberedDefs ≠ .ok reports := by
  have failed : check numberedDefs = .error (.misuse .missingOperation) := by rfl
  refine ⟨rfl, failed, ?_⟩
  intro reports returned
  rw [failed] at returned
  cases returned

end SchemaSignature.Document
