import SchemaSignature.Document.Check
import SchemaSignature.Proofs.Document.Faults
import SchemaSignature.Proofs.Document.Pointers
import SchemaSignature.Proofs.Document.Shapes
import SchemaSignature.Proofs.Document.Support

/-!
Schemas that pass the check of documents, and the faults that they can still have. The check looks at
the shape of a schema and at the supported subset; it does not count the members of tuples and
intersections, nor look at constants, at `prefixItems` or at the tags of discriminated choices.
-/

namespace SchemaSignature.Document

/-- A schema passes both parts of the check. -/
structure Passes (root schema : Json) : Prop where
  shaped : Shaped schema
  supported : Supported root schema

theorem passes_of_check {root : Json} (accepted : check root = .ok []) : Passes root root := by
  unfold check at accepted
  simp only at accepted
  split at accepted
  · next reported =>
      have unreported := Except.ok.inj accepted
      rw [unreported] at reported
      cases reported
  · next unreported =>
      have shaped : shapeReports root = [] := by
        cases reports : shapeReports root with
        | nil => rfl
        | cons first rest =>
            rw [reports] at unreported
            exact absurd rfl unreported
      refine ⟨⟨[], shaped⟩, ?_⟩
      unfold Supported
      split at accepted
      · next passed => exact passed
      · split at accepted
        · cases accepted
        · cases accepted

/-! ## Subschemas pass -/

section Parts

variable {root : Json} {schema : List (String × Json)}

theorem Shaped.of_holds
    (shaped : Shaped (.obj schema)) (noPrefix : Json.member? schema "prefixItems" = none)
    {subschema : Json} (held : Form.Holds schema subschema) : Shaped subschema := by
  cases held with
  | @listed keyword value members known found listing isMember =>
      have ruled : keywordRules.lookup keyword = some .schemas := by
        simp only [List.mem_cons, List.not_mem_nil, or_false] at known
        rcases known with rfl | rfl | rfl | rfl
        · rfl
        · rfl
        · rfl
        · rw [noPrefix] at found
          cases found
      obtain ⟨path, unreported⟩ := shaped.reportsOn_member found .schemas ruled
      obtain ⟨items, rfl, _, each⟩ := exists_schemas_of_reportsOn unreported
      cases listing
      exact each subschema isMember
  | item found _ notListed =>
      obtain ⟨path, unreported⟩ := shaped.reportsOn_member found .schemaOrSchemas rfl
      rcases shaped_or_schemas_of_reportsOn unreported with isShaped | ⟨items, isList, _⟩
      · exact isShaped
      · exact absurd isList (notListed items)
  | listedItem found isMember =>
      obtain ⟨path, unreported⟩ := shaped.reportsOn_member found .schemaOrSchemas rfl
      rcases shaped_or_schemas_of_reportsOn unreported with isShaped | ⟨items, isList, _, each⟩
      · rcases isShaped.isSchema with ⟨_, impossible⟩ | ⟨_, impossible⟩ <;> cases impossible
      · cases isList
        exact each subschema isMember
  | additional found same =>
      have unreported := shaped.reportsOn_member found .schema rfl
      exact same ▸ unreported
  | @property name members found isMember =>
      obtain ⟨path, unreported⟩ := shaped.reportsOn_member found .schemaTable rfl
      obtain ⟨table, isTable, each⟩ := exists_table_of_reportsOn unreported
      cases isTable
      exact each (name, subschema) isMember

theorem Passes.of_holds
    (passes : Passes root (.obj schema)) (noPrefix : Json.member? schema "prefixItems" = none)
    {subschema : Json} (held : Form.Holds schema subschema) : Passes root subschema :=
  ⟨passes.shaped.of_holds noPrefix held, passes.supported.of_holds held⟩

theorem Passes.of_definition
    (passes : Passes root (.obj schema)) {definitions : Json}
    (found : Json.member? schema "definitions" = some definitions) :
    ∃ members, definitions = .obj members ∧ ∀ member ∈ members, Passes root member.2 := by
  obtain ⟨path, unreported⟩ := passes.shaped.reportsOn_member found .schemaTable rfl
  obtain ⟨members, rfl, shaped⟩ := exists_table_of_reportsOn unreported
  have supported := passes.supported.of_table (by simp) found
  exact ⟨members, rfl, fun member isMember => ⟨shaped member isMember, supported member isMember⟩⟩

end Parts

/-- A reference of Draft 7: to the whole document, or to one of its definitions. -/
def IsDraft7Reference (reference : String) : Prop :=
  reference = "#" ∨ ∃ key, '/' ∉ key.toList ∧ reference = "#/definitions/" ++ key

/-- What such a reference points to passes the check if the document does. -/
theorem Passes.of_resolve
    {root : Json} (passes : Passes root root) {reference : String}
    (isDraft7 : IsDraft7Reference reference) {value : Json}
    (resolved : Pointer.resolve root reference = .ok value) : Passes root value := by
  rcases isDraft7 with rfl | ⟨key, onePiece, rfl⟩
  · cases resolved
    exact passes
  · obtain ⟨keywords, definitions, rfl, found, leads⟩ :=
      Pointer.exists_definition_of_resolve List.mem_cons_self onePiece resolved
    obtain ⟨members, isTable, each⟩ := passes.of_definition found
    obtain ⟨name, isMember⟩ := leads members isTable
    exact each (name, value) isMember

/-! ## Faults that remain -/

/-- What the check lets through although it has no node: a tuple or an intersection with too many
members, or an array or an object as a constant. -/
inductive Gap (schema : List (String × Json)) : Prop where
  | tuple {members : List Json}
      (found : Json.member? schema "items" = some (.arr members))
      (long : 5 < members.length)
  | intersection {members : List Json}
      (found : Json.member? schema "allOf" = some (.arr members))
      (long : 5 < members.length)
  | constant {value : Json}
      (found : Json.member? schema "const" = some value)
      (isContainer : value.kind = .arr ∨ value.kind = .obj)

/-- A tuple with too many members. -/
def sixMembers : Json :=
  .obj [("type", .str "array"),
    ("items", .arr [.obj [], .obj [], .obj [], .obj [], .obj [], .obj []])]

/-- A document that consists of a definition with a gap. -/
def sixfold : Json :=
  .obj [("$ref", .str "#/definitions/six"), ("definitions", .obj [("six", sixMembers)])]

theorem check_sixfold : check sixfold = .ok [] := by
  rfl

/-- A fault of a form is an invalid value, and due to a gap of the check. -/
def DueToGap (schema : List (String × Json)) (form : Form) : Prop :=
  ∀ failure, form.fault? = some failure → failure.category = .invalidValue ∧ Gap schema

theorem dueToGap_of_faultless
    {schema : List (String × Json)} {form : Form} (faultless : form.fault? = none) :
    DueToGap schema form := by
  intro failure faulty
  rw [faultless] at faulty
  cases faulty

theorem exists_of_faultOfAny?
    {forms : List Form} {failure : Failure} (faulty : Form.faultOfAny? forms = some failure) :
    ∃ form ∈ forms, form.fault? = some failure := by
  induction forms with
  | nil => cases faulty
  | cons first rest inductionHypothesis =>
      rw [Form.faultOfAny?] at faulty
      cases firstFault : first.fault? with
      | some other =>
          rw [firstFault] at faulty
          cases faulty
          exact ⟨first, List.mem_cons_self, firstFault⟩
      | none =>
          rw [firstFault] at faulty
          obtain ⟨form, isForm, formFaulty⟩ := inductionHypothesis faulty
          exact ⟨form, List.mem_cons_of_mem _ isForm, formFaulty⟩

section Faults

variable {root : Json} {schema : List (String × Json)}

theorem Shaped.requiredNames (shaped : Shaped (.obj schema)) :
    ∃ names, Form.requiredNames schema = .ok names := by
  cases found : Json.member? schema "required" with
  | none => exact ⟨[], by simp only [Form.requiredNames, found]⟩
  | some value =>
      obtain ⟨path, unreported⟩ := shaped.reportsOn_member found .names rfl
      obtain ⟨items, rfl, texts⟩ := exists_names_of_reportsOn unreported
      apply Form.requiredNames_of_keys found
      intro item isItem
      obtain ⟨text, rfl⟩ := texts item isItem
      rfl

theorem Shaped.dueToGap_ofObject (shaped : Shaped (.obj schema)) :
    DueToGap schema (Form.ofObject schema) := by
  apply dueToGap_of_faultless
  obtain ⟨names, required⟩ := shaped.requiredNames
  have listed : ∃ given, Form.properties schema = .ok given := by
    unfold Form.properties
    split
    · exact ⟨none, rfl⟩
    · exact ⟨none, rfl⟩
    · next value _ found =>
        obtain ⟨path, unreported⟩ := shaped.reportsOn_member found .schemaTable rfl
        obtain ⟨members, rfl, _⟩ := exists_table_of_reportsOn unreported
        rw [required]
        exact ⟨_, rfl⟩
  obtain ⟨given, listed⟩ := listed
  rw [Form.ofObject, listed]
  rfl

theorem Shaped.dueToGap_ofArray
    (shaped : Shaped (.obj schema)) (noPrefix : Json.member? schema "prefixItems" = none) :
    DueToGap schema (Form.ofArray schema) := by
  rcases Form.ofArray_cases schema with
    ⟨value, _, found, _⟩ | form | ⟨item, _, _, _, form⟩ | ⟨members, found, form⟩ |
      ⟨value, members, found, _⟩
  · rw [noPrefix] at found
    cases found
  · exact dueToGap_of_faultless (by rw [form]; rfl)
  · exact dueToGap_of_faultless (by rw [form]; rfl)
  · obtain ⟨path, unreported⟩ := shaped.reportsOn_member found .schemaOrSchemas rfl
    have present : members ≠ [] := by
      rcases shaped_or_schemas_of_reportsOn unreported with isShaped | ⟨items, isList, present, _⟩
      · rcases isShaped.isSchema with ⟨_, impossible⟩ | ⟨_, impossible⟩ <;> cases impossible
      · cases isList
        exact present
    have atLeastOne : 1 ≤ members.length := List.length_pos_iff.mpr present
    intro failure faulty
    rw [form, Form.fault?] at faulty
    split at faulty
    · cases faulty
    · next outside =>
        cases faulty
        exact ⟨rfl, .tuple found (by omega)⟩
  · rw [noPrefix] at found
    cases found

theorem Shaped.dueToGap_ofTypeName
    (shaped : Shaped (.obj schema)) (noPrefix : Json.member? schema "prefixItems" = none)
    {type : Json} (isName : isTypeName type = true) : DueToGap schema (Form.ofType schema type) := by
  cases type with
  | str name =>
      have isListed : name ∈ typeNames := List.contains_iff_mem.mp isName
      simp only [typeNames, List.mem_cons, List.not_mem_nil, or_false] at isListed
      rcases isListed with rfl | rfl | rfl | rfl | rfl | rfl | rfl
      · exact shaped.dueToGap_ofArray noPrefix
      · exact dueToGap_of_faultless rfl
      · exact dueToGap_of_faultless rfl
      · exact dueToGap_of_faultless rfl
      · exact dueToGap_of_faultless rfl
      · exact shaped.dueToGap_ofObject
      · exact dueToGap_of_faultless rfl
  | _ => cases isName

theorem mem_ofTypes {types : List Json} {form : Form} (isForm : form ∈ Form.ofTypes schema types) :
    ∃ type ∈ types, form = Form.ofType schema type := by
  induction types with
  | nil => cases isForm
  | cons first rest inductionHypothesis =>
      rw [Form.ofTypes] at isForm
      rcases List.mem_cons.mp isForm with isFirst | later
      · exact ⟨first, List.mem_cons_self, isFirst⟩
      · obtain ⟨type, isType, same⟩ := inductionHypothesis later
        exact ⟨type, List.mem_cons_of_mem _ isType, same⟩

theorem Shaped.dueToGap_ofType
    (shaped : Shaped (.obj schema)) (noPrefix : Json.member? schema "prefixItems" = none) :
    DueToGap schema (Form.ofType schema ((Json.member? schema "type").getD .null)) := by
  cases found : Json.member? schema "type" with
  | none =>
      rw [Option.getD_none, Form.ofType, Form.inferred]
      split
      · exact shaped.dueToGap_ofObject
      · split
        · exact shaped.dueToGap_ofArray noPrefix
        · exact dueToGap_of_faultless rfl
  | some type =>
      rw [Option.getD_some]
      obtain ⟨path, unreported⟩ := shaped.reportsOn_member found .types rfl
      have names := namesTypes_of_reportsOn unreported
      unfold namesTypes at names
      rw [Bool.or_eq_true] at names
      rcases names with isName | areNames
      · exact shaped.dueToGap_ofTypeName noPrefix isName
      · cases type with
        | arr types =>
            simp only [Bool.and_eq_true] at areNames
            have each := List.all_eq_true.mp areNames.1.2
            intro failure faulty
            have anyFaulty : Form.faultOfAny? (Form.ofTypes schema types) = some failure := by
              cases types with
              | nil => cases areNames.1.1
              | cons first rest =>
                  rw [Form.ofType, Form.fault?] at faulty
                  exact faulty
            obtain ⟨form, isForm, formFaulty⟩ := exists_of_faultOfAny? anyFaulty
            obtain ⟨type, isType, rfl⟩ := mem_ofTypes isForm
            exact shaped.dueToGap_ofTypeName noPrefix (each type isType) failure formFaulty
        | _ => cases areNames

theorem ofChoice_of_ne_nil {members : List Json} (present : members ≠ []) :
    Form.ofChoice (.arr members) = .choice members := by
  cases members with
  | nil => exact absurd rfl present
  | cons first rest => rfl

theorem ofIntersection_of_ne_nil {members : List Json} (present : members ≠ []) :
    Form.ofIntersection (.arr members) = .intersection members := by
  cases members with
  | nil => exact absurd rfl present
  | cons first rest => rfl

/-- A schema that passes the check, without `prefixItems` and `discriminator`, is at fault only where
the check has a gap. -/
theorem Passes.dueToGap
    (passes : Passes root (.obj schema)) (noPrefix : Json.member? schema "prefixItems" = none)
    (noDiscriminator : Json.member? schema "discriminator" = none) :
    DueToGap schema (Form.ofKeywords root schema) := by
  apply Form.ofKeywords_elim
  case reference =>
    intro pointer found
    obtain ⟨path, unreported⟩ := passes.shaped.reportsOn_member found .text rfl
    obtain ⟨target, rfl⟩ := exists_text_of_reportsOn unreported
    obtain ⟨value, resolved⟩ := passes.supported.resolves found
    have resolvedText : Pointer.resolve root target = .ok value := resolved
    apply dueToGap_of_faultless
    rw [Form.ofReference, resolvedText]
    rfl
  case choice =>
    intro keyword known value found
    have ruled : keywordRules.lookup keyword = some .schemas := by
      simp only [List.mem_cons, List.not_mem_nil, or_false] at known
      rcases known with rfl | rfl <;> rfl
    obtain ⟨path, unreported⟩ := passes.shaped.reportsOn_member found .schemas ruled
    obtain ⟨members, rfl, present, _⟩ := exists_schemas_of_reportsOn unreported
    exact dueToGap_of_faultless (by rw [ofChoice_of_ne_nil present]; rfl)
  case discriminated =>
    intro _ discriminator _ _ described
    rw [noDiscriminator] at described
    cases described
  case intersection =>
    intro value found
    obtain ⟨path, unreported⟩ := passes.shaped.reportsOn_member found .schemas rfl
    obtain ⟨members, rfl, present, _⟩ := exists_schemas_of_reportsOn unreported
    have unfolded : (Form.intersection members).fault? =
        if members.length ≤ 5 then none
        else some (.arity "intersection" 2 5 members.length) := rfl
    intro failure faulty
    rw [ofIntersection_of_ne_nil present, unfolded] at faulty
    split at faulty
    · cases faulty
    · next long =>
        cases faulty
        exact ⟨rfl, .intersection found (by omega)⟩
  case constant =>
    intro value found
    rcases Form.ofValues_cases [value] with ⟨listed, isListed, isContainer, form⟩ | ⟨_, form⟩
    · intro failure faulty
      rw [form] at faulty
      cases faulty
      rw [List.mem_singleton.mp isListed] at isContainer
      have kinds : value.kind = .arr ∨ value.kind = .obj := by
        cases value with
        | arr items => exact Or.inl rfl
        | obj members => exact Or.inr rfl
        | _ => cases isContainer
      exact ⟨rfl, .constant found kinds⟩
    · exact dueToGap_of_faultless (by rw [form]; rfl)
  case enumeration =>
    intro listed found
    rcases Form.ofEnum_cases listed with ⟨failure, form⟩ | ⟨_, _, _, form⟩
    · exact absurd form (passes.supported.enum_not_rejected found failure)
    · exact dueToGap_of_faultless (by rw [form]; rfl)
  case typed => exact passes.shaped.dueToGap_ofType noPrefix

end Faults

end SchemaSignature.Document
