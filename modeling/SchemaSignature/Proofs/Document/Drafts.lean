import SchemaSignature.Proofs.Document.Faults

/-!
The outcome of drafting a schema in terms of its subschemas: which failure it has, or which
references its node has for leaves.
-/

namespace SchemaSignature

namespace Form

variable {draft : Json → Traced Draft}

/-- A form refers to a target, in itself or through the draft of a subschema. -/
def Mentions (draft : Json → Traced Draft) (targets : List String) (subschemas : List Json)
    (target : String) : Prop :=
  target ∈ targets ∨
    ∃ subschema ∈ subschemas, ∃ inner, (draft subschema).outcome = .ok inner ∧ target ∈ inner.keys

/-- What drafting can come to, by the fault of a form, its targets and its subschemas: a failure of
the form or of a subschema, or leaves for what is mentioned. If `apart`, everything that is mentioned
is a leaf. -/
inductive Yields (draft : Json → Traced Draft) (fault? : Option Failure) (targets : List String)
    (subschemas : List Json) (apart : Prop) : Except Failure (List String) → Prop where
  | failed {failure : Failure}
      (cause : fault? = some failure ∨
        ∃ subschema ∈ subschemas, (draft subschema).outcome = .error failure) :
      Yields draft fault? targets subschemas apart (.error failure)
  | made {keys : List String}
      (faultless : fault? = none)
      (drafted : ∀ subschema ∈ subschemas, ∃ inner, (draft subschema).outcome = .ok inner)
      (mentioned : ∀ target ∈ keys, Mentions draft targets subschemas target)
      (complete : apart → ∀ target, Mentions draft targets subschemas target → target ∈ keys) :
      Yields draft fault? targets subschemas apart (.ok keys)

/-! ## Members -/

theorem forall₂_of_draftAll
    {members : List Json} {nodes : List Draft} (drafted : (draftAll draft members).outcome = .ok nodes) :
    List.Forall₂ (fun member node => (draft member).outcome = .ok node) members nodes := by
  induction members generalizing nodes with
  | nil =>
      cases drafted
      exact .nil
  | cons first rest inductionHypothesis =>
      simp only [draftAll, Traced.outcome_bind, Traced.outcome_pure] at drafted
      obtain ⟨node, firstDrafted, drafted⟩ := Outcome.bind_eq_ok_iff.mp drafted
      obtain ⟨others, restDrafted, drafted⟩ := Outcome.bind_eq_ok_iff.mp drafted
      cases drafted
      exact .cons firstDrafted (inductionHypothesis restDrafted)

theorem error_of_draftAll
    {members : List Json} {failure : Failure}
    (failed : (draftAll draft members).outcome = .error failure) :
    ∃ member ∈ members, (draft member).outcome = .error failure := by
  induction members with
  | nil => cases failed
  | cons first rest inductionHypothesis =>
      simp only [draftAll, Traced.outcome_bind, Traced.outcome_pure] at failed
      rcases Outcome.bind_eq_error_iff.mp failed with firstFailed | ⟨node, _, failed⟩
      · exact ⟨first, List.mem_cons_self, firstFailed⟩
      · rcases Outcome.bind_eq_error_iff.mp failed with restFailed | ⟨others, _, impossible⟩
        · obtain ⟨member, isMember, memberFailed⟩ := inductionHypothesis restFailed
          exact ⟨member, List.mem_cons_of_mem _ isMember, memberFailed⟩
        · cases impossible

theorem exists_of_forall₂
    {members : List Json} {nodes : List Draft}
    (each : List.Forall₂ (fun member node => (draft member).outcome = .ok node) members nodes) :
    ∀ member ∈ members, ∃ inner, (draft member).outcome = .ok inner := by
  intro member isMember
  induction each with
  | nil => cases isMember
  | cons first _ inductionHypothesis =>
      rcases List.mem_cons.mp isMember with isFirst | later
      · exact ⟨_, isFirst ▸ first⟩
      · exact inductionHypothesis later

theorem mem_keys_of_forall₂_iff
    {members : List Json} {nodes : List Draft}
    (each : List.Forall₂ (fun member node => (draft member).outcome = .ok node) members nodes)
    {target : String} :
    target ∈ nodes.flatMap Node.keys ↔
      ∃ member ∈ members, ∃ inner, (draft member).outcome = .ok inner ∧ target ∈ inner.keys := by
  induction each with
  | nil => simp
  | @cons member node rest others first _ inductionHypothesis =>
      rw [List.flatMap_cons, List.mem_append, inductionHypothesis]
      constructor
      · rintro (isKey | ⟨other, isOther, inner, drafted, isKey⟩)
        · exact ⟨member, List.mem_cons_self, node, first, isKey⟩
        · exact ⟨other, List.mem_cons_of_mem _ isOther, inner, drafted, isKey⟩
      · rintro ⟨other, isOther, inner, drafted, isKey⟩
        rcases List.mem_cons.mp isOther with isFirst | later
        · left
          rw [isFirst, first] at drafted
          cases drafted
          exact isKey
        · exact Or.inr ⟨other, later, inner, drafted, isKey⟩

/-- Members are drafted in order, and their nodes combined into one whose leaves are theirs, or else
refused. -/
theorem yields_of_members
    {members : List Json} {fault? : Option Failure} {combine : List Draft → Traced Draft}
    (combined : ∀ nodes, nodes.length = members.length →
      (∃ failure, fault? = some failure ∧ (combine nodes).outcome = .error failure) ∨
        fault? = none ∧ ∃ node, (combine nodes).outcome = .ok node ∧
          node.keys = nodes.flatMap Node.keys) :
    Yields draft fault? [] members True
      ((draftAll draft members >>= combine).outcome.map Node.keys) := by
  rw [Traced.outcome_bind]
  cases drafted : (draftAll draft members).outcome with
  | error failure => exact .failed (Or.inr (error_of_draftAll drafted))
  | ok nodes =>
      have each := forall₂_of_draftAll drafted
      rw [Outcome.bind_ok]
      rcases combined nodes each.length_eq.symm with
        ⟨failure, faulty, refused⟩ | ⟨faultless, node, made, sameKeys⟩
      · rw [refused]
        exact .failed (Or.inl faulty)
      · rw [made]
        refine .made faultless (exists_of_forall₂ each) ?_ ?_
        · intro target isKey
          rw [sameKeys] at isKey
          exact Or.inr ((mem_keys_of_forall₂_iff each).mp isKey)
        · rintro _ target (impossible | mentions)
          · cases impossible
          · rw [sameKeys]
            exact (mem_keys_of_forall₂_iff each).mpr mentions

theorem Yields.of_true
    {fault? : Option Failure} {targets : List String} {subschemas : List Json} {apart : Prop}
    {outcome : Except Failure (List String)}
    (yields : Yields draft fault? targets subschemas True outcome) :
    Yields draft fault? targets subschemas apart outcome := by
  cases yields with
  | failed cause => exact .failed cause
  | made faultless drafted mentioned complete =>
      exact .made faultless drafted mentioned fun _ => complete trivial

theorem keys_intersectParts {parts : List Draft} (present : parts ≠ []) :
    (parts.length ≤ 5 → ∃ node, intersectParts parts = .ok node ∧
        node.keys = parts.flatMap Node.keys) ∧
      (5 < parts.length →
        intersectParts parts = .error (.arity "intersection" 2 5 parts.length)) := by
  match parts, present with
  | [part], _ =>
      refine ⟨fun _ => ⟨part, rfl, (List.flatMap_singleton _ _).symm⟩, fun long => ?_⟩
      rw [List.length_singleton] at long
      omega
  | first :: second :: rest, _ =>
      have unfolded :
          intersectParts (first :: second :: rest) =
            Construction.intersection ((first :: second :: rest).map .node) :=
        rfl
      have atLeastTwo : 2 ≤ (first :: second :: rest).length := by
        rw [List.length_cons, List.length_cons]
        omega
      rw [unfolded, Construction.intersection_nodes]
      constructor
      · intro short
        rw [if_pos ⟨atLeastTwo, short⟩]
        exact ⟨_, rfl, by rw [Node.keys, Node.keysOfMembers_eq_flatMap]⟩
      · intro long
        rw [if_neg fun within => absurd within.2 (by omega)]

/-- A discriminated choice is a sum of its members, or a union. -/
theorem discriminatedNode_cases
    (tag : Json) {tags : List Json} {nodes : List Draft} (present : nodes ≠ [])
    (keys : ∀ given ∈ tags, given.isKey = true) :
    ∃ kind, (kind = .sum ∨ kind = .union) ∧
      (discriminatedNode tag tags nodes).outcome = .ok (.group kind nodes) := by
  have entryKeys : ∀ entry ∈ tags.zip nodes, entry.1.isKey = true :=
    fun entry isEntry => keys entry.1 (List.of_mem_zip isEntry).1
  obtain ⟨table, keyed, bound, complete⟩ := keyedTable_of_keys entryKeys
  unfold discriminatedNode
  simp only [Traced.outcome_bind, Traced.outcome_ofExcept, keyed, Outcome.bind_ok]
  by_cases different : table.length = nodes.length
  · have zipLength : (tags.zip nodes).length = nodes.length := by
      rw [List.length_zip] at bound ⊢
      omega
    have tagsEnough : nodes.length ≤ tags.length := by
      rw [List.length_zip] at zipLength
      omega
    have values : table.map (fun entry => Operand.node entry.2) = nodes.map Operand.node := by
      rw [complete (different.trans zipLength.symm)]
      calc
        (tags.zip nodes).map (fun entry => Operand.node entry.2) =
            ((tags.zip nodes).map Prod.snd).map Operand.node := by rw [List.map_map]; rfl
        _ = nodes.map Operand.node := by rw [List.map_snd_zip tagsEnough]
    refine ⟨.sum, Or.inl rfl, ?_⟩
    simp [different, values, Construction.sum_nodes tag present]
  · refine ⟨.union, Or.inr rfl, ?_⟩
    simp [different, Construction.union_nodes present, Traced.log]

theorem keys_discriminatedNode
    {tag : Json} {tags : List Json} {nodes : List Draft} (present : nodes ≠ [])
    (keys : ∀ given ∈ tags, given.isKey = true) :
    ∃ node, (discriminatedNode tag tags nodes).outcome = .ok node ∧
      node.keys = nodes.flatMap Node.keys := by
  obtain ⟨kind, _, made⟩ := discriminatedNode_cases _ present keys
  exact ⟨.group kind nodes, made, by rw [Node.keys, Node.keysOfMembers_eq_flatMap]⟩

theorem keys_valuesNode
    {literals : List Json} (each : ∀ value ∈ literals, (Literal.ofJson? value).isSome = true)
    (nullable : Bool) :
    ∃ node, valuesNode literals nullable = .ok node ∧ node.keys = [] := by
  unfold valuesNode
  cases literals with
  | nil => exact ⟨.primitive .null, rfl, rfl⟩
  | cons first rest =>
      obtain ⟨listed, made⟩ :
          ∃ listed, (Construction.literals (first :: rest) : Except Failure Draft) =
            .ok (.literals listed) :=
        Construction.literals_of_literals (List.cons_ne_nil first rest) each
      rw [List.isEmpty_cons, if_neg Bool.false_ne_true, made, Outcome.bind_ok]
      cases nullable with
      | false => exact ⟨.literals listed, rfl, rfl⟩
      | true =>
          refine ⟨.group .union [.literals listed, .primitive .null], ?_, rfl⟩
          rw [if_pos rfl]
          exact Construction.union_nodes (List.cons_ne_nil (.literals listed) [.primitive .null])

/-! ## Objects -/

namespace Fields

/-- The leaves of the fields of an object. -/
def keys (fields : Fields) : List String :=
  (fields.required ++ fields.optional).flatMap fun entry => entry.2.keys

/-- The names of the fields of an object. -/
def names (fields : Fields) : List String :=
  (fields.required ++ fields.optional).map Prod.fst

theorem mem_keys_add
    {fields : Fields} {property : Property} {node : Draft} {target : String}
    (isKey : target ∈ (fields.add property node).keys) :
    target ∈ fields.keys ∨ target ∈ node.keys := by
  obtain ⟨entry, isEntry, isKey⟩ := List.mem_flatMap.mp isKey
  unfold add at isEntry
  have fromOld : entry ∈ fields.required ++ fields.optional ∨ entry.2 = node := by
    split at isEntry
    · rcases List.mem_append.mp isEntry with isRequired | isOptional
      · exact (Table.mem_set isRequired).imp_left (List.mem_append_left _)
      · exact Or.inl (List.mem_append_right _ isOptional)
    · rcases List.mem_append.mp isEntry with isRequired | isOptional
      · exact Or.inl (List.mem_append_left _ isRequired)
      · exact (Table.mem_set isOptional).imp_left (List.mem_append_right _)
  rcases fromOld with old | new
  · exact Or.inl (List.mem_flatMap.mpr ⟨entry, old, isKey⟩)
  · exact Or.inr (new ▸ isKey)

/-- A field with a new name is added to the required or to the optional fields, behind the others. -/
theorem add_of_absent
    {fields : Fields} {property : Property} (absent : fieldName property.name ∉ fields.names)
    (node : Draft) :
    fields.add property node =
      if property.required then
        { fields with required := fields.required ++ [(fieldName property.name, node)] }
      else { fields with optional := fields.optional ++ [(fieldName property.name, node)] } := by
  have differs : ∀ entry ∈ fields.required ++ fields.optional,
      (entry.1 == fieldName property.name) = false := by
    intro entry isEntry
    rw [beq_eq_false_iff_ne]
    intro same
    exact absent (List.mem_map.mpr ⟨entry, isEntry, same⟩)
  have requiredSet : Table.set (· == ·) (fieldName property.name) node fields.required =
      fields.required ++ [(fieldName property.name, node)] :=
    Table.set_of_absent (fun entry isEntry => differs entry (List.mem_append_left _ isEntry)) node
  have optionalSet : Table.set (· == ·) (fieldName property.name) node fields.optional =
      fields.optional ++ [(fieldName property.name, node)] :=
    Table.set_of_absent (fun entry isEntry => differs entry (List.mem_append_right _ isEntry)) node
  simp only [add, requiredSet, optionalSet]

theorem mem_keys_add_iff
    {fields : Fields} {property : Property} (absent : fieldName property.name ∉ fields.names)
    {node : Draft} {target : String} :
    target ∈ (fields.add property node).keys ↔ target ∈ fields.keys ∨ target ∈ node.keys := by
  rw [add_of_absent absent]
  cases property.required with
  | true =>
      simp only [keys, if_true, List.flatMap_append, List.flatMap_singleton, List.mem_append]
      exact or_right_comm
  | false =>
      simp only [keys, Bool.false_eq_true, if_false, List.flatMap_append, List.flatMap_singleton,
        List.mem_append]
      exact or_assoc.symm

theorem mem_names_add
    {fields : Fields} {property : Property} (absent : fieldName property.name ∉ fields.names)
    {node : Draft} {name : String} (isName : name ∈ (fields.add property node).names) :
    name ∈ fields.names ∨ name = fieldName property.name := by
  rw [add_of_absent absent] at isName
  cases required : property.required with
  | true =>
      simp only [names, required, if_true, List.map_append, List.map_singleton, List.mem_append,
        List.mem_singleton] at isName ⊢
      exact or_right_comm.mp isName
  | false =>
      simp only [names, required, Bool.false_eq_true, if_false, List.map_append,
        List.map_singleton, List.mem_append, List.mem_singleton] at isName ⊢
      exact or_assoc.mpr isName

end Fields

theorem error_of_draftProperties
    {collected : Fields} {listed : List Property} {failure : Failure}
    (failed : (draftProperties draft collected listed).outcome = .error failure) :
    ∃ property ∈ listed, (draft property.schema).outcome = .error failure := by
  induction listed generalizing collected with
  | nil => cases failed
  | cons first rest inductionHypothesis =>
      simp only [draftProperties, Traced.outcome_bind] at failed
      rcases Outcome.bind_eq_error_iff.mp failed with firstFailed | ⟨node, _, restFailed⟩
      · exact ⟨first, List.mem_cons_self, firstFailed⟩
      · obtain ⟨property, isListed, propertyFailed⟩ := inductionHypothesis restFailed
        exact ⟨property, List.mem_cons_of_mem _ isListed, propertyFailed⟩

/-- The leaves of drafted properties are those of their nodes, beside those of the fields that they
are added to. None is lost if the names of the fields are different. -/
theorem draftProperties_eq_ok
    {collected fields : Fields} {listed : List Property}
    (drafted : (draftProperties draft collected listed).outcome = .ok fields) :
    (∀ property ∈ listed, ∃ inner, (draft property.schema).outcome = .ok inner) ∧
      (∀ target ∈ fields.keys, target ∈ collected.keys ∨
        ∃ property ∈ listed, ∃ inner, (draft property.schema).outcome = .ok inner ∧
          target ∈ inner.keys) ∧
      ((listed.map fun property => fieldName property.name).Nodup →
        (∀ property ∈ listed, fieldName property.name ∉ collected.names) →
        ∀ target, (target ∈ collected.keys ∨
          ∃ property ∈ listed, ∃ inner, (draft property.schema).outcome = .ok inner ∧
            target ∈ inner.keys) →
          target ∈ fields.keys) := by
  induction listed generalizing collected with
  | nil =>
      cases drafted
      refine ⟨fun _ impossible => (by cases impossible), fun _ isKey => Or.inl isKey, ?_⟩
      rintro _ _ target (isKey | ⟨_, impossible, _⟩)
      · exact isKey
      · cases impossible
  | cons first rest inductionHypothesis =>
      simp only [draftProperties, Traced.outcome_bind] at drafted
      obtain ⟨node, firstDrafted, restDrafted⟩ := Outcome.bind_eq_ok_iff.mp drafted
      obtain ⟨each, mentioned, complete⟩ := inductionHypothesis restDrafted
      refine ⟨?_, ?_, ?_⟩
      · intro property isListed
        rcases List.mem_cons.mp isListed with isFirst | later
        · exact ⟨node, isFirst ▸ firstDrafted⟩
        · exact each property later
      · intro target isKey
        rcases mentioned target isKey with added | ⟨property, isListed, inner, isDrafted, isKey⟩
        · rcases Fields.mem_keys_add added with old | new
          · exact Or.inl old
          · exact Or.inr ⟨first, List.mem_cons_self, node, firstDrafted, new⟩
        · exact Or.inr ⟨property, List.mem_cons_of_mem _ isListed, inner, isDrafted, isKey⟩
      · intro different absent target isMentioned
        rw [List.map_cons, List.nodup_cons] at different
        have firstAbsent := absent first List.mem_cons_self
        have restAbsent : ∀ property ∈ rest,
            fieldName property.name ∉ (collected.add first node).names := by
          intro property isListed isName
          rcases Fields.mem_names_add firstAbsent isName with old | same
          · exact absent property (List.mem_cons_of_mem _ isListed) old
          · exact different.1 (List.mem_map.mpr ⟨property, isListed, same⟩)
        apply complete different.2 restAbsent
        rcases isMentioned with old | ⟨property, isListed, inner, isDrafted, isKey⟩
        · exact Or.inl ((Fields.mem_keys_add_iff firstAbsent).mpr (Or.inl old))
        · rcases List.mem_cons.mp isListed with isFirst | later
          · rw [isFirst, firstDrafted] at isDrafted
            cases isDrafted
            exact Or.inl ((Fields.mem_keys_add_iff firstAbsent).mpr (Or.inr isKey))
          · exact Or.inr ⟨property, later, inner, isDrafted, isKey⟩

/-- The parts of an object: its required fields, its optional ones, and a record of the others. -/
theorem objectParts_eq (fields : Fields) (others : Option Draft) :
    objectParts fields others =
      .ok ((if !fields.required.isEmpty || fields.optional.isEmpty then
          [.fields .required fields.required] else []) ++
        (if fields.optional.isEmpty then [] else [.fields .optional fields.optional]) ++
        (others.map (Node.container .record)).toList) := by
  obtain ⟨required, optional⟩ := fields
  have made : ∀ presence entries, fieldsNode presence entries = .ok (.fields presence entries) :=
    fun presence entries => Construction.fields_nodes presence entries
  cases required <;> cases optional <;> cases others <;>
    simp [objectParts, made, Construction.container_node, Except.map, pure, Except.pure]

/-- The parts of an object are at most three and at least one. -/
theorem exists_objectParts (fields : Fields) (others : Option Draft) :
    ∃ parts, objectParts fields others = .ok parts ∧ parts ≠ [] ∧ parts.length ≤ 3 ∧
      parts.flatMap Node.keys = fields.keys ++ (others.map Node.keys).getD [] := by
  refine ⟨_, objectParts_eq fields others, ?_⟩
  obtain ⟨required, optional⟩ := fields
  cases required <;> cases optional <;> cases others <;>
    simp [Fields.keys, Node.keys, Node.keysOfEntries_eq_flatMap]

/-- The leaves of an object are those of its properties, and of the schema of its other members. -/
theorem objectNode_listed
    (listed : List Property) (others : Option Draft) :
    (∃ failure, (objectNode draft (.ok (some listed)) others).outcome = .error failure ∧
      ∃ property ∈ listed, (draft property.schema).outcome = .error failure) ∨
    ∃ fields node, (draftProperties draft {} listed).outcome = .ok fields ∧
      (objectNode draft (.ok (some listed)) others).outcome = .ok node ∧
      node.keys = fields.keys ++ (others.map Node.keys).getD [] := by
  unfold objectNode
  rw [Traced.ofExcept_ok_bind, Traced.outcome_bind]
  cases drafted : (draftProperties draft {} listed).outcome with
  | error failure => exact Or.inl ⟨failure, rfl, error_of_draftProperties drafted⟩
  | ok fields =>
      right
      obtain ⟨parts, made, present, atMostThree, sameKeys⟩ := exists_objectParts fields others
      obtain ⟨node, intersected, nodeKeys⟩ := (keys_intersectParts present).1 (by omega)
      refine ⟨fields, node, rfl, ?_, nodeKeys.trans sameKeys⟩
      rw [Outcome.bind_ok, Traced.outcome_ofExcept, made, Outcome.bind_ok, intersected]

section Additional

variable {additional : Option Json} {others : Option Draft}
  (others_eq : additional.map (fun schema => (draft schema).outcome) = others.map .ok)

include others_eq

theorem exists_of_mem_additional {schema : Json} (isAdditional : schema ∈ additional.toList) :
    ∃ inner, others = some inner ∧ (draft schema).outcome = .ok inner := by
  rw [Option.mem_toList] at isAdditional
  cases isAdditional
  cases others with
  | none => cases others_eq
  | some inner => exact ⟨inner, rfl, Option.some.inj others_eq⟩

theorem mem_keys_others_iff {target : String} :
    target ∈ (others.map Node.keys).getD [] ↔
      ∃ schema ∈ additional.toList, ∃ inner, (draft schema).outcome = .ok inner ∧
        target ∈ inner.keys := by
  cases additional with
  | none =>
      cases others with
      | none => simp
      | some inner => cases others_eq
  | some schema =>
      obtain ⟨inner, rfl, drafted⟩ :=
        exists_of_mem_additional others_eq (Option.mem_toList.mpr rfl)
      simp [drafted]

theorem yields_objectNode_unlisted :
    Yields draft (Form.object additional (.ok none)).fault? []
      (Form.object additional (.ok none)).subschemas (Form.object additional (.ok none)).NamesApart
      ((objectNode draft (.ok none) others).outcome.map Node.keys) := by
  have made : ∃ node, (objectNode draft (.ok none) others).outcome = .ok node ∧
      node.keys = (others.map Node.keys).getD [] := by
    cases others with
    | none => exact ⟨.primitive .unknownRecord, rfl, rfl⟩
    | some inner => exact ⟨.container .record inner, rfl, rfl⟩
  obtain ⟨node, made, sameKeys⟩ := made
  have subschemas_eq : (Form.object additional (.ok none)).subschemas = additional.toList := by
    simp only [subschemas, List.append_nil]
  rw [made, subschemas_eq]
  refine .made rfl ?_ ?_ ?_
  · intro schema isAdditional
    obtain ⟨inner, _, drafted⟩ := exists_of_mem_additional others_eq isAdditional
    exact ⟨inner, drafted⟩
  · intro target isKey
    rw [sameKeys] at isKey
    exact Or.inr ((mem_keys_others_iff others_eq).mp isKey)
  · rintro _ target (impossible | mentioned)
    · cases impossible
    · rw [sameKeys]
      exact (mem_keys_others_iff others_eq).mpr mentioned

theorem yields_objectNode_listed (listed : List Property) :
    Yields draft (Form.object additional (.ok (some listed))).fault? []
      (Form.object additional (.ok (some listed))).subschemas
      (Form.object additional (.ok (some listed))).NamesApart
      ((objectNode draft (.ok (some listed)) others).outcome.map Node.keys) := by
  have subschemas_eq : (Form.object additional (.ok (some listed))).subschemas =
      additional.toList ++ listed.map Property.schema := by
    rw [subschemas]
  have isPart : ∀ property ∈ listed,
      property.schema ∈ additional.toList ++ listed.map Property.schema :=
    fun property isListed => List.mem_append_right _ (List.mem_map.mpr ⟨property, isListed, rfl⟩)
  rw [subschemas_eq]
  rcases objectNode_listed listed others with
    ⟨failure, failed, property, isListed, propertyFailed⟩ | ⟨fields, node, drafted, made, sameKeys⟩
  · rw [failed]
    exact .failed (Or.inr ⟨property.schema, isPart property isListed, propertyFailed⟩)
  · obtain ⟨each, mentioned, complete⟩ := draftProperties_eq_ok drafted
    rw [made]
    refine .made rfl ?_ ?_ ?_
    · intro schema isSubschema
      rcases List.mem_append.mp isSubschema with isAdditional | isProperty
      · obtain ⟨inner, _, drafted⟩ := exists_of_mem_additional others_eq isAdditional
        exact ⟨inner, drafted⟩
      · obtain ⟨property, isListed, rfl⟩ := List.mem_map.mp isProperty
        exact each property isListed
    · intro target isKey
      rw [sameKeys] at isKey
      right
      rcases List.mem_append.mp isKey with ofField | ofOthers
      · rcases mentioned target ofField with impossible | ⟨property, isListed, inMember⟩
        · cases impossible
        · exact ⟨property.schema, isPart property isListed, inMember⟩
      · obtain ⟨schema, isAdditional, inMember⟩ := (mem_keys_others_iff others_eq).mp ofOthers
        exact ⟨schema, List.mem_append_left _ isAdditional, inMember⟩
    · rintro different target (impossible | ⟨schema, isSubschema, inMember⟩)
      · cases impossible
      · rw [sameKeys, List.mem_append]
        rcases List.mem_append.mp isSubschema with isAdditional | isProperty
        · exact Or.inr ((mem_keys_others_iff others_eq).mpr ⟨schema, isAdditional, inMember⟩)
        · obtain ⟨property, isListed, rfl⟩ := List.mem_map.mp isProperty
          have noNames : ∀ property ∈ listed, fieldName property.name ∉ ({} : Fields).names :=
            fun _ _ impossible => by cases impossible
          exact Or.inl (complete different noNames target
            (Or.inr ⟨property, isListed, inMember⟩))

theorem yields_objectNode (properties : Except Failure (Option (List Property))) :
    Yields draft (Form.object additional properties).fault? []
      (Form.object additional properties).subschemas (Form.object additional properties).NamesApart
      ((objectNode draft properties others).outcome.map Node.keys) := by
  match properties with
  | .error failure => exact .failed (Or.inl rfl)
  | .ok none => exact yields_objectNode_unlisted others_eq
  | .ok (some listed) => exact yields_objectNode_listed others_eq listed

end Additional

/-! ## Forms -/

theorem Yields.leafless {apart : Prop} : Yields draft none [] [] apart (.ok []) := by
  refine .made rfl (fun _ impossible => by cases impossible) ?_ ?_
  · intro target impossible
    cases impossible
  · rintro _ target (impossible | ⟨_, impossible, _⟩) <;> cases impossible

theorem Yields.of_error
    {fault? : Option Failure} {targets : List String} {subschemas : List Json} {apart : Prop}
    {failure : Failure}
    (yields : Yields draft fault? targets subschemas apart (.error failure)) :
    fault? = some failure ∨
      ∃ subschema ∈ subschemas, (draft subschema).outcome = .error failure := by
  cases yields with
  | failed cause => exact cause

theorem mentions_append_iff
    {firstTargets restTargets : List String} {firstSubschemas restSubschemas : List Json}
    {target : String} :
    Mentions draft (firstTargets ++ restTargets) (firstSubschemas ++ restSubschemas) target ↔
      Mentions draft firstTargets firstSubschemas target ∨
        Mentions draft restTargets restSubschemas target := by
  unfold Mentions
  rw [List.mem_append]
  constructor
  · rintro ((inFirst | inRest) | ⟨subschema, isPart, inMember⟩)
    · exact Or.inl (Or.inl inFirst)
    · exact Or.inr (Or.inl inRest)
    · rcases List.mem_append.mp isPart with ofFirst | ofRest
      · exact Or.inl (Or.inr ⟨subschema, ofFirst, inMember⟩)
      · exact Or.inr (Or.inr ⟨subschema, ofRest, inMember⟩)
  · rintro ((inFirst | ⟨subschema, ofFirst, inMember⟩) | (inRest | ⟨subschema, ofRest, inMember⟩))
    · exact Or.inl (Or.inl inFirst)
    · exact Or.inr ⟨subschema, List.mem_append_left _ ofFirst, inMember⟩
    · exact Or.inl (Or.inr inRest)
    · exact Or.inr ⟨subschema, List.mem_append_right _ ofRest, inMember⟩

/-- One form before others: the failure is the first one, and the leaves are those of both. -/
theorem Yields.append
    {first rest : Option Failure} {firstTargets restTargets : List String}
    {firstSubschemas restSubschemas : List Json} {firstApart restApart : Prop}
    {keys otherKeys : Except Failure (List String)}
    (head : Yields draft first firstTargets firstSubschemas firstApart keys)
    (tail : Yields draft rest restTargets restSubschemas restApart otherKeys) :
    Yields draft (first.or rest) (firstTargets ++ restTargets) (firstSubschemas ++ restSubschemas)
      (firstApart ∧ restApart) (keys >>= fun keys => otherKeys.map (keys ++ ·)) := by
  cases head with
  | @failed failure cause =>
      refine .failed ?_
      rcases cause with faulty | ⟨subschema, isPart, partFailed⟩
      · exact Or.inl (by rw [faulty]; rfl)
      · exact Or.inr ⟨subschema, List.mem_append_left _ isPart, partFailed⟩
  | @made keys faultless drafted mentioned complete =>
      subst faultless
      rw [Option.none_or, Outcome.bind_ok]
      cases tail with
      | @failed failure cause =>
          refine .failed (cause.imp_right ?_)
          rintro ⟨subschema, isPart, partFailed⟩
          exact ⟨subschema, List.mem_append_right _ isPart, partFailed⟩
      | @made otherKeys restFaultless restDrafted restMentioned restComplete =>
          refine .made restFaultless ?_ ?_ ?_
          · intro subschema isPart
            rcases List.mem_append.mp isPart with ofFirst | ofRest
            · exact drafted subschema ofFirst
            · exact restDrafted subschema ofRest
          · intro target isKey
            apply mentions_append_iff.mpr
            rcases List.mem_append.mp isKey with inFirst | inRest
            · exact Or.inl (mentioned target inFirst)
            · exact Or.inr (restMentioned target inRest)
          · rintro ⟨firstSeparate, restSeparate⟩ target isMentioned
            apply List.mem_append.mpr
            rcases mentions_append_iff.mp isMentioned with inFirst | inRest
            · exact Or.inl (complete firstSeparate target inFirst)
            · exact Or.inr (restComplete restSeparate target inRest)

theorem ne_nil_of_length_eq
    {part : Type} {parts : List part} {nodes : List Draft}
    (present : parts ≠ []) (sameLength : nodes.length = parts.length) :
    nodes ≠ [] := by
  intro empty
  rw [empty] at sameLength
  exact present (List.length_eq_zero_iff.mp sameLength.symm)

theorem length_of_assembleAll
    {forms : List Form} {nodes : List Draft}
    (drafted : (assembleAll draft forms).outcome = .ok nodes) :
    nodes.length = forms.length := by
  induction forms generalizing nodes with
  | nil =>
      cases drafted
      rfl
  | cons first rest inductionHypothesis =>
      simp only [assembleAll, Traced.outcome_bind, Traced.outcome_pure] at drafted
      obtain ⟨node, _, drafted⟩ := Outcome.bind_eq_ok_iff.mp drafted
      obtain ⟨others, restDrafted, drafted⟩ := Outcome.bind_eq_ok_iff.mp drafted
      cases drafted
      rw [List.length_cons, List.length_cons, inductionHypothesis restDrafted]

mutual

/-- What the draft of a sound form comes to. -/
theorem yields_assemble :
    (form : Form) → form.Sound →
      Yields draft form.fault? form.targets form.subschemas form.NamesApart
        ((assemble draft form).outcome.map Node.keys)
  | .rejected failure, _ => .failed (Or.inl rfl)
  | .primitive _, _ => .leafless
  | .reference target, _ => by
      refine .made rfl (fun _ impossible => by cases impossible) (fun _ isKey => Or.inl isKey) ?_
      rintro _ other (isTarget | ⟨_, impossible, _⟩)
      · exact isTarget
      · cases impossible
  | .choice members, sound => by
      apply Yields.of_true
      apply yields_of_members
      intro nodes sameLength
      have present := ne_nil_of_length_eq sound sameLength
      exact Or.inr ⟨rfl, .group .union nodes, Construction.union_nodes present,
        by rw [Node.keys, Node.keysOfMembers_eq_flatMap]⟩
  | .discriminated tag tags members, sound => by
      apply Yields.of_true
      apply yields_of_members
      intro nodes sameLength
      have present := ne_nil_of_length_eq sound.1 sameLength
      exact Or.inr ⟨rfl, keys_discriminatedNode present sound.2⟩
  | .intersection members, sound => by
      apply Yields.of_true
      apply yields_of_members
      intro nodes sameLength
      have present := ne_nil_of_length_eq sound sameLength
      have fault_eq : (Form.intersection members).fault? =
          if nodes.length ≤ 5 then none
          else some (.arity "intersection" 2 5 nodes.length) := by
        rw [fault?, sameLength]
        rfl
      rw [fault_eq]
      by_cases short : nodes.length ≤ 5
      · rw [if_pos short]
        exact Or.inr ⟨rfl, (keys_intersectParts present).1 short⟩
      · rw [if_neg short]
        exact Or.inl ⟨_, rfl, (keys_intersectParts present).2 (by omega)⟩
  | .values literals nullable, sound => by
      obtain ⟨node, made, noKeys⟩ := keys_valuesNode sound nullable
      have outcome_eq : (assemble draft (.values literals nullable)).outcome = .ok node := made
      rw [outcome_eq, Except.map, noKeys]
      exact .leafless
  | .alternatives forms, sound => by
      have all := yieldsAll_assembleAll forms sound.2
      cases drafted : (assembleAll draft forms).outcome with
      | error failure =>
          rw [drafted] at all
          have outcome_eq :
              (assemble draft (.alternatives forms)).outcome = .error failure := by
            simp only [assemble, Traced.outcome_bind, drafted, Outcome.bind_error]
          rw [outcome_eq]
          exact all
      | ok nodes =>
          rw [drafted] at all
          have present := ne_nil_of_length_eq sound.1 (length_of_assembleAll drafted)
          have outcome_eq :
              (assemble draft (.alternatives forms)).outcome = .ok (.group .union nodes) := by
            simp only [assemble, Traced.outcome_bind, drafted, Outcome.bind_ok,
              Traced.outcome_ofExcept]
            exact Construction.union_nodes present
          rw [outcome_eq, Except.map, Node.keys, Node.keysOfMembers_eq_flatMap]
          exact all
  | .object none properties, _ => yields_objectNode rfl properties
  | .object (some schema) properties, _ => by
      rw [assemble, Traced.outcome_bind]
      cases drafted : (draft schema).outcome with
      | error failure =>
          exact .failed (Or.inr ⟨schema, List.mem_append_left _ (by simp), drafted⟩)
      | ok others =>
          rw [Outcome.bind_ok]
          exact yields_objectNode (by rw [Option.map_some, Option.map_some, drafted]) properties
  | .array item, _ => by
      rw [assemble, Traced.outcome_bind]
      cases drafted : (draft item).outcome with
      | error failure => exact .failed (Or.inr ⟨item, List.mem_singleton.mpr rfl, drafted⟩)
      | ok node =>
          rw [Outcome.bind_ok, Traced.outcome_ofExcept, Construction.container_node,
            Except.map, Node.keys]
          refine .made rfl ?_ ?_ ?_
          · intro subschema isItem
            exact ⟨node, (List.mem_singleton.mp isItem) ▸ drafted⟩
          · intro target isKey
            exact Or.inr ⟨item, List.mem_singleton.mpr rfl, node, drafted, isKey⟩
          · rintro _ target (impossible | ⟨subschema, isItem, inner, isDrafted, isKey⟩)
            · cases impossible
            · rw [List.mem_singleton.mp isItem, drafted] at isDrafted
              cases isDrafted
              exact isKey
  | .tuple members, _ => by
      apply Yields.of_true
      apply yields_of_members
      intro nodes sameLength
      have fault_eq : (Form.tuple members).fault? =
          if 1 ≤ nodes.length ∧ nodes.length ≤ 5 then none
          else some (.arity "tuple" 1 5 nodes.length) := by
        rw [fault?, sameLength]
        rfl
      rw [fault_eq, Traced.outcome_ofExcept, Construction.tuple_nodes]
      by_cases within : 1 ≤ nodes.length ∧ nodes.length ≤ 5
      · rw [if_pos within, if_pos within]
        exact Or.inr ⟨rfl, .group .tuple nodes, rfl,
          by rw [Node.keys, Node.keysOfMembers_eq_flatMap]⟩
      · rw [if_neg within, if_neg within]
        exact Or.inl ⟨_, rfl, rfl⟩

theorem yieldsAll_assembleAll :
    (forms : List Form) → AllSound forms →
      Yields draft (faultOfAny? forms) (targetsOfAll forms) (subschemasOfAll forms)
        (AllNamesApart forms)
        ((assembleAll draft forms).outcome.map fun nodes => nodes.flatMap Node.keys)
  | [], _ => .leafless
  | form :: rest, sound => by
      have both := (yields_assemble form sound.1).append (yieldsAll_assembleAll rest sound.2)
      have outcome_eq :
          ((assembleAll draft (form :: rest)).outcome.map fun nodes => nodes.flatMap Node.keys) =
            (((assemble draft form).outcome.map Node.keys) >>= fun keys =>
              ((assembleAll draft rest).outcome.map fun nodes => nodes.flatMap Node.keys).map
                (keys ++ ·)) := by
        rw [assembleAll, Traced.outcome_bind]
        cases (assemble draft form).outcome with
        | error failure => rfl
        | ok node =>
            simp only [Outcome.bind_ok, Traced.outcome_bind, Traced.outcome_pure]
            cases (assembleAll draft rest).outcome with
            | error failure => rfl
            | ok nodes => rfl
      rw [outcome_eq]
      exact both

end

end Form

/-! ## Schemas -/

namespace Document

variable {root schema : Json}

/-- What the draft of a schema comes to, by its form. -/
theorem yields_draft (root schema : Json) :
    Form.Yields root.draft (root.form schema).fault? (root.form schema).targets
      (root.form schema).subschemas (root.form schema).NamesApart
      ((root.draft schema).outcome.map Node.keys) := by
  rw [root.draft_eq schema]
  exact Form.yields_assemble (root.form schema) (Form.sound_form root schema)

/-- A draft fails with a fault of the schema or of a schema in it. -/
theorem fault_of_draft_error
    {failure : Failure} (failed : (root.draft schema).outcome = .error failure) :
    ∃ inner, Within root schema inner ∧ (root.form inner).fault? = some failure := by
  induction schema using Json.descent_induction root with
  | step schema inductionHypothesis =>
      have yields := yields_draft root schema
      rw [failed] at yields
      rcases yields.of_error with faulty | ⟨subschema, isPart, partFailed⟩
      · exact ⟨schema, .refl schema, faulty⟩
      · obtain ⟨inner, within, faulty⟩ := inductionHypothesis subschema isPart partFailed
        exact ⟨inner, .part isPart within, faulty⟩

theorem fault_eq_none_of_draft_ok
    {node : Node String} (drafted : (root.draft schema).outcome = .ok node)
    {inner : Json} (within : Within root schema inner) :
    (root.form inner).fault? = none := by
  induction within generalizing node with
  | refl schema =>
      have yields := yields_draft root schema
      rw [drafted] at yields
      cases yields with
      | made faultless => exact faultless
  | @part schema subschema inner isPart _ inductionHypothesis =>
      have yields := yields_draft root schema
      rw [drafted] at yields
      cases yields with
      | made _ each =>
          obtain ⟨partNode, partDrafted⟩ := each subschema isPart
          exact inductionHypothesis partDrafted

/-- A schema has a node exactly if it and the schemas in it are free of faults. -/
theorem draft_ok_iff :
    (∃ node, (root.draft schema).outcome = .ok node) ↔
      ∀ inner, Within root schema inner → (root.form inner).fault? = none := by
  constructor
  · rintro ⟨node, drafted⟩ inner within
    exact fault_eq_none_of_draft_ok drafted within
  · intro faultless
    cases drafted : (root.draft schema).outcome with
    | ok node => exact ⟨node, rfl⟩
    | error failure =>
        obtain ⟨inner, within, faulty⟩ := fault_of_draft_error drafted
        rw [faultless inner within] at faulty
        cases faulty

/-- The leaves of a draft are references in the schema or in schemas in it. -/
theorem exists_within_of_mem_keys
    {node : Node String} (drafted : (root.draft schema).outcome = .ok node)
    {reference : String} (isKey : reference ∈ node.keys) :
    ∃ inner, Within root schema inner ∧ reference ∈ (root.form inner).targets := by
  induction schema using Json.descent_induction root generalizing node with
  | step schema inductionHypothesis =>
      have yields := yields_draft root schema
      rw [drafted] at yields
      cases yields with
      | made _ _ mentioned =>
          rcases mentioned reference isKey with refers | ⟨subschema, isPart, inner, partDrafted, isKey⟩
          · exact ⟨schema, .refl schema, refers⟩
          · obtain ⟨inner, within, refers⟩ := inductionHypothesis subschema isPart partDrafted isKey
            exact ⟨inner, .part isPart within, refers⟩

/-- If the fields of objects have different names, all references in a schema and in the schemas in
it are leaves of its draft. -/
theorem mem_keys_of_within
    {node : Node String} (drafted : (root.draft schema).outcome = .ok node)
    {inner : Json} (within : Within root schema inner)
    (apart : ∀ inner, Within root schema inner → (root.form inner).NamesApart)
    {reference : String} (refers : reference ∈ (root.form inner).targets) :
    reference ∈ node.keys := by
  induction within generalizing node with
  | refl schema =>
      have yields := yields_draft root schema
      rw [drafted] at yields
      cases yields with
      | made _ _ _ complete => exact complete (apart schema (.refl schema)) _ (Or.inl refers)
  | @part schema subschema inner isPart _ inductionHypothesis =>
      have yields := yields_draft root schema
      rw [drafted] at yields
      cases yields with
      | made _ each _ complete =>
          obtain ⟨partNode, partDrafted⟩ := each subschema isPart
          have isKey := inductionHypothesis partDrafted
            (fun inner deeper => apart inner (.part isPart deeper)) refers
          exact complete (apart schema (.refl schema)) _
            (Or.inr ⟨subschema, isPart, partNode, partDrafted, isKey⟩)

end Document

end SchemaSignature
