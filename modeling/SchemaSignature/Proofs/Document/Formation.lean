import SchemaSignature.Proofs.Document.Drafts

/-!
How the drafts of schemas are formed. Whatever the document, fields are named after properties, rows
of values and members are not empty, an intersection has several members, and the only leaves are
references. Filling in signatures for the references keeps this.
-/

namespace SchemaSignature

/-- The least number of members of a combination. -/
def Grouping.least : Grouping → Nat
  | .intersection => 2
  | .tuple | .sum | .union => 1

namespace Node

variable {key other : Type}

/-- A node is formed as drafts are, with keys and literals that have given properties. -/
inductive Formed (named : key → Prop) (listed : Literal → Prop) : Node key → Prop where
  | primitive (kind : Primitive) : Formed named listed (.primitive kind)
  | literals {values : List Literal} (present : values ≠ [])
      (each : ∀ value ∈ values, listed value) : Formed named listed (.literals values)
  | fields {presence : Presence} {entries : List (String × Node key)}
      (properties : ∀ entry ∈ entries, ∃ property, entry.1 = fieldName property)
      (each : ∀ entry ∈ entries, Formed named listed entry.2) :
      Formed named listed (.fields presence entries)
  | container {kind : Container} {element : Node key} (inner : Formed named listed element) :
      Formed named listed (.container kind element)
  | group {kind : Grouping} {members : List (Node key)} (enough : kind.least ≤ members.length)
      (each : ∀ member ∈ members, Formed named listed member) :
      Formed named listed (.group kind members)
  | lazy {leaf : key} (isNamed : named leaf) : Formed named listed (.lazy leaf)

/-- A formed node stays formed when formed trees are put in the places of its leaves. -/
theorem Formed.of_fillsTo
    {known : key → Prop} {named : other → Prop} {listed : Literal → Prop}
    {node : Node key} (formed : node.Formed known listed) {tree : Node other}
    (filled : FillsTo (fun _ tree => tree.Formed named listed) node tree) :
    tree.Formed named listed := by
  induction formed generalizing tree with
  | primitive kind =>
      obtain ⟨parts, _, rfl⟩ := filled
      exact .primitive kind
  | literals present each =>
      obtain ⟨parts, _, rfl⟩ := filled
      exact .literals present each
  | fields properties _ inductionHypothesis =>
      obtain ⟨inner, rfl, each⟩ := filled.fields
      refine .fields ?_ ?_
      · intro part isPart
        obtain ⟨entry, isEntry, sameName, _⟩ := exists_of_mem_right each isPart
        exact sameName ▸ properties entry isEntry
      · intro part isPart
        obtain ⟨entry, isEntry, _, filledEntry⟩ := exists_of_mem_right each isPart
        exact inductionHypothesis entry isEntry filledEntry
  | container _ inductionHypothesis =>
      obtain ⟨inner, rfl, filledElement⟩ := filled.container
      exact .container (inductionHypothesis filledElement)
  | group enough _ inductionHypothesis =>
      obtain ⟨inner, rfl, each⟩ := filled.group
      refine .group (each.length_eq ▸ enough) ?_
      intro part isPart
      obtain ⟨member, isMember, filledMember⟩ := exists_of_mem_right each isPart
      exact inductionHypothesis member isMember filledMember
  | lazy =>
      obtain ⟨parts, each, rfl⟩ := filled
      obtain ⟨part, _, formedPart, _, rfl⟩ := List.forall₂_cons_left_iff.mp each
      exact formedPart

end Node

namespace Form

variable {draft : Json → Traced Draft} {known : String → Prop} {listed : Literal → Prop}

mutual

/-- The literals of the values that a form lists have a property. -/
def Lists (listed : Literal → Prop) : Form → Prop
  | .values literals _ =>
      ∀ value ∈ literals, ∀ literal, Literal.ofJson? value = some literal → listed literal
  | .alternatives forms => AllList listed forms
  | _ => True

def AllList (listed : Literal → Prop) : List Form → Prop
  | [] => True
  | form :: rest => Lists listed form ∧ AllList listed rest

end

/-- An entry is named after a property, and its node is formed. -/
def IsField (known : String → Prop) (listed : Literal → Prop) (entry : String × Draft) : Prop :=
  (∃ property, entry.1 = fieldName property) ∧ entry.2.Formed known listed

/-! ## Constructors -/

theorem formed_union
    {nodes : List Draft} (each : ∀ node ∈ nodes, node.Formed known listed) {made : Draft}
    (isUnion : Construction.union (nodes.map .node) = .ok made) : made.Formed known listed := by
  cases nodes with
  | nil => cases isUnion
  | cons first rest =>
      rw [Construction.union_nodes (List.cons_ne_nil first rest)] at isUnion
      cases isUnion
      exact .group (Nat.succ_le_succ (Nat.zero_le _)) each

theorem formed_tuple
    {nodes : List Draft} (each : ∀ node ∈ nodes, node.Formed known listed) {made : Draft}
    (isTuple : Construction.tuple (nodes.map .node) = .ok made) : made.Formed known listed := by
  rw [Construction.tuple_nodes] at isTuple
  split at isTuple
  · next within =>
      cases isTuple
      exact .group within.1 each
  · cases isTuple

theorem formed_intersectParts
    {parts : List Draft} (each : ∀ part ∈ parts, part.Formed known listed) {made : Draft}
    (intersected : intersectParts parts = .ok made) : made.Formed known listed := by
  unfold intersectParts at intersected
  split at intersected
  · cases intersected
    exact each made List.mem_cons_self
  · rw [Construction.intersection_nodes] at intersected
    split at intersected
    · next within =>
        cases intersected
        exact .group within.1 each
    · cases intersected

theorem formed_valuesNode
    {literals : List Json}
    (each : ∀ value ∈ literals, ∀ literal, Literal.ofJson? value = some literal → listed literal)
    {nullable : Bool} {made : Draft} (isValues : valuesNode literals nullable = .ok made) :
    made.Formed known listed := by
  unfold valuesNode at isValues
  split at isValues
  · cases isValues
    exact .primitive .null
  · obtain ⟨alone, isLiterals, isValues⟩ := Outcome.bind_eq_ok_iff.mp isValues
    obtain ⟨written, rfl, present, sameValues⟩ := Construction.exists_of_literals isLiterals
    have formedAlone : Node.Formed known listed (.literals written) := by
      refine .literals present fun literal isWritten => ?_
      obtain ⟨value, isValue, isLiteral⟩ := Node.exists_of_mem_right sameValues isWritten
      exact each value isValue literal isLiteral
    split at isValues
    · have isUnion : Construction.union
          (([.literals written, .primitive .null] : List Draft).map .node) = .ok made := isValues
      refine formed_union ?_ isUnion
      intro node isMember
      rcases List.mem_pair.mp isMember with rfl | rfl
      · exact formedAlone
      · exact .primitive .null
    · cases isValues
      exact formedAlone

theorem formed_discriminatedNode
    {tag : Json} {tags : List Json} {nodes : List Draft} (present : nodes ≠ [])
    (keys : ∀ given ∈ tags, given.isKey = true) (each : ∀ node ∈ nodes, node.Formed known listed)
    {made : Draft} (isChoice : (discriminatedNode tag tags nodes).outcome = .ok made) :
    made.Formed known listed := by
  obtain ⟨kind, isKind, isGroup⟩ := discriminatedNode_cases _ present keys
  cases isGroup.symm.trans isChoice
  refine .group ?_ each
  have atLeastOne : 1 ≤ nodes.length := List.length_pos_of_ne_nil present
  rcases isKind with rfl | rfl <;> exact atLeastOne

/-! ## Objects -/

theorem isField_of_mem_set
    {name : String} {node : Draft} {entries : List (String × Draft)}
    (each : ∀ entry ∈ entries, IsField known listed entry)
    (isField : IsField known listed (name, node)) :
    ∀ entry ∈ Table.set (· == ·) name node entries, IsField known listed entry := by
  intro entry isEntry
  refine ⟨?_, ?_⟩
  · rcases Table.name_of_mem_set isEntry with sameName | ⟨old, isOld, sameName⟩
    · exact sameName ▸ isField.1
    · exact sameName ▸ (each old isOld).1
  · rcases Table.mem_set isEntry with isOld | sameNode
    · exact (each entry isOld).2
    · exact sameNode ▸ isField.2

theorem isField_of_draftProperties
    {collected fields : Fields} {properties : List Property}
    (drafted : (draftProperties draft collected properties).outcome = .ok fields)
    (formed : ∀ property ∈ properties, ∀ node, (draft property.schema).outcome = .ok node →
      node.Formed known listed)
    (each : ∀ entry ∈ collected.required ++ collected.optional, IsField known listed entry) :
    ∀ entry ∈ fields.required ++ fields.optional, IsField known listed entry := by
  induction properties generalizing collected with
  | nil =>
      cases drafted
      exact each
  | cons first rest inductionHypothesis =>
      simp only [draftProperties, Traced.outcome_bind] at drafted
      obtain ⟨node, firstDrafted, restDrafted⟩ := Outcome.bind_eq_ok_iff.mp drafted
      have firstIsField : IsField known listed (fieldName first.name, node) :=
        ⟨⟨first.name, rfl⟩, formed first List.mem_cons_self node firstDrafted⟩
      refine inductionHypothesis restDrafted
        (fun property later => formed property (List.mem_cons_of_mem _ later)) ?_
      intro entry isEntry
      have eachRequired := fun entry isRequired =>
        each entry (List.mem_append_left _ isRequired)
      have eachOptional := fun entry isOptional =>
        each entry (List.mem_append_right _ isOptional)
      unfold Fields.add at isEntry
      split at isEntry
      · rcases List.mem_append.mp isEntry with isRequired | isOptional
        · exact isField_of_mem_set eachRequired firstIsField entry isRequired
        · exact eachOptional entry isOptional
      · rcases List.mem_append.mp isEntry with isRequired | isOptional
        · exact eachRequired entry isRequired
        · exact isField_of_mem_set eachOptional firstIsField entry isOptional

theorem formed_objectParts
    {fields : Fields}
    (each : ∀ entry ∈ fields.required ++ fields.optional, IsField known listed entry)
    {others : Option Draft} (formedOthers : ∀ node ∈ others, node.Formed known listed)
    {parts : List Draft} (made : objectParts fields others = .ok parts) :
    ∀ part ∈ parts, part.Formed known listed := by
  have formedFields {presence : Presence} {entries : List (String × Draft)}
      (among : entries ⊆ fields.required ++ fields.optional) :
      Node.Formed known listed (.fields presence entries) :=
    .fields (fun entry isEntry => (each entry (among isEntry)).1)
      fun entry isEntry => (each entry (among isEntry)).2
  rw [objectParts_eq] at made
  cases made
  intro part isPart
  rcases List.mem_append.mp isPart with isPart | isPart
  · rcases List.mem_append.mp isPart with isPart | isPart
    · split at isPart
      · rw [List.mem_singleton.mp isPart]
        exact formedFields (List.subset_append_left _ _)
      · cases isPart
    · split at isPart
      · cases isPart
      · rw [List.mem_singleton.mp isPart]
        exact formedFields (List.subset_append_right _ _)
  · obtain ⟨node, isOther, rfl⟩ := Option.map_eq_some_iff.mp (Option.mem_toList.mp isPart)
    exact .container (formedOthers node isOther)

theorem formed_objectNode
    {properties : Except Failure (Option (List Property))}
    (formed : ∀ subschema ∈ (Form.object none properties).subschemas, ∀ node,
      (draft subschema).outcome = .ok node → node.Formed known listed)
    {others : Option Draft} (formedOthers : ∀ node ∈ others, node.Formed known listed)
    {made : Draft} (isObject : (objectNode draft properties others).outcome = .ok made) :
    made.Formed known listed := by
  match properties with
  | .error failure => cases isObject
  | .ok none =>
      cases others with
      | none =>
          cases isObject
          exact .primitive .unknownRecord
      | some node =>
          cases isObject
          exact .container (formedOthers node rfl)
  | .ok (some properties) =>
      unfold objectNode at isObject
      rw [Traced.ofExcept_ok_bind, Traced.outcome_bind] at isObject
      obtain ⟨fields, drafted, isObject⟩ := Outcome.bind_eq_ok_iff.mp isObject
      obtain ⟨parts, isParts, intersected⟩ := Outcome.bind_eq_ok_iff.mp isObject
      have each := isField_of_draftProperties drafted
        (fun property isListed =>
          formed property.schema (List.mem_map.mpr ⟨property, isListed, rfl⟩))
        (fun _ impossible => by cases impossible)
      exact formed_intersectParts (formed_objectParts each formedOthers isParts) intersected

/-! ## Forms -/

theorem formed_draftAll
    {members : List Json} {nodes : List Draft}
    (formed : ∀ member ∈ members, ∀ node, (draft member).outcome = .ok node →
      node.Formed known listed)
    (drafted : (draftAll draft members).outcome = .ok nodes) :
    ∀ node ∈ nodes, node.Formed known listed := by
  intro node isNode
  obtain ⟨member, isMember, memberDrafted⟩ :=
    Node.exists_of_mem_right (forall₂_of_draftAll drafted) isNode
  exact formed member isMember node memberDrafted

mutual

/-- The draft of a sound form is formed if the drafts of its subschemas are. -/
theorem formed_assemble :
    (form : Form) → form.Sound → form.Lists listed →
      (∀ subschema ∈ form.subschemas, ∀ node, (draft subschema).outcome = .ok node →
        node.Formed (fun _ => True) listed) →
      ∀ made, (assemble draft form).outcome = .ok made → made.Formed (fun _ => True) listed
  | .rejected _, _, _, _, _, drafted => by cases drafted
  | .primitive kind, _, _, _, _, drafted => by
      cases drafted
      exact .primitive kind
  | .reference _, _, _, _, _, drafted => by
      cases drafted
      exact .lazy trivial
  | .choice members, _, _, formed, made, drafted => by
      rw [assemble, Traced.outcome_bind] at drafted
      obtain ⟨nodes, all, isUnion⟩ := Outcome.bind_eq_ok_iff.mp drafted
      exact formed_union (formed_draftAll formed all) isUnion
  | .discriminated tag tags members, sound, _, formed, made, drafted => by
      rw [assemble, Traced.outcome_bind] at drafted
      obtain ⟨nodes, all, isChoice⟩ := Outcome.bind_eq_ok_iff.mp drafted
      have present := ne_nil_of_length_eq sound.1 (forall₂_of_draftAll all).length_eq.symm
      exact formed_discriminatedNode present sound.2 (formed_draftAll formed all) isChoice
  | .intersection members, _, _, formed, made, drafted => by
      rw [assemble, Traced.outcome_bind] at drafted
      obtain ⟨nodes, all, intersected⟩ := Outcome.bind_eq_ok_iff.mp drafted
      exact formed_intersectParts (formed_draftAll formed all) intersected
  | .values _ _, _, lists, _, _, drafted => formed_valuesNode lists drafted
  | .alternatives forms, sound, lists, formed, made, drafted => by
      rw [assemble, Traced.outcome_bind] at drafted
      obtain ⟨nodes, all, isUnion⟩ := Outcome.bind_eq_ok_iff.mp drafted
      exact formed_union (formed_assembleAll forms sound.2 lists formed nodes all) isUnion
  | .object none properties, _, _, formed, made, drafted =>
      formed_objectNode formed (fun _ impossible => by cases impossible) drafted
  | .object (some schema) properties, _, _, formed, made, drafted => by
      rw [assemble, Traced.outcome_bind] at drafted
      obtain ⟨others, othersDrafted, isObject⟩ := Outcome.bind_eq_ok_iff.mp drafted
      refine formed_objectNode
        (fun subschema isPart => formed subschema (List.mem_append_right _ isPart)) ?_ isObject
      rintro node ⟨⟩
      exact formed schema (List.mem_append_left _ List.mem_cons_self) others othersDrafted
  | .array item, _, _, formed, made, drafted => by
      rw [assemble, Traced.outcome_bind] at drafted
      obtain ⟨node, itemDrafted, isContainer⟩ := Outcome.bind_eq_ok_iff.mp drafted
      rw [Traced.outcome_ofExcept, Construction.container_node] at isContainer
      cases isContainer
      exact .container (formed item List.mem_cons_self node itemDrafted)
  | .tuple members, _, _, formed, made, drafted => by
      rw [assemble, Traced.outcome_bind] at drafted
      obtain ⟨nodes, all, isTuple⟩ := Outcome.bind_eq_ok_iff.mp drafted
      exact formed_tuple (formed_draftAll formed all) isTuple

theorem formed_assembleAll :
    (forms : List Form) → AllSound forms → AllList listed forms →
      (∀ subschema ∈ subschemasOfAll forms, ∀ node, (draft subschema).outcome = .ok node →
        node.Formed (fun _ => True) listed) →
      ∀ nodes, (assembleAll draft forms).outcome = .ok nodes →
        ∀ node ∈ nodes, node.Formed (fun _ => True) listed
  | [], _, _, _, _, drafted => by
      cases drafted
      intro node impossible
      cases impossible
  | form :: rest, sound, lists, formed, nodes, drafted => by
      simp only [assembleAll, Traced.outcome_bind, Traced.outcome_pure] at drafted
      obtain ⟨first, firstDrafted, drafted⟩ := Outcome.bind_eq_ok_iff.mp drafted
      obtain ⟨others, restDrafted, drafted⟩ := Outcome.bind_eq_ok_iff.mp drafted
      cases drafted
      intro node isNode
      rcases List.mem_cons.mp isNode with isFirst | later
      · rw [isFirst]
        exact formed_assemble form sound.1 lists.1
          (fun subschema isPart => formed subschema (List.mem_append_left _ isPart)) first
          firstDrafted
      · exact formed_assembleAll rest sound.2 lists.2
          (fun subschema isPart => formed subschema (List.mem_append_right _ isPart)) others
          restDrafted node later

end

end Form

namespace Document

/-- The draft of a schema is formed, with the literals of values that the schemas in it list. -/
theorem formed_draft
    {root schema : Json} {listed : Literal → Prop}
    (lists : ∀ inner, Within root schema inner → (root.form inner).Lists listed)
    {node : Node String} (drafted : (root.draft schema).outcome = .ok node) :
    node.Formed (fun _ => True) listed := by
  induction schema using Json.descent_induction root generalizing node with
  | step schema inductionHypothesis =>
      rw [root.draft_eq schema] at drafted
      refine Form.formed_assemble (root.form schema) (Form.sound_form root schema)
        (lists schema (.refl schema)) ?_ node drafted
      intro subschema isPart part partDrafted
      exact inductionHypothesis subschema isPart
        (fun inner within => lists inner (.part isPart within)) partDrafted

end Document

end SchemaSignature
