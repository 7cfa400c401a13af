import SchemaSignature.Proofs.Document.Drafts
import SchemaSignature.Proofs.Document.RenamedForms
import SchemaSignature.Proofs.Naming.Renaming

/-!
The drafts of renamed forms. If the subschemas of a form have the drafts of the renamed subschemas up
to their references, so has the form: constructors look at their members only to count them, and
tables at their keys.
-/

namespace SchemaSignature

namespace Form

/-- Computations of nodes that both fail, or of which the second gives the renamed node. -/
abbrev Agree (rename : String → String) (one other : Except Failure Draft) : Prop :=
  Outcome.Matches (fun node renamed => renamed = node.map rename) one other

/-! ## Nodes of members -/

section Members

variable {rename : String → String}

theorem union_renamed (nodes : List Draft) :
    Agree rename (Construction.union (nodes.map .node))
      (Construction.union ((nodes.map (Node.map rename)).map .node)) := by
  cases nodes with
  | nil => exact .failed _ _
  | cons first rest =>
      have present : (first :: rest).map (Node.map rename) ≠ [] := List.cons_ne_nil _ _
      rw [Construction.union_nodes (List.cons_ne_nil _ _), Construction.union_nodes present]
      refine .done ?_
      rw [Node.map, Node.mapMembers_eq_map]

theorem sum_renamed (tag otherTag : Json) (nodes : List Draft) :
    Agree rename (Construction.sum tag (nodes.map .node))
      (Construction.sum otherTag ((nodes.map (Node.map rename)).map .node)) := by
  cases nodes with
  | nil => exact .failed _ _
  | cons first rest =>
      have present : (first :: rest).map (Node.map rename) ≠ [] := List.cons_ne_nil _ _
      rw [Construction.sum_nodes _ (List.cons_ne_nil _ _), Construction.sum_nodes _ present]
      refine .done ?_
      rw [Node.map, Node.mapMembers_eq_map]

theorem tuple_renamed (nodes : List Draft) :
    Agree rename (Construction.tuple (nodes.map .node))
      (Construction.tuple ((nodes.map (Node.map rename)).map .node)) := by
  rw [Construction.tuple_nodes, Construction.tuple_nodes, List.length_map]
  split
  · refine .done ?_
    rw [Node.map, Node.mapMembers_eq_map]
  · exact .failed _ _

theorem intersectParts_renamed (parts : List Draft) :
    Agree rename (intersectParts parts) (intersectParts (parts.map (Node.map rename))) := by
  have several : Agree rename (Construction.intersection (parts.map .node))
      (Construction.intersection ((parts.map (Node.map rename)).map .node)) := by
    rw [Construction.intersection_nodes, Construction.intersection_nodes, List.length_map]
    split
    · refine .done ?_
      rw [Node.map, Node.mapMembers_eq_map]
    · exact .failed _ _
  match parts with
  | [] => exact several
  | [part] => exact .done rfl
  | _ :: _ :: _ => exact several

theorem valuesNode_renamed (literals : List Json) (nullable : Bool) :
    Agree rename (valuesNode literals nullable) (valuesNode literals nullable) := by
  unfold valuesNode
  split
  · exact .done rfl
  · cases made : (Construction.literals literals : Except Failure Draft) with
    | error failure => exact .failed _ _
    | ok node =>
        obtain ⟨listed, rfl, _, _⟩ := Construction.exists_of_literals made
        cases nullable with
        | false => exact .done rfl
        | true => exact union_renamed [.literals listed, .primitive .null]

theorem discriminatedNode_renamed (tag otherTag : Json) (tags : List Json) (nodes : List Draft) :
    Agree rename (discriminatedNode tag tags nodes).outcome
      (discriminatedNode otherTag tags (nodes.map (Node.map rename))).outcome := by
  have anyKind : ∀ entry ∈ tags.zip nodes, entry.1.isKey = true → True := fun _ _ _ => trivial
  have keyed :=
    keyedTable_map (fun _ => True) id (fun _ => rfl) (fun _ _ _ _ => rfl) (Node.map rename) anyKind
  unfold discriminatedNode
  rw [List.zip_map_right]
  simp only [Traced.outcome_bind, Traced.outcome_ofExcept]
  refine keyed.bind ?_
  rintro table _ _ ⟨rfl, _⟩
  rw [List.length_map, List.length_map]
  split
  · exact union_renamed nodes
  · have summed : Agree rename (Construction.sum tag ((table.map Prod.snd).map .node))
        (Construction.sum otherTag (((table.map Prod.snd).map (Node.map rename)).map .node)) :=
      sum_renamed tag otherTag (table.map Prod.snd)
    simpa only [List.map_map, Function.comp_def, Prod.map_snd, Traced.outcome_ofExcept] using summed

end Members

/-! ## Objects -/

def Fields.renamed (rename : String → String) (fields : Fields) : Fields where
  required := fields.required.map (Prod.map id (Node.map rename))
  optional := fields.optional.map (Prod.map id (Node.map rename))

section Drafting

variable {rename : String → String} {draft otherDraft : Json → Traced Draft}

theorem Fields.renamed_add (collected : Fields) (property : Property) (node : Draft) :
    (collected.add property node).renamed (Pointer.renamed rename) =
      (collected.renamed (Pointer.renamed rename)).add (property.renamed rename)
        (node.map (Pointer.renamed rename)) := by
  unfold add
  simp only [Property.renamed]
  by_cases required : property.required = true
  · simp only [if_pos required, renamed, Table.set_map_content]
  · simp only [if_neg required, renamed, Table.set_map_content]

theorem objectParts_renamed (references : String → String) (fields : Fields) (others : Option Draft) :
    Outcome.Matches (fun parts renamed => renamed = parts.map (Node.map references))
      (objectParts fields others)
      (objectParts (fields.renamed references) (others.map (Node.map references))) := by
  rw [objectParts_eq, objectParts_eq]
  refine .done ?_
  obtain ⟨required, optional⟩ := fields
  cases required <;> cases optional <;> cases others <;>
    simp [Fields.renamed, Node.map, Node.mapEntries_eq_map]

/-- The drafts of some subschemas and of the renamed ones agree. -/
def AgreeOn (rename : String → String) (draft otherDraft : Json → Traced Draft)
    (subschemas : List Json) : Prop :=
  ∀ subschema ∈ subschemas, Agree (Pointer.renamed rename) (draft subschema).outcome
    (otherDraft (subschema.renamed rename .schema)).outcome

theorem draftProperties_renamed
    {listed : List Property} (agree : AgreeOn rename draft otherDraft (listed.map Property.schema))
    (collected : Fields) :
    Outcome.Matches (fun fields renamed => renamed = fields.renamed (Pointer.renamed rename))
      (draftProperties draft collected listed).outcome
      (draftProperties otherDraft (collected.renamed (Pointer.renamed rename))
        (listed.map (Property.renamed rename))).outcome := by
  induction listed generalizing collected with
  | nil => exact .done rfl
  | cons first rest inductionHypothesis =>
      have firstAgrees := agree first.schema List.mem_cons_self
      have restAgrees : AgreeOn rename draft otherDraft (rest.map Property.schema) :=
        fun subschema later => agree subschema (List.mem_cons_of_mem _ later)
      simp only [List.map_cons, draftProperties, Traced.outcome_bind]
      refine firstAgrees.bind ?_
      rintro node _ _ rfl
      rw [← Fields.renamed_add]
      exact inductionHypothesis restAgrees (collected.add first node)

theorem objectNode_renamed
    {properties others : Except Failure (Option (List Property))}
    (listing : Outcome.Matches
      (fun listed renamed => renamed = listed.map (List.map (Property.renamed rename)))
      properties others)
    (agree : ∀ listed, properties = .ok (some listed) →
      AgreeOn rename draft otherDraft (listed.map Property.schema))
    (additional : Option Draft) :
    Agree (Pointer.renamed rename) (objectNode draft properties additional).outcome
      (objectNode otherDraft others (additional.map (Node.map (Pointer.renamed rename)))).outcome := by
  unfold objectNode
  simp only [Traced.outcome_bind, Traced.outcome_ofExcept]
  refine listing.bind ?_
  rintro listed _ isListed rfl
  cases listed with
  | none =>
      cases additional with
      | none => exact .done rfl
      | some node =>
          simp only [Option.map_some, Traced.outcome_ofExcept, Construction.container_node]
          refine .done ?_
          rw [Node.map]
  | some listed =>
      simp only [Option.map_some, Traced.outcome_bind, Traced.outcome_ofExcept]
      refine (draftProperties_renamed (agree listed isListed) {}).bind ?_
      rintro fields _ _ rfl
      refine (objectParts_renamed (Pointer.renamed rename) fields additional).bind ?_
      rintro parts _ _ rfl
      exact intersectParts_renamed parts

/-! ## Forms -/

theorem draftAll_renamed
    {members : List Json} (agree : AgreeOn rename draft otherDraft members) :
    Outcome.Matches (fun nodes renamed => renamed = nodes.map (Node.map (Pointer.renamed rename)))
      (draftAll draft members).outcome
      (draftAll otherDraft (members.map (Json.renamed rename .schema))).outcome := by
  induction members with
  | nil => exact .done rfl
  | cons first rest inductionHypothesis =>
      have firstAgrees := agree first List.mem_cons_self
      have restAgrees := inductionHypothesis fun subschema later =>
        agree subschema (List.mem_cons_of_mem _ later)
      simp only [List.map_cons, draftAll, Traced.outcome_bind, Traced.outcome_pure]
      refine firstAgrees.bind ?_
      rintro node _ _ rfl
      refine restAgrees.bind ?_
      rintro nodes _ _ rfl
      exact .done rfl

mutual

/-- If the drafts of the subschemas of a form agree, so do the drafts of the form and of the renamed
one. -/
theorem assemble_renamed :
    (form : Form) → {other : Form} → Renamed rename form other →
      AgreeOn rename draft otherDraft form.subschemas →
        Agree (Pointer.renamed rename) (assemble draft form).outcome
          (assemble otherDraft other).outcome
  | .rejected _, _, .rejected _ _, _ => by
      simp only [assemble]
      exact .failed _ _
  | .primitive _, _, .primitive _, _ => by
      simp only [assemble]
      exact .done rfl
  | .reference _, _, .reference _, _ => by
      simp only [assemble]
      exact .done rfl
  | .choice members, _, .choice _, agree => by
      simp only [assemble, Traced.outcome_bind, Traced.outcome_ofExcept]
      refine (draftAll_renamed agree).bind ?_
      rintro nodes _ _ rfl
      exact union_renamed nodes
  | .discriminated tag tags members, _, .discriminated _ otherTag _ _, agree => by
      simp only [assemble, Traced.outcome_bind]
      refine (draftAll_renamed agree).bind ?_
      rintro nodes _ _ rfl
      exact discriminatedNode_renamed tag otherTag tags nodes
  | .intersection members, _, .intersection _, agree => by
      simp only [assemble, Traced.outcome_bind, Traced.outcome_ofExcept]
      refine (draftAll_renamed agree).bind ?_
      rintro nodes _ _ rfl
      exact intersectParts_renamed nodes
  | .values literals nullable, _, .values _ _, _ => by
      simp only [assemble, Traced.outcome_ofExcept]
      exact valuesNode_renamed literals nullable
  | .alternatives forms, _, .alternatives each, agree => by
      simp only [assemble, Traced.outcome_bind, Traced.outcome_ofExcept]
      refine (assembleAll_renamed forms each agree).bind ?_
      rintro nodes _ _ rfl
      exact union_renamed nodes
  | .object additional properties, _, .object _ listing, agree => by
      have agreeProperties : ∀ listed, properties = .ok (some listed) →
          AgreeOn rename draft otherDraft (listed.map Property.schema) := by
        rintro listed rfl subschema isListed
        exact agree subschema (List.mem_append_right _ isListed)
      cases additional with
      | none =>
          simp only [assemble, Option.map_none]
          exact objectNode_renamed listing agreeProperties none
      | some schema =>
          have schemaAgrees := agree schema (List.mem_append_left _ List.mem_cons_self)
          simp only [assemble, Option.map_some, Traced.outcome_bind]
          refine schemaAgrees.bind ?_
          rintro node _ _ rfl
          exact objectNode_renamed listing agreeProperties (some node)
  | .array item, _, .array _, agree => by
      have itemAgrees := agree item (List.mem_singleton.mpr rfl)
      simp only [assemble, Traced.outcome_bind, Traced.outcome_ofExcept,
        Construction.container_node]
      refine itemAgrees.bind ?_
      rintro node _ _ rfl
      refine .done ?_
      rw [Node.map]
  | .tuple members, _, .tuple _, agree => by
      simp only [assemble, Traced.outcome_bind, Traced.outcome_ofExcept]
      refine (draftAll_renamed agree).bind ?_
      rintro nodes _ _ rfl
      exact tuple_renamed nodes

theorem assembleAll_renamed :
    (forms : List Form) → {others : List Form} → AllRenamed rename forms others →
      AgreeOn rename draft otherDraft (subschemasOfAll forms) →
        Outcome.Matches (fun nodes renamed => renamed = nodes.map (Node.map (Pointer.renamed rename)))
          (assembleAll draft forms).outcome (assembleAll otherDraft others).outcome
  | [], _, .nil, _ => by
      simp only [assembleAll]
      exact .done rfl
  | form :: rest, _, .cons first later, agree => by
      have firstAgrees := assemble_renamed form first fun subschema isPart =>
        agree subschema (List.mem_append_left _ isPart)
      have restAgrees := assembleAll_renamed rest later fun subschema isPart =>
        agree subschema (List.mem_append_right _ isPart)
      simp only [assembleAll, Traced.outcome_bind, Traced.outcome_pure]
      refine firstAgrees.bind ?_
      rintro node _ _ rfl
      refine restAgrees.bind ?_
      rintro nodes _ _ rfl
      exact .done rfl

end

end Drafting

end Form

end SchemaSignature
