import SchemaSignature.Proofs.Document.Drafts
import SchemaSignature.Proofs.Signature.Likeness

/-!
Nodes of a form that are written alike. If the members of a node are written alike one by one, so are
the nodes that are made of them, and what is refused is refused for the same reason. Hence the drafts
of forms coincide if those of the subschemas do. An array or a record of what may be anything is
written as the unknown array or record.
-/

namespace SchemaSignature

/-- A property and one with the same name, of which the subschemas are related. -/
structure Property.Corresponds (related : Json → Json → Prop) (property other : Property) : Prop where
  name : other.name = property.name
  required : other.required = property.required
  schema : related property.schema other.schema

namespace Form

/-- Lists of nodes that are written alike, one by one. -/
def AllAlike (nodes others : List Draft) : Prop :=
  others.map Node.canonical = nodes.map Node.canonical

theorem AllAlike.length_eq {nodes others : List Draft} (alike : AllAlike nodes others) :
    others.length = nodes.length := by
  have sameLength := congrArg List.length alike
  rwa [List.length_map, List.length_map] at sameLength

theorem AllAlike.eq_nil {others : List Draft} (alike : AllAlike [] others) : others = [] :=
  List.length_eq_zero_iff.mp alike.length_eq

theorem AllAlike.cons
    {node other : Draft} {nodes others : List Draft} (first : node.Alike other)
    (rest : AllAlike nodes others) : AllAlike (node :: nodes) (other :: others) := by
  unfold AllAlike
  rw [List.map_cons, List.map_cons, rest, first]

theorem container_alike {kind : Container} {node other : Draft} (alike : node.Alike other) :
    (Node.container kind node).Alike (.container kind other) := by
  rw [Node.Alike, Node.canonical, Node.canonical, alike]

/-! ## Nodes of members -/

section Members

variable {nodes others : List Draft} (alike : AllAlike nodes others)

include alike

theorem group_alike {kind otherKind : Grouping} (same : otherKind.canonical = kind.canonical) :
    (Node.group kind nodes).Alike (.group otherKind others) := by
  rw [Node.Alike, Node.canonical, Node.canonical, Node.canonicalMembers_eq_map,
    Node.canonicalMembers_eq_map, same, alike]

theorem ne_nil_alike (present : nodes ≠ []) : others ≠ [] := by
  rintro rfl
  exact present (List.length_eq_zero_iff.mp alike.length_eq.symm)

theorem union_coincides :
    Outcome.Coincides Node.Alike (Construction.union (nodes.map .node))
      (Construction.union (others.map .node)) := by
  by_cases present : nodes = []
  · subst present
    rw [alike.eq_nil]
    exact .failed _
  · rw [Construction.union_nodes present, Construction.union_nodes (ne_nil_alike alike present)]
    exact .done (group_alike alike rfl)

theorem tuple_coincides :
    Outcome.Coincides Node.Alike (Construction.tuple (nodes.map .node))
      (Construction.tuple (others.map .node)) := by
  rw [Construction.tuple_nodes, Construction.tuple_nodes, alike.length_eq]
  split
  · exact .done (group_alike alike rfl)
  · exact .failed _

theorem intersectParts_coincides :
    Outcome.Coincides Node.Alike (intersectParts nodes) (intersectParts others) := by
  have several : Outcome.Coincides Node.Alike (Construction.intersection (nodes.map .node))
      (Construction.intersection (others.map .node)) := by
    rw [Construction.intersection_nodes, Construction.intersection_nodes, alike.length_eq]
    split
    · exact .done (group_alike alike rfl)
    · exact .failed _
  match nodes, others, alike.length_eq with
  | [], [], _ => exact several
  | [part], [other], _ => exact .done (List.cons.inj alike).1.symm
  | _ :: _ :: _, _ :: _ :: _, _ => exact several

/-- Whatever the tags are, a discriminated choice is a sum or a union, which are written alike; only
without members it is refused. -/
theorem discriminatedNode_alike
    (tag otherTag : Json) {tags otherTags : List Json} (keys : ∀ given ∈ tags, given.isKey = true)
    (otherKeys : ∀ given ∈ otherTags, given.isKey = true) :
    ((discriminatedNode tag tags nodes).outcome = .error (.noSumMembers tag) ∧
        (discriminatedNode otherTag otherTags others).outcome = .error (.noSumMembers otherTag)) ∨
      ∃ node other, (discriminatedNode tag tags nodes).outcome = .ok node ∧
        (discriminatedNode otherTag otherTags others).outcome = .ok other ∧ node.Alike other := by
  by_cases present : nodes = []
  · subst present
    have refused (tag : Json) (tags : List Json) :
        (discriminatedNode tag tags []).outcome = .error (.noSumMembers tag) := by
      unfold discriminatedNode
      rw [List.zip_nil_right]
      rfl
    rw [alike.eq_nil]
    exact Or.inl ⟨refused tag tags, refused otherTag otherTags⟩
  · obtain ⟨kind, isChoice, made⟩ := discriminatedNode_cases tag present keys
    obtain ⟨otherKind, otherIsChoice, otherMade⟩ :=
      discriminatedNode_cases otherTag (ne_nil_alike alike present) otherKeys
    refine Or.inr ⟨_, _, made, otherMade, group_alike alike ?_⟩
    rcases isChoice with rfl | rfl <;> rcases otherIsChoice with rfl | rfl <;> rfl

theorem discriminatedNode_coincides
    (tag : Json) {tags otherTags : List Json} (keys : ∀ given ∈ tags, given.isKey = true)
    (otherKeys : ∀ given ∈ otherTags, given.isKey = true) :
    Outcome.Coincides Node.Alike (discriminatedNode tag tags nodes).outcome
      (discriminatedNode tag otherTags others).outcome := by
  rcases discriminatedNode_alike alike tag tag keys otherKeys with
    ⟨refused, otherRefused⟩ | ⟨_, _, made, otherMade, nodesAlike⟩
  · rw [refused, otherRefused]
    exact .failed _
  · rw [made, otherMade]
    exact .done nodesAlike

end Members

/-! ## Objects -/

/-- The fields of an object with the canonical forms of their nodes. -/
def Fields.canonical (fields : Fields) : Fields where
  required := fields.required.map (Prod.map id Node.canonical)
  optional := fields.optional.map (Prod.map id Node.canonical)

theorem Fields.canonical_add (collected : Fields) (property : Property) (node : Draft) :
    (collected.add property node).canonical =
      collected.canonical.add property node.canonical := by
  unfold add
  by_cases required : property.required = true
  · simp only [if_pos required, canonical, Table.set_map_content]
  · simp only [if_neg required, canonical, Table.set_map_content]

theorem Fields.add_congr {property other : Property} (name : other.name = property.name)
    (required : other.required = property.required) (collected : Fields) (node : Draft) :
    collected.add other node = collected.add property node := by
  unfold add
  rw [name, required]

/-- The parts of an object, in their canonical forms, are those of the canonical fields. -/
theorem objectParts_canonical (fields : Fields) (others : Option Draft) :
    (objectParts fields others).map (List.map Node.canonical) =
      objectParts fields.canonical (others.map Node.canonical) := by
  have entries (listed : List (String × Draft)) :
      Node.canonicalEntries listed = listed.map (Prod.map id Node.canonical) := by
    rw [Node.canonicalEntries_eq_map]
    rfl
  rw [objectParts_eq, objectParts_eq]
  obtain ⟨required, optional⟩ := fields
  cases required <;> cases optional <;> cases others <;>
    simp [Except.map, Fields.canonical, Node.canonical, entries]

theorem objectParts_coincides
    {fields otherFields : Fields} (sameFields : otherFields.canonical = fields.canonical)
    {others otherOthers : Option Draft} (sameOthers : Option.Rel Node.Alike others otherOthers) :
    Outcome.Coincides AllAlike (objectParts fields others)
      (objectParts otherFields otherOthers) := by
  have sameRest : otherOthers.map Node.canonical = others.map Node.canonical := by
    cases sameOthers with
    | none => rfl
    | some alike => exact congrArg some alike.symm
  have same := (objectParts_canonical otherFields otherOthers).trans
    ((congrArg₂ objectParts sameFields sameRest).trans (objectParts_canonical fields others).symm)
  obtain ⟨parts, made, _⟩ := exists_objectParts fields others
  obtain ⟨otherParts, otherMade, _⟩ := exists_objectParts otherFields otherOthers
  rw [made, otherMade] at same ⊢
  exact .done (Except.ok.inj same)

/-! ## Corresponding forms -/

mutual

/-- A form and one of the same kind with related subschemas. The tags of discriminated choices may
differ, and there are two ways to leave the items of an array or the members of an object open. -/
inductive Corresponds (related : Json → Json → Prop) : Form → Form → Prop where
  | rejected (failure : Failure) : Corresponds related (.rejected failure) (.rejected failure)
  | primitive (kind : Primitive) : Corresponds related (.primitive kind) (.primitive kind)
  | reference (target : String) : Corresponds related (.reference target) (.reference target)
  | choice {members others : List Json} (each : List.Forall₂ related members others) :
      Corresponds related (.choice members) (.choice others)
  | discriminated {tag : Json} {tags otherTags members others : List Json}
      (keys : ∀ given ∈ tags, given.isKey = true)
      (otherKeys : ∀ given ∈ otherTags, given.isKey = true)
      (each : List.Forall₂ related members others) :
      Corresponds related (.discriminated tag tags members) (.discriminated tag otherTags others)
  | intersection {members others : List Json} (each : List.Forall₂ related members others) :
      Corresponds related (.intersection members) (.intersection others)
  | values (literals : List Json) (nullable : Bool) :
      Corresponds related (.values literals nullable) (.values literals nullable)
  | alternatives {forms others : List Form} (each : AllCorrespond related forms others) :
      Corresponds related (.alternatives forms) (.alternatives others)
  | object {additional otherAdditional : Option Json}
      {properties others : Except Failure (Option (List Property))}
      (rest : Option.Rel related additional otherAdditional)
      (listing : Outcome.Coincides (Option.Rel (List.Forall₂ (Property.Corresponds related)))
        properties others) :
      Corresponds related (.object additional properties) (.object otherAdditional others)
  | array {item other : Json} (same : related item other) :
      Corresponds related (.array item) (.array other)
  | tuple {members others : List Json} (each : List.Forall₂ related members others) :
      Corresponds related (.tuple members) (.tuple others)
  | openItems : Corresponds related (.primitive .unknownArray) (.array (.obj []))
  | openMembers : Corresponds related (.object none (.ok none)) (.object (some (.obj [])) (.ok none))

/-- Lists of forms that correspond one by one. -/
inductive AllCorrespond (related : Json → Json → Prop) : List Form → List Form → Prop where
  | nil : AllCorrespond related [] []
  | cons {form other : Form} {rest others : List Form} (first : Corresponds related form other)
      (later : AllCorrespond related rest others) :
      AllCorrespond related (form :: rest) (other :: others)

end

/-- The drafts of two schemas coincide. -/
def DraftsCoincide (draft otherDraft : Json → Traced Draft) (schema other : Json) : Prop :=
  Outcome.Coincides Node.Alike (draft schema).outcome (otherDraft other).outcome

section Drafting

variable {draft otherDraft : Json → Traced Draft}

theorem draftAll_coincides
    {members others : List Json}
    (each : List.Forall₂ (DraftsCoincide draft otherDraft) members others) :
    Outcome.Coincides AllAlike (draftAll draft members).outcome
      (draftAll otherDraft others).outcome := by
  induction each with
  | nil => exact .done rfl
  | cons first _ inductionHypothesis =>
      simp only [draftAll, Traced.outcome_bind, Traced.outcome_pure]
      refine first.bind fun node otherNode _ alike => ?_
      exact inductionHypothesis.bind fun nodes otherNodes _ allAlike => .done (.cons alike allAlike)

theorem draftProperties_coincides
    {listed others : List Property}
    (each : List.Forall₂ (Property.Corresponds (DraftsCoincide draft otherDraft)) listed others)
    {collected otherCollected : Fields} (same : otherCollected.canonical = collected.canonical) :
    Outcome.Coincides (fun fields otherFields : Fields => otherFields.canonical = fields.canonical)
      (draftProperties draft collected listed).outcome
      (draftProperties otherDraft otherCollected others).outcome := by
  induction each generalizing collected otherCollected with
  | nil => exact .done same
  | cons first _ inductionHypothesis =>
      simp only [draftProperties, Traced.outcome_bind]
      refine first.schema.bind fun node otherNode _ alike => ?_
      refine inductionHypothesis ?_
      rw [Fields.canonical_add, Fields.canonical_add, same,
        Fields.add_congr first.name first.required, alike]

theorem objectNode_coincides
    {properties others : Except Failure (Option (List Property))}
    (listing : Outcome.Coincides
      (Option.Rel (List.Forall₂ (Property.Corresponds (DraftsCoincide draft otherDraft))))
      properties others)
    {additional otherAdditional : Option Draft}
    (rest : Option.Rel Node.Alike additional otherAdditional) :
    Outcome.Coincides Node.Alike (objectNode draft properties additional).outcome
      (objectNode otherDraft others otherAdditional).outcome := by
  unfold objectNode
  simp only [Traced.outcome_bind, Traced.outcome_ofExcept]
  refine listing.bind fun listed otherListed _ related => ?_
  cases related with
  | none =>
      cases rest with
      | none => exact .done rfl
      | some alike =>
          simp only [Traced.outcome_ofExcept, Construction.container_node]
          exact .done (container_alike alike)
  | some related =>
      simp only [Traced.outcome_bind, Traced.outcome_ofExcept]
      refine (draftProperties_coincides related rfl).bind fun fields otherFields _ sameFields => ?_
      exact (objectParts_coincides sameFields rest).bind fun parts otherParts _ alike =>
        intersectParts_coincides alike

mutual

/-- If the drafts of the subschemas of a form coincide, so do the drafts of corresponding forms. -/
theorem assemble_coincides
    (openSchema : (otherDraft (.obj [])).outcome = .ok (.primitive .unknown)) :
    (form : Form) → {other : Form} → Corresponds (DraftsCoincide draft otherDraft) form other →
      Outcome.Coincides Node.Alike (assemble draft form).outcome (assemble otherDraft other).outcome
  | .rejected _, _, .rejected _ => by
      simp only [assemble]
      exact .failed _
  | .primitive _, _, .primitive _ | .reference _, _, .reference _ => by
      simp only [assemble]
      exact .done rfl
  | .choice _, _, .choice each => by
      simp only [assemble, Traced.outcome_bind, Traced.outcome_ofExcept]
      exact (draftAll_coincides each).bind fun _ _ _ alike => union_coincides alike
  | .discriminated tag _ _, _, .discriminated keys otherKeys each => by
      simp only [assemble, Traced.outcome_bind]
      exact (draftAll_coincides each).bind fun _ _ _ alike =>
        discriminatedNode_coincides alike tag keys otherKeys
  | .intersection _, _, .intersection each => by
      simp only [assemble, Traced.outcome_bind, Traced.outcome_ofExcept]
      exact (draftAll_coincides each).bind fun _ _ _ alike => intersectParts_coincides alike
  | .values literals nullable, _, .values _ _ => by
      simp only [assemble, Traced.outcome_ofExcept]
      have alike (node : Draft) : node.Alike node := rfl
      exact .refl alike _
  | .alternatives forms, _, .alternatives each => by
      simp only [assemble, Traced.outcome_bind, Traced.outcome_ofExcept]
      exact (assembleAll_coincides openSchema forms each).bind fun _ _ _ alike => union_coincides alike
  | .object _ _, _, .object rest listing => by
      cases rest with
      | none =>
          simp only [assemble]
          exact objectNode_coincides listing .none
      | some same =>
          simp only [assemble, Traced.outcome_bind]
          exact same.bind fun _ _ _ alike => objectNode_coincides listing (.some alike)
  | .array _, _, .array same => by
      simp only [assemble, Traced.outcome_bind, Traced.outcome_ofExcept,
        Construction.container_node]
      exact same.bind fun _ _ _ alike => .done (container_alike alike)
  | .tuple _, _, .tuple each => by
      simp only [assemble, Traced.outcome_bind, Traced.outcome_ofExcept]
      exact (draftAll_coincides each).bind fun _ _ _ alike => tuple_coincides alike
  | .primitive .unknownArray, _, .openItems => by
      simp only [assemble, Traced.outcome_bind, Traced.outcome_pure, openSchema,
        Outcome.bind_ok, Traced.outcome_ofExcept, Construction.container_node]
      exact .done rfl
  | .object none (.ok none), _, .openMembers => by
      simp only [assemble, objectNode, Traced.outcome_bind, Traced.outcome_pure, openSchema,
        Outcome.bind_ok, Traced.outcome_ofExcept, Construction.container_node]
      exact .done rfl

theorem assembleAll_coincides
    (openSchema : (otherDraft (.obj [])).outcome = .ok (.primitive .unknown)) :
    (forms : List Form) → {others : List Form} →
      AllCorrespond (DraftsCoincide draft otherDraft) forms others →
        Outcome.Coincides AllAlike (assembleAll draft forms).outcome
          (assembleAll otherDraft others).outcome
  | [], _, .nil => by
      simp only [assembleAll]
      exact .done rfl
  | form :: rest, _, .cons first later => by
      simp only [assembleAll, Traced.outcome_bind, Traced.outcome_pure]
      refine (assemble_coincides openSchema form first).bind fun node otherNode _ alike => ?_
      exact (assembleAll_coincides openSchema rest later).bind fun nodes otherNodes _ allAlike =>
        .done (.cons alike allAlike)

end

end Drafting

end Form

end SchemaSignature
