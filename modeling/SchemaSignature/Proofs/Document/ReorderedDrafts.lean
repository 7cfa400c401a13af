import SchemaSignature.Proofs.Document.AlikeDrafts
import SchemaSignature.Proofs.Document.ReorderedTags

/-!
The drafts of reordered forms. If the subschemas of a form and the reordered ones have drafts that are
written alike, so have the forms: the tags of a discriminated choice decide only whether it is a sum
or a union.
-/

namespace SchemaSignature

open Json (Listed)

namespace Form

/-- Computations of nodes that both fail, or give nodes that are written alike. -/
abbrev AgreeAlike (one other : Except Failure Draft) : Prop :=
  Outcome.Matches Node.Alike one other

/-- A discriminated choice of members that are written alike is written alike, whatever the tags. -/
theorem discriminatedNode_agree
    {nodes others : List Draft} (alike : AllAlike nodes others) {tag otherTag : Json}
    {tags otherTags : List Json} (keys : ∀ given ∈ tags, given.isKey = true)
    (otherKeys : ∀ given ∈ otherTags, given.isKey = true) :
    AgreeAlike (discriminatedNode tag tags nodes).outcome
      (discriminatedNode otherTag otherTags others).outcome := by
  rcases discriminatedNode_alike alike tag otherTag keys otherKeys with
    ⟨refused, otherRefused⟩ | ⟨_, _, made, otherMade, nodesAlike⟩
  · rw [refused, otherRefused]
    exact .failed _ _
  · rw [made, otherMade]
    exact .done nodesAlike

section Drafting

variable {draft otherDraft : Json → Traced Draft}

/-- The drafts of some subschemas and of reordered ones agree, and texts have no draft. -/
structure AgreeReordered (draft otherDraft : Json → Traced Draft) (subschemas : List Json) :
    Prop where
  each : ∀ subschema ∈ subschemas, ∀ other, subschema.Reordered other →
    AgreeAlike (draft subschema).outcome (otherDraft other).outcome
  text : ∀ text, ∃ failure, (draft (.str text)).outcome = .error failure
  otherText : ∀ text, ∃ failure, (otherDraft (.str text)).outcome = .error failure

theorem AgreeReordered.subset
    {subschemas fewer : List Json} (agree : AgreeReordered draft otherDraft subschemas)
    (subset : ∀ subschema ∈ fewer, subschema ∈ subschemas) :
    AgreeReordered draft otherDraft fewer :=
  ⟨fun subschema isFewer => agree.each subschema (subset subschema isFewer), agree.text,
    agree.otherText⟩

theorem draftAll_items_alike
    {members others : List Json} (related : List.Forall₂ Json.Reordered members others)
    (agree : AgreeReordered draft otherDraft members) :
    Outcome.Matches AllAlike (draftAll draft members).outcome (draftAll otherDraft others).outcome := by
  induction related with
  | nil => exact .done rfl
  | @cons first other rest others reordered _ inductionHypothesis =>
      have firstAgrees := agree.each first List.mem_cons_self other reordered
      have restAgrees := inductionHypothesis (agree.subset fun _ later => List.mem_cons_of_mem _ later)
      simp only [draftAll, Traced.outcome_bind, Traced.outcome_pure]
      refine firstAgrees.bind fun node otherNode _ alike => ?_
      exact restAgrees.bind fun nodes otherNodes _ allAlike => .done (.cons alike allAlike)

/-- A list of texts has no draft, unless it is empty. -/
theorem draftAll_texts
    {draft : Json → Traced Draft}
    (noDraft : ∀ text, ∃ failure, (draft (.str text)).outcome = .error failure)
    {texts : List String} (present : texts ≠ []) :
    ∃ failure, (draftAll draft (texts.map .str)).outcome = .error failure := by
  cases texts with
  | nil => exact absurd rfl present
  | cons first rest =>
      obtain ⟨failure, failed⟩ := noDraft first
      refine ⟨failure, ?_⟩
      rw [List.map_cons, draftAll, Traced.outcome_bind, failed]
      rfl

theorem draftAll_alike
    {members others : List Json} (listed : Listed members others)
    (agree : AgreeReordered draft otherDraft members) :
    Outcome.Matches AllAlike (draftAll draft members).outcome (draftAll otherDraft others).outcome := by
  cases listed with
  | items related => exact draftAll_items_alike related agree
  | @texts texts otherTexts permuted =>
      by_cases empty : texts = []
      · subst empty
        rw [List.nil_perm.mp permuted]
        exact .done rfl
      · have otherPresent : otherTexts ≠ [] := by
          rintro rfl
          exact empty (List.perm_nil.mp permuted)
        obtain ⟨failure, failed⟩ := draftAll_texts agree.text empty
        obtain ⟨otherFailure, otherFailed⟩ := draftAll_texts agree.otherText otherPresent
        rw [failed, otherFailed]
        exact .failed _ _

theorem draftProperties_alike
    {listed others : List Property} (related : List.Forall₂ Property.Reordered listed others)
    (agree : AgreeReordered draft otherDraft (listed.map Property.schema))
    {collected otherCollected : Fields} (same : otherCollected.canonical = collected.canonical) :
    Outcome.Matches (fun fields otherFields : Fields => otherFields.canonical = fields.canonical)
      (draftProperties draft collected listed).outcome
      (draftProperties otherDraft otherCollected others).outcome := by
  induction related generalizing collected otherCollected with
  | nil => exact .done same
  | @cons first other rest others reordered _ inductionHypothesis =>
      have firstAgrees := agree.each first.schema List.mem_cons_self other.schema reordered.schema
      simp only [draftProperties, Traced.outcome_bind]
      refine firstAgrees.bind fun node otherNode _ alike => ?_
      refine inductionHypothesis (agree.subset fun _ later => List.mem_cons_of_mem _ later) ?_
      rw [Fields.canonical_add, Fields.canonical_add, same,
        Fields.add_congr reordered.name reordered.required, alike]

theorem objectNode_alike
    {properties others : Except Failure (Option (List Property))}
    (listing : Outcome.Matches (Option.Rel (List.Forall₂ Property.Reordered)) properties others)
    (agree : ∀ listed, properties = .ok (some listed) →
      AgreeReordered draft otherDraft (listed.map Property.schema))
    {additional otherAdditional : Option Draft}
    (rest : Option.Rel Node.Alike additional otherAdditional) :
    AgreeAlike (objectNode draft properties additional).outcome
      (objectNode otherDraft others otherAdditional).outcome := by
  unfold objectNode
  simp only [Traced.outcome_bind, Traced.outcome_ofExcept]
  refine listing.bind fun listed otherListed isListed related => ?_
  cases related with
  | none =>
      cases rest with
      | none => exact .done rfl
      | some alike =>
          simp only [Traced.outcome_ofExcept, Construction.container_node]
          exact .done (container_alike alike)
  | some related =>
      simp only [Traced.outcome_bind, Traced.outcome_ofExcept]
      refine (draftProperties_alike related (agree _ isListed) rfl).bind
        fun fields otherFields _ sameFields => ?_
      refine (objectParts_coincides sameFields rest).matches.bind fun parts otherParts _ alike => ?_
      exact (intersectParts_coincides alike).matches

/-! ## Forms -/

mutual

/-- If the drafts of the subschemas of a form agree, so do the drafts of the form and of a reordered
one. -/
theorem assemble_alike :
    (form : Form) → {other : Form} → Reordered form other →
      AgreeReordered draft otherDraft form.subschemas →
        AgreeAlike (assemble draft form).outcome (assemble otherDraft other).outcome
  | .rejected _, _, .rejected _ _, _ => by
      simp only [assemble]
      exact .failed _ _
  | .primitive _, _, .primitive _, _ => by
      simp only [assemble]
      exact .done rfl
  | .reference _, _, .reference _, _ => by
      simp only [assemble]
      exact .done rfl
  | .choice _, _, .choice listed, agree => by
      simp only [assemble, Traced.outcome_bind, Traced.outcome_ofExcept]
      exact (draftAll_alike listed agree).bind fun _ _ _ alike => (union_coincides alike).matches
  | .discriminated _ _ _, _, .discriminated keys otherKeys listed, agree => by
      simp only [assemble, Traced.outcome_bind]
      exact (draftAll_alike listed agree).bind fun _ _ _ alike =>
        discriminatedNode_agree alike keys otherKeys
  | .intersection _, _, .intersection listed, agree => by
      simp only [assemble, Traced.outcome_bind, Traced.outcome_ofExcept]
      exact (draftAll_alike listed agree).bind fun _ _ _ alike => (intersectParts_coincides alike).matches
  | .values literals nullable, _, .values _ _, _ => by
      simp only [assemble, Traced.outcome_ofExcept]
      cases valuesNode literals nullable with
      | error failure => exact .failed _ _
      | ok node => exact .done rfl
  | .alternatives forms, _, .alternatives each, agree => by
      simp only [assemble, Traced.outcome_bind, Traced.outcome_ofExcept]
      exact (assembleAll_alike forms each agree).bind fun _ _ _ alike => (union_coincides alike).matches
  | .object additional properties, _, .object rest listing, agree => by
      have agreeProperties : ∀ listed, properties = .ok (some listed) →
          AgreeReordered draft otherDraft (listed.map Property.schema) := by
        rintro listed rfl
        exact agree.subset fun subschema isListed => List.mem_append_right _ isListed
      cases rest with
      | none =>
          simp only [assemble]
          exact objectNode_alike listing agreeProperties .none
      | @some schema other reordered =>
          have schemaAgrees :=
            agree.each schema (List.mem_append_left _ List.mem_cons_self) other reordered
          simp only [assemble, Traced.outcome_bind]
          exact schemaAgrees.bind fun _ _ _ alike =>
            objectNode_alike listing agreeProperties (.some alike)
  | .array item, _, .array reordered, agree => by
      have itemAgrees := agree.each item (List.mem_singleton.mpr rfl) _ reordered
      simp only [assemble, Traced.outcome_bind, Traced.outcome_ofExcept,
        Construction.container_node]
      exact itemAgrees.bind fun node otherNode _ alike => .done (container_alike alike)
  | .tuple _, _, .tuple listed, agree => by
      simp only [assemble, Traced.outcome_bind, Traced.outcome_ofExcept]
      exact (draftAll_alike listed agree).bind fun _ _ _ alike => (tuple_coincides alike).matches

theorem assembleAll_alike :
    (forms : List Form) → {others : List Form} → AllReordered forms others →
      AgreeReordered draft otherDraft (subschemasOfAll forms) →
        Outcome.Matches AllAlike (assembleAll draft forms).outcome
          (assembleAll otherDraft others).outcome
  | [], _, .nil, _ => by
      simp only [assembleAll]
      exact .done rfl
  | form :: rest, _, .cons first later, agree => by
      have firstAgrees := assemble_alike form first
        (agree.subset fun _ isPart => List.mem_append_left _ isPart)
      have restAgrees := assembleAll_alike rest later
        (agree.subset fun _ isPart => List.mem_append_right _ isPart)
      simp only [assembleAll, Traced.outcome_bind, Traced.outcome_pure]
      refine firstAgrees.bind fun node otherNode _ alike => ?_
      exact restAgrees.bind fun nodes otherNodes _ allAlike => .done (.cons alike allAlike)

end

end Drafting

end Form

end SchemaSignature
