import SchemaSignature.Document.Draft
import SchemaSignature.Proofs.Document.Keywords

/-!
The descent of the drafting through a document: which subschemas a schema drafts, which references
it consists of, and which schemas of a document are looked into at all, those behind references
included. Subschemas are nested less deeply than their schema, so that drafts satisfy `draft_eq`, the
equation of their definition without its bound on the height.
-/

namespace SchemaSignature

@[simp]
theorem Traced.ofExcept_ok_bind {first second : Type} (value : first) (next : first → Traced second) :
    (Traced.ofExcept (.ok value) >>= next) = next value :=
  rfl

namespace Form

mutual

/-- The subschemas that take part in a form. -/
def subschemas : Form → List Json
  | .rejected _ | .primitive _ | .reference _ | .values _ _ => []
  | .choice members | .discriminated _ _ members | .intersection members | .tuple members =>
      members
  | .alternatives forms => subschemasOfAll forms
  | .object additional properties =>
      additional.toList ++
        match properties with
        | .ok (some listed) => listed.map Property.schema
        | _ => []
  | .array item => [item]

def subschemasOfAll : List Form → List Json
  | [] => []
  | form :: rest => subschemas form ++ subschemasOfAll rest

end

mutual

/-- The references that a form consists of. -/
def targets : Form → List String
  | .reference target => [target]
  | .alternatives forms => targetsOfAll forms
  | _ => []

def targetsOfAll : List Form → List String
  | [] => []
  | form :: rest => targets form ++ targetsOfAll rest

end

theorem mem_subschemasOfAll_iff {subschema : Json} {forms : List Form} :
    subschema ∈ subschemasOfAll forms ↔ ∃ form ∈ forms, subschema ∈ form.subschemas := by
  induction forms with
  | nil => simp [subschemasOfAll]
  | cons first rest inductionHypothesis => simp [subschemasOfAll, inductionHypothesis]

theorem mem_targetsOfAll_iff {target : String} {forms : List Form} :
    target ∈ targetsOfAll forms ↔ ∃ form ∈ forms, target ∈ form.targets := by
  induction forms with
  | nil => simp [targetsOfAll]
  | cons first rest inductionHypothesis => simp [targetsOfAll, inductionHypothesis]

/-! ## Where subschemas stand -/

/-- A value stands where an object of keywords has a subschema. -/
inductive Holds (schema : List (String × Json)) (subschema : Json) : Prop where
  | listed {keyword : String} {value : Json} {members : List Json}
      (known : keyword ∈ ["anyOf", "oneOf", "allOf", "prefixItems"])
      (found : Json.member? schema keyword = some value)
      (listing : elements value = .ok members)
      (isMember : subschema ∈ members)
  | item (found : Json.member? schema "items" = some subschema)
      (notNull : subschema ≠ .null)
      (notListed : ∀ members, subschema ≠ .arr members)
  | listedItem {members : List Json}
      (found : Json.member? schema "items" = some (.arr members))
      (isMember : subschema ∈ members)
  | additional {members : List (String × Json)}
      (found : Json.member? schema "additionalProperties" = some (.obj members))
      (same : subschema = .obj members)
  | property {name : String} {members : List (String × Json)}
      (found : Json.member? schema "properties" = some (.obj members))
      (isMember : (name, subschema) ∈ members)

/-- The parts of an object are the schema of its other members and those of its properties. -/
theorem mem_subschemas_ofObject
    {schema : List (String × Json)} {subschema : Json}
    (isPart : subschema ∈ (ofObject schema).subschemas) :
    (∃ members, Json.member? schema "additionalProperties" = some (.obj members) ∧
        subschema = .obj members) ∨
      ∃ name members, Json.member? schema "properties" = some (.obj members) ∧
        (name, subschema) ∈ members := by
  simp only [ofObject, subschemas, List.mem_append, Option.mem_toList] at isPart
  rcases isPart with isAdditional | isProperty
  · split at isAdditional
    · next members found =>
        exact Or.inl ⟨members, found, (Option.some.inj isAdditional).symm⟩
    · cases isAdditional
  · rcases properties_cases schema with
      listing | ⟨failure, listing⟩ | ⟨members, required, found, _, listing⟩ <;>
      rw [listing] at isProperty
    · cases isProperty
    · cases isProperty
    · obtain ⟨property, isListed, same⟩ := List.mem_map.mp isProperty
      obtain ⟨member, isMember, rfl⟩ := List.mem_map.mp isListed
      rw [← same]
      exact Or.inr ⟨member.1, members, found, isMember⟩

theorem holds_of_mem_ofObject
    {schema : List (String × Json)} {subschema : Json}
    (isPart : subschema ∈ (ofObject schema).subschemas) :
    Holds schema subschema := by
  rcases mem_subschemas_ofObject isPart with ⟨members, found, same⟩ | ⟨_, _, found, isMember⟩
  · exact .additional found same
  · exact .property found isMember

/-- The subschemas that take part in the form of a schema stand in the schema. -/
theorem holds_of_mem_subschemas
    {root : Json} {schema : List (String × Json)} {subschema : Json} :
    subschema ∈ (ofKeywords root schema).subschemas → Holds schema subschema := by
  apply form_elim (motive := fun form => subschema ∈ form.subschemas → Holds schema subschema)
  case rejected | primitive | reference | values =>
    intros
    contradiction
  case choice =>
    intro keyword known value members found listing _ isPart
    refine .listed ?_ found listing isPart
    simp only [List.mem_cons, List.not_mem_nil, or_false] at known ⊢
    rcases known with same | same <;> simp [same]
  case discriminated =>
    intro _ _ _ _ value members found listing _ _ _ isPart
    exact .listed (by simp) found listing isPart
  case intersection =>
    intro value members found listing _ isPart
    exact .listed (by simp) found listing isPart
  case object => exact holds_of_mem_ofObject
  case array =>
    intro item found notNull notListed isPart
    cases List.mem_singleton.mp isPart
    exact .item found notNull notListed
  case tuple =>
    intro members found isPart
    exact .listedItem found isPart
  case prefixTuple =>
    intro value members found listing isPart
    exact .listed (by simp) found listing isPart
  case alternatives =>
    intro forms _ each isPart
    obtain ⟨form, isForm, isPart⟩ := mem_subschemasOfAll_iff.mp isPart
    exact each form isForm isPart

theorem height_le_of_mem_elements
    {value item : Json} {members : List Json}
    (listing : elements value = .ok members) (isMember : item ∈ members) :
    item.height ≤ value.height := by
  cases value with
  | arr items =>
      cases listing
      exact Nat.le_succ_of_le (Json.height_le_of_mem_items isMember)
  | str text =>
      cases listing
      obtain ⟨c, _, rfl⟩ := List.mem_map.mp isMember
      exact Nat.zero_le _
  | obj entries =>
      cases listing
      obtain ⟨entry, _, rfl⟩ := List.mem_map.mp isMember
      exact Nat.zero_le _
  | _ => cases listing

theorem Holds.height_lt
    {schema : List (String × Json)} {subschema : Json} (held : Holds schema subschema) :
    subschema.height < (Json.obj schema).height := by
  cases held with
  | listed known found listing isMember =>
      exact Nat.lt_of_le_of_lt (height_le_of_mem_elements listing isMember)
        (Json.height_lt_of_member? found)
  | item found _ _ => exact Json.height_lt_of_member? found
  | @listedItem members found isMember =>
      have inList : subschema.height < (Json.arr members).height :=
        Nat.lt_succ_of_le (Json.height_le_of_mem_items isMember)
      exact Nat.lt_trans inList (Json.height_lt_of_member? found)
  | additional found same => exact same ▸ Json.height_lt_of_member? found
  | @property name members found isMember =>
      have inTable : subschema.height < (Json.obj members).height :=
        Nat.lt_succ_of_le (Json.height_le_of_mem_members isMember)
      exact Nat.lt_trans inTable (Json.height_lt_of_member? found)

theorem height_lt_of_mem_subschemas
    {root schema subschema : Json} (isPart : subschema ∈ (root.form schema).subschemas) :
    subschema.height < schema.height := by
  cases schema with
  | obj keywords => exact (holds_of_mem_subschemas isPart).height_lt
  | bool value => cases value <;> cases isPart
  | _ => cases isPart

/-! ## Drafts depend on the drafts of subschemas -/


section Congruence

variable {one other : Json → Traced Draft}

theorem draftAll_congr {members : List Json} (same : ∀ member ∈ members, one member = other member) :
    draftAll one members = draftAll other members := by
  induction members with
  | nil => rfl
  | cons first rest inductionHypothesis =>
      have sameRest := inductionHypothesis fun member later =>
        same member (List.mem_cons_of_mem _ later)
      simp only [draftAll, same first List.mem_cons_self, sameRest]

theorem draftProperties_congr
    {listed : List Property} (same : ∀ property ∈ listed, one property.schema = other property.schema)
    (collected : Fields) :
    draftProperties one collected listed = draftProperties other collected listed := by
  induction listed generalizing collected with
  | nil => rfl
  | cons first rest inductionHypothesis =>
      have sameRest := inductionHypothesis fun property later =>
        same property (List.mem_cons_of_mem _ later)
      simp only [draftProperties, same first List.mem_cons_self, sameRest]

theorem objectNode_congr
    {properties : Except Failure (Option (List Property))}
    (same : ∀ listed, properties = .ok (some listed) →
      ∀ property ∈ listed, one property.schema = other property.schema)
    (others : Option Draft) :
    objectNode one properties others = objectNode other properties others := by
  unfold objectNode
  cases properties with
  | error failure => rfl
  | ok given =>
      cases given with
      | none => rfl
      | some listed => simp only [Traced.ofExcept_ok_bind, draftProperties_congr (same listed rfl)]

mutual

theorem assemble_congr :
    (form : Form) → (∀ subschema ∈ form.subschemas, one subschema = other subschema) →
      assemble one form = assemble other form
  | .rejected _, _ | .primitive _, _ | .reference _, _ | .values _ _, _ => by
      simp only [assemble]
  | .choice members, same | .discriminated _ _ members, same | .intersection members, same
  | .tuple members, same => by
      have sameMembers : ∀ member ∈ members, one member = other member := same
      simp only [assemble, draftAll_congr sameMembers]
  | .alternatives forms, same => by
      simp only [assemble, assembleAll_congr forms same]
  | .array item, same => by
      simp only [assemble, same item (List.mem_singleton.mpr rfl)]
  | .object additional properties, same => by
      have sameAdditional : ∀ schema, additional = some schema → one schema = other schema :=
        fun schema given => same schema (by simp [subschemas, given])
      have sameProperties : ∀ listed, properties = .ok (some listed) →
          ∀ property ∈ listed, one property.schema = other property.schema :=
        fun listed given property isListed => same property.schema
          (by simp only [subschemas, given, List.mem_append, List.mem_map]
              exact Or.inr ⟨property, isListed, rfl⟩)
      cases additional with
      | none => simp only [assemble, objectNode_congr sameProperties]
      | some schema =>
          simp only [assemble, sameAdditional schema rfl, objectNode_congr sameProperties]

theorem assembleAll_congr :
    (forms : List Form) → (∀ subschema ∈ subschemasOfAll forms, one subschema = other subschema) →
      assembleAll one forms = assembleAll other forms
  | [], _ => rfl
  | form :: rest, same => by
      have sameFirst := assemble_congr form fun subschema isPart =>
        same subschema (List.mem_append_left _ isPart)
      have sameRest := assembleAll_congr rest fun subschema isPart =>
        same subschema (List.mem_append_right _ isPart)
      simp only [assembleAll, sameFirst, sameRest]

end

end Congruence

end Form

/-- A bound above the height of a schema does not take effect. -/
theorem Json.draftWithin_eq_draft
    {root schema : Json} {bound : Nat} (above : schema.height < bound) :
    root.draftWithin bound schema = root.draft schema := by
  -- The bounds on either side differ, so that the induction is on one with the other free.
  have independent : ∀ (one other : Nat) (schema : Json), schema.height < one →
      schema.height < other → root.draftWithin one schema = root.draftWithin other schema := by
    intro one
    induction one with
    | zero =>
        intro other schema impossible
        exact absurd impossible (Nat.not_lt_zero _)
    | succ one inductionHypothesis =>
        intro other schema aboveOne aboveOther
        cases other with
        | zero => exact absurd aboveOther (Nat.not_lt_zero _)
        | succ other =>
            rw [draftWithin, draftWithin]
            apply Form.assemble_congr
            intro subschema isPart
            have lower := Form.height_lt_of_mem_subschemas isPart
            exact inductionHypothesis other subschema (by omega) (by omega)
  exact independent bound (schema.height + 1) schema above (Nat.lt_succ_self _)

/-- The draft of a schema is the node of its form, made of the drafts of its subschemas. -/
theorem Json.draft_eq (root schema : Json) :
    root.draft schema = (root.form schema).assemble root.draft := by
  rw [draft, draftWithin]
  apply Form.assemble_congr
  intro subschema isPart
  exact draftWithin_eq_draft (Form.height_lt_of_mem_subschemas isPart)

theorem Json.descent_induction
    (root : Json) {motive : Json → Prop}
    (step : ∀ schema, (∀ subschema ∈ (root.form schema).subschemas, motive subschema) →
      motive schema)
    (schema : Json) : motive schema :=
  step schema fun subschema isPart =>
    have _lower := Form.height_lt_of_mem_subschemas isPart
    descent_induction root step subschema
termination_by schema.height

namespace Document

/-- A schema is another one, or drafted as a part of it. -/
inductive Within (root : Json) : Json → Json → Prop where
  | refl (schema : Json) : Within root schema schema
  | part {schema subschema inner : Json}
      (isPart : subschema ∈ (root.form schema).subschemas)
      (deeper : Within root subschema inner) :
      Within root schema inner

/-- A schema is drafted when a document is: it is the whole document, a part of a drafted schema, or
what a reference in a drafted schema points to. -/
inductive Reached (root : Json) : Json → Prop where
  | document : Reached root root
  | part {schema subschema : Json}
      (reached : Reached root schema)
      (isPart : subschema ∈ (root.form schema).subschemas) :
      Reached root subschema
  | target {schema value : Json} {reference : String}
      (reached : Reached root schema)
      (refers : reference ∈ (root.form schema).targets)
      (resolved : Pointer.resolve root reference = .ok value) :
      Reached root value

/-- A reference is met when a document is drafted. -/
def IsMet (root : Json) (reference : String) : Prop :=
  ∃ schema, Reached root schema ∧ reference ∈ (root.form schema).targets

theorem Within.snoc
    {root schema inner subschema : Json} (within : Within root schema inner)
    (isPart : subschema ∈ (root.form inner).subschemas) : Within root schema subschema := by
  induction within with
  | refl schema => exact .part isPart (.refl subschema)
  | part isOuterPart _ inductionHypothesis => exact .part isOuterPart (inductionHypothesis isPart)

theorem Reached.within
    {root schema inner : Json} (reached : Reached root schema) (within : Within root schema inner) :
    Reached root inner := by
  induction within with
  | refl => exact reached
  | part isPart _ inductionHypothesis => exact inductionHypothesis (reached.part isPart)

end Document

end SchemaSignature
