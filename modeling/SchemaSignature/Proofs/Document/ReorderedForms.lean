import SchemaSignature.Proofs.Document.Faults
import SchemaSignature.Proofs.Document.RelabelledForms
import SchemaSignature.Proofs.Json.Reordering
import SchemaSignature.Proofs.Signature.Tables

/-!
The forms of the schemas of a reordered document. Pointers lead to reordered values, and a keyword
whose value is reordered gives the same form with reordered parts, or is rejected as before. The tags
of a discriminated choice may be others, because the last of several tags mapped to one target counts;
but they can be found as before.
-/

namespace SchemaSignature

open Json (Reordered ReorderedKeywords Listed)

/-! ## Pointers -/

theorem Json.Reordered.getElem?
    {items others : List Json} (each : List.Forall₂ Reordered items others) (place : Nat) :
    Option.Rel Reordered items[place]? others[place]? := by
  induction each generalizing place with
  | nil => exact .none
  | cons first _ inductionHypothesis =>
      cases place with
      | zero => exact .some first
      | succ place => exact inductionHypothesis place

namespace Pointer

theorem follow_reordered
    {target other : Json} (reordered : target.Reordered other) (distinct : target.DistinctKeys)
    (reference step : String) :
    Outcome.Matches Reordered (follow reference target step) (follow reference other step) := by
  cases reordered with
  | atom isKey =>
      cases target with
      | arr items => cases isKey
      | obj members => cases isKey
      | _ => exact .failed _ _
  | @array items others each =>
      simp only [follow]
      by_cases isPlace : (!step.isEmpty && step.toList.all Text.isDigit) = true
      · rw [if_pos isPlace, if_pos isPlace]
        cases position step with
        | error failure => exact .failed _ _
        | ok place =>
            have related := Reordered.getElem? each.forall₂ place
            rw [Outcome.bind_ok, Outcome.bind_ok]
            revert related
            generalize items[place]? = one
            generalize others[place]? = second
            intro related
            cases related with
            | none => exact .failed _ _
            | some each => exact .done each
      · rw [if_neg isPlace, if_neg isPlace]
        exact .failed _ _
  | object each permuted =>
      have keywords := (Reordered.object each permuted).keywords distinct.1
      unfold follow
      rcases keywords.outcomes step with
        ⟨absent, otherAbsent⟩ | ⟨_, _, found, otherFound, under⟩
      · simp only [absent, otherAbsent]
        exact .failed _ _
      · simp only [found, otherFound]
        exact .done under.reordered

/-- A reference points to reordered values in a document and in a reordered one. -/
theorem resolve_reordered
    {root other : Json} (reordered : root.Reordered other) (distinct : root.DistinctKeys)
    (reference : String) :
    Outcome.Matches Reordered (resolve root reference) (resolve other reference) := by
  have walk (steps : List String) : ∀ {target otherTarget : Json}, target.Reordered otherTarget →
      target.DistinctKeys →
        Outcome.Matches Reordered (steps.foldlM (follow reference) target)
          (steps.foldlM (follow reference) otherTarget) := by
    induction steps with
    | nil =>
        intro target otherTarget reordered _
        exact .done reordered
    | cons step rest inductionHypothesis =>
        intro target otherTarget reordered distinct
        rw [List.foldlM_cons, List.foldlM_cons]
        refine (follow_reordered reordered distinct reference step).bind ?_
        intro next otherNext followed reorderedNext
        exact inductionHypothesis reorderedNext
          (Json.hereditary_distinctKeys.of_follow distinct followed)
  unfold resolve
  split
  · next pointer _ =>
      by_cases isRoot : pointer.isEmpty = true
      · rw [if_pos isRoot, if_pos isRoot]
        exact .done reordered
      · rw [if_neg isRoot, if_neg isRoot]
        exact walk (steps pointer) reordered distinct
  · exact .failed _ _

theorem resolveValue_reordered
    {root other : Json} (reordered : root.Reordered other) (distinct : root.DistinctKeys)
    (pointer : Json) :
    Outcome.Matches Reordered (resolveValue root pointer) (resolveValue other pointer) := by
  cases pointer with
  | str reference => exact resolve_reordered reordered distinct reference
  | _ => exact .failed _ _

end Pointer

/-! ## Forms -/

/-- The same property with a reordered subschema. -/
structure Property.Reordered (property other : Property) : Prop where
  name : other.name = property.name
  required : other.required = property.required
  schema : property.schema.Reordered other.schema

namespace Form

mutual

/-- A form and one with reordered parts. Rejections may differ in their failures, and discriminated
choices in their tags. -/
inductive Reordered : Form → Form → Prop where
  | rejected (failure otherFailure : Failure) :
      Reordered (.rejected failure) (.rejected otherFailure)
  | primitive (kind : Primitive) : Reordered (.primitive kind) (.primitive kind)
  | reference (target : String) : Reordered (.reference target) (.reference target)
  | choice {members others : List Json} (listed : Listed members others) :
      Reordered (.choice members) (.choice others)
  | discriminated {tag otherTag : Json} {tags otherTags members others : List Json}
      (keys : ∀ given ∈ tags, given.isKey = true)
      (otherKeys : ∀ given ∈ otherTags, given.isKey = true) (listed : Listed members others) :
      Reordered (.discriminated tag tags members) (.discriminated otherTag otherTags others)
  | intersection {members others : List Json} (listed : Listed members others) :
      Reordered (.intersection members) (.intersection others)
  | values (literals : List Json) (nullable : Bool) :
      Reordered (.values literals nullable) (.values literals nullable)
  | alternatives {forms others : List Form} (each : AllReordered forms others) :
      Reordered (.alternatives forms) (.alternatives others)
  | object {additional otherAdditional : Option Json}
      {properties others : Except Failure (Option (List Property))}
      (rest : Option.Rel Json.Reordered additional otherAdditional)
      (listing : Outcome.Matches (Option.Rel (List.Forall₂ Property.Reordered)) properties others) :
      Reordered (.object additional properties) (.object otherAdditional others)
  | array {item other : Json} (reordered : item.Reordered other) :
      Reordered (.array item) (.array other)
  | tuple {members others : List Json} (listed : Listed members others) :
      Reordered (.tuple members) (.tuple others)

/-- Lists of forms of which each is reordered. -/
inductive AllReordered : List Form → List Form → Prop where
  | nil : AllReordered [] []
  | cons {form other : Form} {rest others : List Form} (first : Reordered form other)
      (later : AllReordered rest others) : AllReordered (form :: rest) (other :: others)

end

/-! ## Lists of subschemas -/

theorem nonEmptyElements_reordered
    {value other : Json} (reordered : value.Reordered other) (missing : Failure) :
    Outcome.Matches Listed (nonEmptyElements missing value) (nonEmptyElements missing other) := by
  unfold nonEmptyElements
  rw [reordered.isTruthy_eq]
  by_cases truthy : value.isTruthy = true
  · rw [if_pos truthy, if_pos truthy]
    exact reordered.elements
  · rw [if_neg truthy, if_neg truthy]
    exact .failed _ _

/-- The form of listed subschemas, if the list can be read. -/
theorem reordered_of_listing
    {form : List Json → Form} {listing other : Except Failure (List Json)}
    (each : ∀ {members others}, Listed members others → Reordered (form members) (form others)) :
    Outcome.Matches Listed listing other →
      Reordered
        (match listing with
          | .ok members => form members
          | .error failure => .rejected failure)
        (match other with
          | .ok members => form members
          | .error failure => .rejected failure) := by
  intro matched
  rcases matched.outcomes with ⟨failure, otherFailure, rfl, rfl⟩ | ⟨members, _, rfl, rfl, listed⟩
  · exact .rejected failure otherFailure
  · exact each listed

section Listings

variable {value other : Json} (reordered : value.Reordered other)

include reordered

theorem ofChoice_reordered : Reordered (ofChoice value) (ofChoice other) :=
  reordered_of_listing .choice (nonEmptyElements_reordered reordered .noChoices)

theorem ofIntersection_reordered : Reordered (ofIntersection value) (ofIntersection other) :=
  reordered_of_listing .intersection (nonEmptyElements_reordered reordered .noParts)

theorem ofTuple_reordered : Reordered (ofTuple value) (ofTuple other) :=
  reordered_of_listing .tuple reordered.elements

end Listings

/-! ## Listed values -/

/-- Of reordered values either both lists have one that is refused, or they are the same. -/
theorem refused_cases
    {values others : List Json} (each : List.Forall₂ Json.Reordered values others) :
    (others = values ∧ values.find? (fun value => !value.isKey) = none) ∨
      ∃ value other, values.find? (fun value => !value.isKey) = some value ∧
        others.find? (fun value => !value.isKey) = some other := by
  have unseen {value other : Json} (reordered : value.Reordered other) :
      (!other.isKey) = !value.isKey := by
    rw [reordered.isKey_eq]
  rcases Json.find?_cases_of_forall₂ (fun value => !value.isKey) unseen each with
    ⟨noneFound, _⟩ | found
  · exact Or.inl ⟨Json.eq_of_keys each (Json.keys_of_find? noneFound), noneFound⟩
  · exact Or.inr found

theorem ofValues_reordered
    {values others : List Json} (each : List.Forall₂ Json.Reordered values others) :
    Reordered (ofValues values) (ofValues others) := by
  unfold ofValues
  rcases refused_cases each with ⟨rfl, noneFound⟩ | ⟨value, other, found, otherFound⟩
  · rw [noneFound]
    exact .values _ _
  · rw [found, otherFound]
    exact .rejected _ _

theorem ofEnum_reordered
    {items others : List Json} (each : List.Forall₂ Json.Reordered items others) :
    Reordered (ofEnum (.arr items)) (ofEnum (.arr others)) := by
  cases each with
  | nil => exact .rejected _ _
  | cons first later => exact ofValues_reordered (.cons first later)

/-! ## Types -/

section Types

variable {keywords others : List (String × Json)} (reordered : ReorderedKeywords keywords others)

include reordered

/-- The names that are required are the same, in whatever order. -/
theorem requiredNames_reordered :
    Outcome.Matches (fun names others : List String => ∀ name, name ∈ others ↔ name ∈ names)
      (requiredNames keywords) (requiredNames others) := by
  unfold requiredNames
  rcases reordered.outcomes "required" with ⟨absent, otherAbsent⟩ | ⟨_, _, found, otherFound, under⟩
  · simp only [absent, otherAbsent]
    exact .done fun _ => Iff.rfl
  · simp only [found, otherFound]
    refine under.reordered.elements.bind ?_
    intro listed otherListed _ related
    cases related with
    | items each =>
        rcases refused_cases each with ⟨rfl, noneFound⟩ | ⟨value, other, found, otherFound⟩
        · rw [noneFound]
          exact .done fun _ => Iff.rfl
        · rw [found, otherFound]
          exact .failed _ _
    | @texts texts otherTexts permuted =>
        rw [find?_eq_none_of_keys (isKey_of_mem_texts texts),
          find?_eq_none_of_keys (isKey_of_mem_texts otherTexts)]
        refine .done ?_
        intro name
        simp only [List.filterMap_map, Function.comp_def]
        exact (permuted.filterMap _).mem_iff.symm

theorem properties_reordered :
    Outcome.Matches (Option.Rel (List.Forall₂ Property.Reordered))
      (properties keywords) (properties others) := by
  have names := requiredNames_reordered reordered
  unfold properties
  rcases reordered.outcomes "properties" with
    ⟨absent, otherAbsent⟩ | ⟨value, other, found, otherFound, under⟩
  · simp only [absent, otherAbsent]
    exact .done .none
  · simp only [found, otherFound]
    cases under with
    | properties each =>
        refine names.bind ?_
        intro required otherRequired _ sameNames
        refine .done (.some ?_)
        refine List.forall₂_map_left_iff.mpr (List.forall₂_map_right_iff.mpr ?_)
        refine each.forall₂.imp ?_
        intro member otherMember related
        obtain ⟨sameKey, under⟩ := related
        refine ⟨sameKey, ?_, under.reordered⟩
        rw [Bool.eq_iff_iff, List.contains_iff_mem, List.contains_iff_mem, sameKey]
        exact sameNames member.1
    | free notTable related =>
        cases related with
        | atom isKey =>
            cases value with
            | null => exact .done .none
            | arr items => cases isKey
            | obj members => cases isKey
            | _ => exact names.bind fun _ _ _ _ => .failed _ _
        | array each => exact names.bind fun _ _ _ _ => .failed _ _
        | object each permuted => exact absurd rfl (notTable rfl _)

theorem ofObject_reordered : Reordered (ofObject keywords) (ofObject others) := by
  have listing := properties_reordered reordered
  unfold ofObject
  rcases reordered.outcomes "additionalProperties" with
    ⟨absent, otherAbsent⟩ | ⟨value, other, found, otherFound, under⟩
  · simp only [absent, otherAbsent]
    exact .object .none listing
  · simp only [found, otherFound]
    have related := under.reordered
    cases related with
    | atom isKey =>
        cases value with
        | arr items => cases isKey
        | obj members => cases isKey
        | _ => exact .object .none listing
    | array => exact .object .none listing
    | object each permuted => exact .object (.some (.object each permuted)) listing

theorem ofArray_reordered : Reordered (ofArray keywords) (ofArray others) := by
  have fromItems : Reordered (ofItems (Json.member? keywords "items"))
      (ofItems (Json.member? others "items")) := by
    rcases reordered.outcomes "items" with
      ⟨absent, otherAbsent⟩ | ⟨item, other, found, otherFound, under⟩
    · simp only [absent, otherAbsent]
      exact .primitive _
    · simp only [found, otherFound]
      have related := under.reordered
      cases related with
      | atom isKey =>
          cases item with
          | arr items => cases isKey
          | obj members => cases isKey
          | null => exact .primitive _
          | bool value =>
              cases value with
              | true => exact .primitive _
              | false => exact .array (.atom rfl)
          | _ => exact .array (.atom rfl)
      | array each => exact .tuple (.items each.forall₂)
      | object each permuted => exact .array (.object each permuted)
  rw [ofArray_eq, ofArray_eq]
  rcases reordered.outcomes "prefixItems" with
    ⟨absent, otherAbsent⟩ | ⟨listed, other, found, otherFound, under⟩
  · simp only [absent, otherAbsent]
    exact fromItems
  · simp only [found, otherFound]
    have tuple := ofTuple_reordered under.reordered
    have related := under.reordered
    cases related with
    | atom isKey =>
        cases listed with
        | null => exact fromItems
        | _ => exact tuple
    | array | object => exact tuple

theorem inferred_reordered : Reordered (inferred keywords) (inferred others) := by
  unfold inferred
  rw [reordered.hasMember_eq "properties", reordered.hasMember_eq "additionalProperties",
    reordered.hasMember_eq "items", reordered.hasMember_eq "prefixItems"]
  split
  · exact ofObject_reordered reordered
  split
  · exact ofArray_reordered reordered
  · exact .primitive _

theorem ofTypeName_reordered (name : String) :
    Reordered (ofTypeName keywords name) (ofTypeName others name) := by
  unfold ofTypeName
  split
  · exact ofObject_reordered reordered
  · exact ofArray_reordered reordered
  all_goals first | exact .primitive _ | exact .rejected _ _

end Types

mutual

theorem ofType_reordered
    {keywords others : List (String × Json)} (reordered : ReorderedKeywords keywords others) :
    (type : Json) → {other : Json} → type.Reordered other →
      Reordered (ofType keywords type) (ofType others other)
  | .null, _, .atom _ => by
      rw [ofType, ofType]
      exact inferred_reordered reordered
  | .str name, _, .atom _ => by
      rw [ofType, ofType]
      exact ofTypeName_reordered reordered name
  | .arr [], _, .array .nil => by
      rw [ofType, ofType]
      exact .rejected _ _
  | .arr (first :: rest), _, .array (.cons reorderedFirst later) => by
      rw [ofType, ofType]
      exact .alternatives (.cons (ofType_reordered reordered first reorderedFirst)
        (ofTypes_reordered reordered rest later))
  | .obj _, _, .object _ _ => by
      rw [ofType, ofType]
      exact .rejected _ _
      all_goals simp
  | .bool _, _, .atom _ | .int _, _, .atom _ | .float _, _, .atom _ => by
      simp only [ofType]
      exact .rejected _ _

theorem ofTypes_reordered
    {keywords others : List (String × Json)} (reordered : ReorderedKeywords keywords others) :
    (types : List Json) → {otherTypes : List Json} → Json.ReorderedItems types otherTypes →
      AllReordered (ofTypes keywords types) (ofTypes others otherTypes)
  | [], _, .nil => by
      rw [ofTypes, ofTypes]
      exact .nil
  | type :: rest, _, .cons first later => by
      rw [ofTypes, ofTypes]
      exact .cons (ofType_reordered reordered type first) (ofTypes_reordered reordered rest later)

end

end Form

end SchemaSignature
