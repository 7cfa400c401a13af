import SchemaSignature.Proofs.Document.ReorderedForms

/-!
Tags and forms in a reordered document. Whether the tags of a discriminated choice can be found does
not depend on the order of keys, though the tags may. With that every schema of a reordered document
has the reordered form, as long as its listed values are listed in an array.
-/

namespace SchemaSignature

open Json (ReorderedKeywords Listed)

namespace Form

/-! ## Mappings -/

section Mapping

variable {mapping others : List (String × Json)}
  (reordered : (Json.obj mapping).Reordered (.obj others))

include reordered

theorem targetTags_reordered (keys : ∀ entry ∈ targetTags mapping, entry.1.isKey = true) :
    (targetTags mapping).Perm (targetTags others) := by
  cases reordered with
  | atom isKey => cases isKey
  | @object _ middle _ each permuted =>
      have sameTags : targetTags middle = targetTags mapping := by
        have related := each.forall₂
        clear each permuted
        induction related with
        | nil => rfl
        | @cons entry other rest others first _ inductionHypothesis =>
            have entryKey : entry.2.isKey = true := keys (entry.2, .str entry.1) List.mem_cons_self
            have restSame := inductionHypothesis fun entry later =>
              keys entry (List.mem_cons_of_mem _ later)
            have sameTarget := first.2.reordered.eq_of_isKey entryKey
            change (other.2, Json.str other.1) :: targetTags _ = (entry.2, .str entry.1) :: targetTags _
            rw [first.1, sameTarget, restSame]
      rw [← sameTags]
      exact permuted.map _

theorem keys_of_targetTags_reordered (keys : ∀ entry ∈ targetTags others, entry.1.isKey = true) :
    ∀ entry ∈ targetTags mapping, entry.1.isKey = true := by
  cases reordered with
  | atom isKey => cases isKey
  | @object _ middle _ each permuted =>
      have middleKeys : ∀ member ∈ middle, member.2.isKey = true := fun member isMember =>
        keys (member.2, .str member.1) (List.mem_map.mpr ⟨member, permuted.mem_iff.mp isMember, rfl⟩)
      have related := each.forall₂
      clear each permuted
      induction related with
      | nil =>
          intro entry impossible
          cases impossible
      | cons first _ inductionHypothesis =>
          intro entry isEntry
          rcases List.mem_cons.mp isEntry with rfl | isLater
          · have otherKey := middleKeys _ List.mem_cons_self
            exact first.2.reordered.isKey_eq.symm.trans otherKey
          · exact inductionHypothesis (fun member later =>
              middleKeys member (List.mem_cons_of_mem _ later)) entry isLater

end Mapping

/-- Two tables of tags have entries for the same values. -/
def FindAlike (table other : List (Json × Json)) : Prop :=
  ∀ pointer : Json, pointer.isKey = true →
    (Table.find? (Json.equal · pointer) other).isSome =
      (Table.find? (Json.equal · pointer) table).isSome

theorem FindAlike.outcomes
    {table other : List (Json × Json)} (alike : FindAlike table other) {pointer : Json}
    (isKey : pointer.isKey = true) :
    (Table.find? (Json.equal · pointer) table = none ∧
        Table.find? (Json.equal · pointer) other = none) ∨
      ∃ tag otherTag, Table.find? (Json.equal · pointer) table = some tag ∧
        Table.find? (Json.equal · pointer) other = some otherTag := by
  have sameEntry := alike pointer isKey
  cases mapped : Table.find? (Json.equal · pointer) table with
  | none =>
      rw [mapped, Option.isSome_none, Option.isSome_eq_false_iff, Option.isNone_iff_eq_none]
        at sameEntry
      exact Or.inl ⟨rfl, sameEntry⟩
  | some tag =>
      rw [mapped] at sameEntry
      obtain ⟨otherTag, otherMapped⟩ := Option.isSome_iff_exists.mp sameEntry
      exact Or.inr ⟨tag, otherTag, rfl, otherMapped⟩

theorem mappedTags_reordered
    {discriminator others : List (String × Json)}
    (reordered : ReorderedKeywords discriminator others) :
    Outcome.Matches FindAlike (mappedTags discriminator) (mappedTags others) := by
  rcases reordered.outcomes "mapping" with
    ⟨absent, otherAbsent⟩ | ⟨value, other, found, otherFound, under⟩
  · rw [mappedTags, mappedTags, absent, otherAbsent]
    exact .done fun _ _ => rfl
  · have related := under.reordered
    cases related with
    | atom isKey =>
        rw [mappedTags, mappedTags, found, otherFound]
        cases value with
        | obj members => cases isKey
        | _ => exact .failed _ _
    | array each =>
        rw [mappedTags, mappedTags, found, otherFound]
        exact .failed _ _
    | object each permuted =>
        have both := Json.Reordered.object each permuted
        rw [mappedTags_eq_keyedTable found, mappedTags_eq_keyedTable otherFound]
        cases keyed : keyedTable (targetTags _) with
        | error failure =>
            cases otherKeyed : keyedTable (targetTags _) with
            | error otherFailure => exact .failed _ _
            | ok table =>
                have keys := keys_of_targetTags_reordered both (isKey_of_keyedTable otherKeyed)
                obtain ⟨_, succeeds, _⟩ := keyedTable_of_keys keys
                cases keyed.symm.trans succeeds
        | ok table =>
            have permutedTags := targetTags_reordered both (isKey_of_keyedTable keyed)
            have otherKeys := fun entry isEntry =>
              isKey_of_keyedTable keyed entry (permutedTags.mem_iff.mpr isEntry)
            obtain ⟨otherTable, otherKeyed, _⟩ := keyedTable_of_keys otherKeys
            rw [otherKeyed]
            refine .done ?_
            intro pointer isKey
            rw [keyedTable_finds keyed isKey, keyedTable_finds otherKeyed isKey,
              permutedTags.any_eq]

/-! ## Declared tags -/

theorem declaredValue_reordered
    {keywords others : List (String × Json)} (reordered : ReorderedKeywords keywords others) :
    Outcome.Matches (fun _ _ => True) (declaredValue keywords) (declaredValue others) := by
  unfold declaredValue
  rcases reordered.outcomes "const" with
    ⟨absent, otherAbsent⟩ | ⟨_, _, found, otherFound, _⟩
  · simp only [absent, otherAbsent]
    rcases reordered.outcomes "enum" with
      ⟨absent, otherAbsent⟩ | ⟨listed, other, found, otherFound, under⟩
    · simp only [absent, otherAbsent]
      exact .done trivial
    · simp only [found, otherFound, under.reordered.isTruthy_eq]
      by_cases falsy : (!listed.isTruthy) = true
      · rw [if_pos falsy, if_pos falsy]
        exact .done trivial
      · rw [if_neg falsy, if_neg falsy]
        have related := under.reordered
        cases related with
        | atom isKey =>
            cases listed with
            | str text => exact .done trivial
            | arr items => cases isKey
            | _ => exact .failed _ _
        | array => exact .done trivial
        | object => exact .failed _ _
  · simp only [found, otherFound]
    exact .done trivial

section Declared

variable {keywords others : List (String × Json)} {tag otherTag : Json}
  (reordered : ReorderedKeywords keywords others) (distinct : (Json.obj keywords).DistinctKeys)
  (sameTag : tag.Reordered otherTag)

include reordered distinct sameTag

theorem declaredTag_reordered :
    Outcome.Matches (fun _ _ => True) (declaredTag tag keywords) (declaredTag otherTag others) := by
  unfold declaredTag
  rcases reordered.outcomes "properties" with
    ⟨absent, otherAbsent⟩ | ⟨value, other, found, otherFound, under⟩
  · simp only [absent, otherAbsent]
    exact .done trivial
  · simp only [found, otherFound]
    cases under with
    | @properties table otherTable each =>
        simp only [sameTag.isKey_eq]
        by_cases isKey : tag.isKey = true
        · rw [sameTag.eq_of_isKey isKey]
          simp only [isKey]
          cases tag with
          | str name =>
              dsimp only
              have tableDistinct := Json.hereditary_distinctKeys.of_member? distinct found
              have properties : ReorderedKeywords table otherTable := each.member?
              rcases properties.outcomes name with
                ⟨absent, otherAbsent⟩ | ⟨value, other, discriminant, otherDiscriminant, under⟩
              · rw [absent, otherAbsent]
                exact .done trivial
              · rw [discriminant, otherDiscriminant]
                cases under.reordered with
                | atom isKey =>
                    cases value with
                    | obj members => cases isKey
                    | _ => exact .done trivial
                | array => exact .done trivial
                | object each permuted =>
                    have inside := Json.hereditary_distinctKeys.of_member? tableDistinct discriminant
                    have keywords := (Json.Reordered.object each permuted).keywords inside.1
                    exact (declaredValue_reordered keywords).bind fun _ _ _ _ => .done trivial
          | arr items => cases isKey
          | obj members => cases isKey
          | _ => exact .done trivial
        · simp only [isKey]
          exact .failed _ _
    | free notTable related =>
        cases related with
        | atom isKey =>
            cases value with
            | obj members => cases isKey
            | _ => exact .done trivial
        | array => exact .done trivial
        | object each permuted => exact absurd rfl (notTable rfl _)

end Declared

section Members

variable {root other tag otherTag : Json} {table otherTable : List (Json × Json)}
  (document : root.Reordered other) (distinctRoot : root.DistinctKeys)
  (sameTag : tag.Reordered otherTag) (alike : FindAlike table otherTable)

include document distinctRoot sameTag alike

theorem memberTag_reordered
    {member otherMember : Json} (reordered : member.Reordered otherMember)
    (distinct : member.DistinctKeys) :
    Outcome.Matches (fun _ _ => True) (memberTag root tag table member)
      (memberTag other otherTag otherTable otherMember) := by
  cases reordered with
  | atom isKey =>
      cases member with
      | obj members => cases isKey
      | _ => exact .done trivial
  | array => exact .done trivial
  | object each permuted =>
      have keywords := (Json.Reordered.object each permuted).keywords distinct.1
      simp only [memberTag]
      rcases keywords.outcomes "$ref" with
        ⟨absent, otherAbsent⟩ | ⟨pointer, otherPointer, found, otherFound, under⟩
      · simp only [absent, otherAbsent]
        exact declaredTag_reordered keywords distinct sameTag
      · simp only [found, otherFound, under.reordered.isKey_eq]
        by_cases isKey : pointer.isKey = true
        · rw [under.reordered.eq_of_isKey isKey]
          simp only [isKey]
          rcases alike.outcomes isKey with
            ⟨unmapped, otherUnmapped⟩ | ⟨_, _, mapped, otherMapped⟩
          · rw [unmapped, otherUnmapped]
            refine (Pointer.resolveValue_reordered document distinctRoot pointer).bind ?_
            intro value otherValue resolved related
            have valueDistinct : value.DistinctKeys := by
              cases pointer with
              | str reference => exact Json.hereditary_distinctKeys.of_resolve distinctRoot resolved
              | _ => cases resolved
            cases related with
            | atom isKey =>
                cases value with
                | obj members => cases isKey
                | _ => exact .done trivial
            | array => exact .done trivial
            | object each permuted =>
                have target := (Json.Reordered.object each permuted).keywords valueDistinct.1
                exact declaredTag_reordered target valueDistinct sameTag
          · rw [mapped, otherMapped]
            exact .done trivial
        · simp only [isKey]
          exact .failed _ _

theorem memberTags_reordered
    {members others : List Json} (each : List.Forall₂ Json.Reordered members others)
    (distinct : ∀ member ∈ members, member.DistinctKeys) (place : Nat) :
    Outcome.Matches (fun _ _ => True) (memberTags root tag table place members)
      (memberTags other otherTag otherTable place others) := by
  induction each generalizing place with
  | nil => exact .done trivial
  | cons first _ inductionHypothesis =>
      have firstTag := memberTag_reordered document distinctRoot sameTag alike first
        (distinct _ List.mem_cons_self)
      have restTags := inductionHypothesis (fun member later =>
        distinct member (List.mem_cons_of_mem _ later)) (place + 1)
      rw [memberTags, memberTags]
      refine firstTag.bind fun _ _ _ _ => ?_
      exact restTags.bind fun _ _ _ _ => .done trivial

theorem memberTags_listed
    {members others : List Json} (listed : Listed members others)
    (distinct : ∀ member ∈ members, member.DistinctKeys) :
    Outcome.Matches (fun _ _ => True) (memberTags root tag table 0 members)
      (memberTags other otherTag otherTable 0 others) := by
  cases listed with
  | items each => exact memberTags_reordered document distinctRoot sameTag alike each distinct 0
  | @texts texts otherTexts _ =>
      obtain ⟨tags, tagged⟩ :=
        exists_memberTags_texts root tag table texts 0
      obtain ⟨otherTags, otherTagged⟩ :=
        exists_memberTags_texts other otherTag otherTable otherTexts 0
      rw [tagged, otherTagged]
      exact .done trivial

end Members

/-! ## Forms of schemas -/

section Schemas

variable {root other : Json} (document : root.Reordered other) (distinctRoot : root.DistinctKeys)

include document distinctRoot

theorem ofReference_reordered {pointer otherPointer : Json}
    (reordered : pointer.Reordered otherPointer) :
    Reordered (ofReference root pointer) (ofReference other otherPointer) := by
  unfold ofReference
  rw [reordered.isKey_eq]
  by_cases isKey : pointer.isKey = true
  · rw [reordered.eq_of_isKey isKey]
    simp only [isKey]
    cases pointer with
    | str target =>
        rcases (Pointer.resolve_reordered document distinctRoot target).outcomes with
          ⟨_, _, failed, otherFailed⟩ | ⟨_, _, resolved, otherResolved, _⟩
        · simp only [failed, otherFailed]
          exact .rejected _ _
        · simp only [resolved, otherResolved]
          exact .reference target
    | _ => exact .rejected _ _
  · simp only [isKey]
    exact .rejected _ _

theorem ofDiscriminated_reordered
    {tag otherTag value otherValue : Json} {discriminator others : List (String × Json)}
    (sameTag : tag.Reordered otherTag) (described : ReorderedKeywords discriminator others)
    (reordered : value.Reordered otherValue) (distinct : value.DistinctKeys) :
    Reordered (ofDiscriminated root tag discriminator value)
      (ofDiscriminated other otherTag others otherValue) := by
  unfold ofDiscriminated
  simp only [reordered.isTruthy_eq]
  cases value.isTruthy with
  | false => exact .rejected _ _
  | true =>
      rcases (mappedTags_reordered described).outcomes with
        ⟨_, _, failed, otherFailed⟩ | ⟨table, otherTable, mapping, otherMapping, alike⟩
      · simp only [failed, otherFailed]
        exact .rejected _ _
      rcases reordered.elements.outcomes with
        ⟨_, _, failed, otherFailed⟩ | ⟨members, otherMembers, listed, otherListed, related⟩
      · simp only [mapping, otherMapping, failed, otherFailed]
        exact .rejected _ _
      have membersDistinct : ∀ member ∈ members, member.DistinctKeys :=
        fun member isMember => Json.hereditary_distinctKeys.of_mem_elements distinct listed isMember
      rcases (memberTags_listed document distinctRoot sameTag alike related membersDistinct).outcomes
        with ⟨_, _, failed, otherFailed⟩ | ⟨tags, otherTags, tagged, otherTagged, _⟩
      · simp only [mapping, otherMapping, listed, otherListed, Outcome.bind_ok, failed, otherFailed]
        exact .rejected _ _
      · have tagKeys := isKey_of_mem_memberTags (isKey_of_mem_mappedTags mapping) tagged
        have otherTagKeys :=
          isKey_of_mem_memberTags (isKey_of_mem_mappedTags otherMapping) otherTagged
        simp only [mapping, otherMapping, listed, otherListed, Outcome.bind_ok, tagged, otherTagged]
        exact .discriminated tagKeys otherTagKeys related

theorem ofKeywords_reordered
    {keywords others : List (String × Json)} (reordered : ReorderedKeywords keywords others)
    (distinct : (Json.obj keywords).DistinctKeys)
    (enumListed : ∀ value, Json.member? keywords "enum" = some value → ∃ items, value = .arr items) :
    Reordered (ofKeywords root keywords) (ofKeywords other others) := by
  unfold ofKeywords
  rcases reordered.outcomes "$ref" with ⟨absent, otherAbsent⟩ | ⟨_, _, found, otherFound, under⟩
  case inr =>
    simp only [found, otherFound]
    exact ofReference_reordered document distinctRoot under.reordered
  simp only [absent, otherAbsent]
  rcases reordered.outcomes "anyOf" with ⟨absent, otherAbsent⟩ | ⟨_, _, found, otherFound, under⟩
  case inr =>
    simp only [found, otherFound]
    exact ofChoice_reordered under.reordered
  simp only [absent, otherAbsent]
  rcases reordered.outcomes "oneOf" with
    ⟨absent, otherAbsent⟩ | ⟨value, otherValue, found, otherFound, under⟩
  case inr =>
    have choice := ofChoice_reordered under.reordered
    simp only [found, otherFound]
    rcases reordered.outcomes "discriminator" with
      ⟨absent, otherAbsent⟩ | ⟨given, otherGiven, described, otherDescribed, givenUnder⟩
    case inl =>
      simp only [absent, otherAbsent]
      exact choice
    simp only [described, otherDescribed]
    cases givenUnder.reordered with
    | atom isKey =>
        cases given with
        | obj members => cases isKey
        | _ => exact choice
    | array => exact choice
    | object each permuted =>
        have givenDistinct := Json.hereditary_distinctKeys.of_member? distinct described
        have discriminator := (Json.Reordered.object each permuted).keywords givenDistinct.1
        dsimp only
        rcases discriminator.outcomes "propertyName" with
          ⟨absent, otherAbsent⟩ | ⟨_, _, named, otherNamed, tagUnder⟩
        · simp only [absent, otherAbsent]
          exact choice
        · simp only [named, otherNamed]
          exact ofDiscriminated_reordered document distinctRoot tagUnder.reordered discriminator
            under.reordered (Json.hereditary_distinctKeys.of_member? distinct found)
  simp only [absent, otherAbsent]
  rcases reordered.outcomes "allOf" with ⟨absent, otherAbsent⟩ | ⟨_, _, found, otherFound, under⟩
  case inr =>
    simp only [found, otherFound]
    exact ofIntersection_reordered under.reordered
  simp only [absent, otherAbsent]
  rcases reordered.outcomes "const" with ⟨absent, otherAbsent⟩ | ⟨_, _, found, otherFound, under⟩
  case inr =>
    simp only [found, otherFound]
    exact ofValues_reordered (.cons under.reordered .nil)
  simp only [absent, otherAbsent]
  rcases reordered.outcomes "enum" with ⟨absent, otherAbsent⟩ | ⟨_, _, found, otherFound, under⟩
  case inr =>
    simp only [found, otherFound]
    obtain ⟨items, rfl⟩ := enumListed _ found
    cases under.reordered with
    | atom isKey => cases isKey
    | array each => exact ofEnum_reordered each.forall₂
  simp only [absent, otherAbsent]
  rcases reordered.outcomes "type" with ⟨absent, otherAbsent⟩ | ⟨_, _, found, otherFound, under⟩
  · simp only [absent, otherAbsent, Option.getD_none]
    exact ofType_reordered reordered .null (.atom rfl)
  · simp only [found, otherFound, Option.getD_some]
    exact ofType_reordered reordered _ under.reordered

/-- Reordered schemas of reordered documents have reordered forms. -/
theorem form_reordered
    {schema otherSchema : Json} (reordered : schema.Reordered otherSchema)
    (distinct : schema.DistinctKeys)
    (enumListed : ∀ keywords value, schema = .obj keywords →
      Json.member? keywords "enum" = some value → ∃ items, value = .arr items) :
    Reordered (root.form schema) (other.form otherSchema) := by
  cases reordered with
  | atom isKey =>
      cases schema with
      | arr items => cases isKey
      | obj keywords => cases isKey
      | bool value =>
          cases value with
          | false => exact .primitive _
          | true => exact .primitive _
      | _ => exact .rejected _ _
  | array => exact .rejected _ _
  | object each permuted =>
      have keywords := (Json.Reordered.object each permuted).keywords distinct.1
      exact ofKeywords_reordered document distinctRoot keywords distinct fun value =>
        enumListed _ value rfl

end Schemas

end Form

end SchemaSignature
