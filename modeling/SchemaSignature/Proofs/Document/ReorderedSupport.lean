import SchemaSignature.Proofs.Document.ReorderedTags
import SchemaSignature.Proofs.Document.Support

/-!
The check of the supported subset accepts a document exactly if it accepts a reordered one. It passes
if every single check passes, in whatever order the subschemas under a keyword are looked at.
-/

namespace SchemaSignature

open Json (ReorderedKeywords Listed)

namespace Outcome

variable {failure first second : Type}

/-- Steps that all succeed succeed in order. -/
theorem forM_eq_ok
    {step : first → Except failure Unit} {values : List first}
    (done : ∀ value ∈ values, step value = .ok ()) : values.forM step = .ok () := by
  induction values with
  | nil => rfl
  | cons head rest inductionHypothesis =>
      have restDone := inductionHypothesis fun value later => done value (List.mem_cons_of_mem _ later)
      change (step head >>= fun _ => rest.forM step) = .ok ()
      rw [done head List.mem_cons_self, bind_ok, restDone]

theorem Matches.eq_ok_iff
    {related : Unit → Unit → Prop} {one other : Except failure Unit}
    (matched : Matches related one other) : one = .ok () ↔ other = .ok () := by
  cases matched with
  | failed => constructor <;> intro impossible <;> cases impossible
  | done => exact ⟨fun _ => rfl, fun _ => rfl⟩

end Outcome

namespace Document

/-- Checks that both pass or both fail. -/
abbrev PassAlike (one other : Except Failure Unit) : Prop :=
  Outcome.Matches (fun _ _ => True) one other

/-! ## Own keywords -/

theorem isSupportedType_reordered {type otherType : Json} (related : type.Reordered otherType) :
    isSupportedType otherType = isSupportedType type := by
  cases related <;> rfl

section Own

variable {keywords others : List (String × Json)} (reordered : ReorderedKeywords keywords others)

include reordered

theorem checkKeywords_reordered : PassAlike (checkKeywords keywords) (checkKeywords others) := by
  have sameKeys : Json.hasMember others = Json.hasMember keywords := funext reordered.hasMember_eq
  unfold checkKeywords
  rw [sameKeys]
  split
  · exact .failed _ _
  · exact .done trivial

theorem checkReference_reordered
    {root other : Json} (document : root.Reordered other) (distinct : root.DistinctKeys) :
    PassAlike (checkReference root keywords) (checkReference other others) := by
  unfold checkReference
  rcases reordered.outcomes "$ref" with
    ⟨absent, otherAbsent⟩ | ⟨pointer, otherPointer, found, otherFound, under⟩
  · simp only [absent, otherAbsent]
    exact .done trivial
  · simp only [found, otherFound]
    by_cases isKey : pointer.isKey = true
    · rw [under.reordered.eq_of_isKey isKey]
      rcases (Pointer.resolveValue_reordered document distinct pointer).outcomes with
        ⟨_, _, failed, otherFailed⟩ | ⟨_, _, resolved, otherResolved, _⟩
      · rw [failed, otherFailed]
        exact .failed _ _
      · rw [resolved, otherResolved]
        exact .done trivial
    · cases under.reordered with
      | atom isAtom => exact absurd isAtom isKey
      | array | object => exact .failed _ _

theorem checkType_reordered : PassAlike (checkType keywords) (checkType others) := by
  unfold checkType
  rcases reordered.outcomes "type" with
    ⟨absent, otherAbsent⟩ | ⟨type, otherType, found, otherFound, under⟩
  · simp only [absent, otherAbsent]
    exact .done trivial
  · simp only [found, otherFound]
    cases under.reordered with
    | atom isKey =>
        cases type with
        | null => exact .done trivial
        | str name =>
            dsimp only
            split
            · exact .done trivial
            · exact .failed _ _
        | arr items => cases isKey
        | _ => exact .failed _ _
    | @array types otherTypes each =>
        have unseen {type other : Json} (related : type.Reordered other) :
            (!isSupportedType other) = !isSupportedType type := by
          rw [isSupportedType_reordered related]
        dsimp only
        rcases Json.find?_cases_of_forall₂ (fun type => !isSupportedType type) unseen
            each.forall₂ with ⟨noneFound, otherNoneFound⟩ | ⟨_, _, found, otherFound⟩
        · rw [noneFound, otherNoneFound]
          exact .done trivial
        · rw [found, otherFound]
          exact .failed _ _
    | object => exact .failed _ _

theorem checkEnum_reordered : PassAlike (checkEnum keywords) (checkEnum others) := by
  unfold checkEnum
  rcases reordered.outcomes "enum" with
    ⟨absent, otherAbsent⟩ | ⟨listed, otherListed, found, otherFound, under⟩
  · simp only [absent, otherAbsent]
    exact .done trivial
  · simp only [found, otherFound, Form.ofEnum]
    rcases (Form.nonEmptyElements_reordered under.reordered .noValues).outcomes with
      ⟨_, _, failed, otherFailed⟩ | ⟨listed, otherListed, values, otherValues, related⟩
    · simp only [failed, otherFailed]
      exact .failed _ _
    · simp only [values, otherValues]
      cases related with
      | items each =>
          have forms := Form.ofValues_reordered each
          generalize Form.ofValues listed = form at forms ⊢
          generalize Form.ofValues otherListed = otherForm at forms ⊢
          cases forms with
          | rejected => exact .failed _ _
          | _ => exact .done trivial
      | @texts texts otherTexts _ =>
          obtain ⟨_, _, accepted⟩ := Form.ofValues_of_keys (Form.isKey_of_mem_texts texts)
          obtain ⟨_, _, otherAccepted⟩ :=
            Form.ofValues_of_keys (Form.isKey_of_mem_texts otherTexts)
          rw [accepted, otherAccepted]
          exact .done trivial

theorem checkOwnKeywords_reordered
    {root other : Json} (document : root.Reordered other) (distinct : root.DistinctKeys) :
    PassAlike (checkOwnKeywords root keywords) (checkOwnKeywords other others) := by
  refine (checkKeywords_reordered reordered).bind fun _ _ _ _ => ?_
  refine (checkReference_reordered reordered document distinct).bind fun _ _ _ _ => ?_
  exact (checkType_reordered reordered).bind fun _ _ _ _ => checkEnum_reordered reordered

end Own

/-! ## Groups of subschemas -/

/-- Each member of one group has a reordered one in the other group, and the other way round. -/
structure SameGroup (members others : List Json) : Prop where
  distinct : ∀ member ∈ members, member.DistinctKeys
  forth : ∀ member ∈ members, ∃ other ∈ others, member.Reordered other
  back : ∀ other ∈ others, ∃ member ∈ members, member.Reordered other

theorem sameGroup_of_forall₂
    {members others : List Json} (each : List.Forall₂ Json.Reordered members others)
    (distinct : ∀ member ∈ members, member.DistinctKeys) : SameGroup members others where
  distinct := distinct
  forth _ isMember := Node.exists_of_mem_right each.flip isMember
  back _ isOther := Node.exists_of_mem_right each isOther

theorem sameGroup_of_listed
    {members others : List Json} (listed : Listed members others)
    (distinct : ∀ member ∈ members, member.DistinctKeys) : SameGroup members others := by
  cases listed with
  | items each => exact sameGroup_of_forall₂ each distinct
  | @texts texts otherTexts permuted =>
      have sameMembers : ∀ member, member ∈ texts.map Json.str ↔ member ∈ otherTexts.map Json.str :=
        fun member => (permuted.map Json.str).mem_iff
      have atoms : ∀ member ∈ texts.map Json.str, member.Reordered member := by
        intro member isText
        obtain ⟨text, _, rfl⟩ := List.mem_map.mp isText
        exact .atom rfl
      exact ⟨distinct, fun member isText => ⟨member, (sameMembers member).mp isText, atoms member isText⟩,
        fun member isText => ⟨member, (sameMembers member).mpr isText,
          atoms member ((sameMembers member).mpr isText)⟩⟩

section Groups

variable {keywords others : List (String × Json)} (reordered : ReorderedKeywords keywords others)
  (distinct : (Json.obj keywords).DistinctKeys)

include reordered distinct

theorem namedSubschemas_reordered (keyword : String) :
    Outcome.Matches SameGroup (namedSubschemas keywords keyword) (namedSubschemas others keyword) := by
  unfold namedSubschemas
  rcases reordered.outcomes keyword with
    ⟨absent, otherAbsent⟩ | ⟨value, otherValue, found, otherFound, under⟩
  · simp only [absent, otherAbsent]
    exact .done (sameGroup_of_forall₂ .nil (List.forall_mem_nil _))
  · simp only [found, otherFound]
    cases under.reordered with
    | atom isKey =>
        cases value with
        | obj members => cases isKey
        | _ => exact .failed _ _
    | array => exact .failed _ _
    | @object members middle otherMembers each permuted =>
        have tableDistinct := Json.hereditary_distinctKeys.of_member? distinct found
        have membersDistinct : ∀ member ∈ members.map (·.2), member.DistinctKeys := by
          intro value isValue
          obtain ⟨member, isMember, rfl⟩ := List.mem_map.mp isValue
          exact Json.hereditary_distinctKeys.member isMember tableDistinct
        have values : List.Forall₂ Json.Reordered (members.map (·.2)) (middle.map (·.2)) := by
          refine List.forall₂_map_left_iff.mpr (List.forall₂_map_right_iff.mpr ?_)
          exact each.forall₂.imp fun _ _ related => related.2.reordered
        have inOrder := sameGroup_of_forall₂ values membersDistinct
        have sameValues : ∀ value, value ∈ middle.map (·.2) ↔ value ∈ otherMembers.map (·.2) :=
          fun value => (permuted.map (·.2)).mem_iff
        refine .done ⟨membersDistinct, ?_, ?_⟩
        · intro member isMember
          obtain ⟨other, isOther, related⟩ := inOrder.forth member isMember
          exact ⟨other, (sameValues other).mp isOther, related⟩
        · intro other isOther
          exact inOrder.back other ((sameValues other).mpr isOther)

theorem itemSubschemas_reordered : SameGroup (itemSubschemas keywords) (itemSubschemas others) := by
  unfold itemSubschemas
  rcases reordered.outcomes "items" with
    ⟨absent, otherAbsent⟩ | ⟨value, otherValue, found, otherFound, under⟩
  · simp only [absent, otherAbsent]
    exact sameGroup_of_forall₂ .nil (List.forall_mem_nil _)
  · have valueDistinct := Json.hereditary_distinctKeys.of_member? distinct found
    have single : SameGroup [value] [otherValue] :=
      sameGroup_of_forall₂ (.cons under.reordered .nil) fun member isMember =>
        List.mem_singleton.mp isMember ▸ valueDistinct
    simp only [found, otherFound]
    cases under.reordered with
    | atom isKey =>
        cases value with
        | null => exact sameGroup_of_forall₂ .nil (List.forall_mem_nil _)
        | arr items => cases isKey
        | _ => exact single
    | array each =>
        exact sameGroup_of_forall₂ each.forall₂ fun member isMember =>
          Json.hereditary_distinctKeys.item isMember valueDistinct
    | object => exact single

theorem additionalSubschemas_reordered :
    SameGroup (additionalSubschemas keywords) (additionalSubschemas others) := by
  have none : SameGroup [] [] := sameGroup_of_forall₂ .nil (List.forall_mem_nil _)
  unfold additionalSubschemas
  rcases reordered.outcomes "additionalProperties" with
    ⟨absent, otherAbsent⟩ | ⟨value, otherValue, found, otherFound, under⟩
  · simp only [absent, otherAbsent]
    exact none
  · have valueDistinct := Json.hereditary_distinctKeys.of_member? distinct found
    have single : SameGroup [value] [otherValue] :=
      sameGroup_of_forall₂ (.cons under.reordered .nil) fun member isMember =>
        List.mem_singleton.mp isMember ▸ valueDistinct
    simp only [found, otherFound]
    cases under.reordered with
    | atom isKey =>
        cases value with
        | obj members => cases isKey
        | _ => exact none
    | array => exact none
    | object => exact single

theorem listedSubschemas_reordered (keyword : String) :
    Outcome.Matches SameGroup (listedSubschemas keywords keyword) (listedSubschemas others keyword) := by
  unfold listedSubschemas
  rcases reordered.outcomes keyword with
    ⟨absent, otherAbsent⟩ | ⟨value, otherValue, found, otherFound, under⟩
  · simp only [absent, otherAbsent]
    exact .done (sameGroup_of_forall₂ .nil (List.forall_mem_nil _))
  · have valueDistinct := Json.hereditary_distinctKeys.of_member? distinct found
    simp only [found, otherFound]
    rcases under.reordered.elements.outcomes with
      ⟨_, _, failed, otherFailed⟩ | ⟨members, otherMembers, listed, otherListed, related⟩
    · rw [failed, otherFailed]
      exact .failed _ _
    · rw [listed, otherListed]
      exact .done (sameGroup_of_listed related fun member isMember =>
        Json.hereditary_distinctKeys.of_mem_elements valueDistinct listed isMember)

theorem subschemaGroups_reordered :
    List.Forall₂ (Outcome.Matches SameGroup) (subschemaGroups keywords) (subschemaGroups others) := by
  have named := namedSubschemas_reordered reordered distinct
  have listed := listedSubschemas_reordered reordered distinct
  have single : List.Forall₂ (Outcome.Matches SameGroup)
      ([.ok (itemSubschemas keywords), .ok (additionalSubschemas keywords)] :
        List (Except Failure (List Json)))
      [.ok (itemSubschemas others), .ok (additionalSubschemas others)] :=
    .cons (.done (itemSubschemas_reordered reordered distinct))
      (.cons (.done (additionalSubschemas_reordered reordered distinct)) .nil)
  have byKeyword {groups otherGroups : String → Except Failure (List Json)} (keys : List String)
      (each : ∀ keyword, Outcome.Matches SameGroup (groups keyword) (otherGroups keyword)) :
      List.Forall₂ (Outcome.Matches SameGroup) (keys.map groups) (keys.map otherGroups) :=
    List.forall₂_map_left_iff.mpr (List.forall₂_map_right_iff.mpr
      (List.forall₂_same.mpr fun keyword _ => each keyword))
  exact List.rel_append (List.rel_append (byKeyword _ named) single) (byKeyword _ listed)

end Groups

/-! ## Documents -/

theorem supported_iff {root : Json} {keywords : List (String × Json)} :
    Supported root (.obj keywords) ↔
      checkOwnKeywords root keywords = .ok () ∧
        ∀ group ∈ subschemaGroups keywords, ∃ members, group = .ok members ∧
          ∀ member ∈ members, Supported root member := by
  constructor
  · exact fun supported => ⟨supported.own, fun _ isGroup => supported.of_group isGroup⟩
  · rintro ⟨own, groups⟩
    rw [Supported, checkSupported_eq, checkSchema, own, Outcome.bind_ok]
    refine Outcome.forM_eq_ok fun group isGroup => ?_
    obtain ⟨members, rfl, each⟩ := groups group isGroup
    exact Outcome.forM_eq_ok each

/-- A schema is supported exactly if a reordered one is, in a document that is reordered too. -/
theorem supported_reordered
    {root other : Json} (document : root.Reordered other) (distinctRoot : root.DistinctKeys)
    {schema otherSchema : Json} (reordered : schema.Reordered otherSchema)
    (distinct : schema.DistinctKeys) : Supported root schema ↔ Supported other otherSchema := by
  have atHeight : ∀ (bound : Nat) {schema otherSchema : Json}, schema.height < bound →
      schema.Reordered otherSchema → schema.DistinctKeys →
        (Supported root schema ↔ Supported other otherSchema) := by
    intro bound
    induction bound with
    | zero =>
        intro schema otherSchema impossible
        exact absurd impossible (Nat.not_lt_zero _)
    | succ bound inductionHypothesis =>
        intro schema otherSchema lower reordered distinct
        cases reordered with
        | atom isKey =>
            rw [Supported, Supported, checkSupported_eq, checkSupported_eq]
            cases schema with
            | arr items => cases isKey
            | obj members => cases isKey
            | _ => simp only [checkSchema]
        | array =>
            rw [Supported, Supported, checkSupported_eq, checkSupported_eq]
            simp only [checkSchema, Json.kind]
        | @object keywords _ others each permuted =>
            have reordered := (Json.Reordered.object each permuted).keywords distinct.1
            have sameOwn := (checkOwnKeywords_reordered reordered document distinctRoot).eq_ok_iff
            have groups := subschemaGroups_reordered reordered distinct
            have inside {members : List Json} (isGroup : .ok members ∈ subschemaGroups keywords)
                {member otherMember : Json} (isMember : member ∈ members)
                (related : member.Reordered otherMember) (memberDistinct : member.DistinctKeys) :
                Supported root member ↔ Supported other otherMember := by
              have memberLower := height_lt_of_mem_group isGroup isMember
              exact inductionHypothesis (by omega) related memberDistinct
            rw [supported_iff, supported_iff, sameOwn]
            refine and_congr_right fun _ => ⟨fun supported otherGroup isOther => ?_,
              fun supported group isGroup => ?_⟩
            · obtain ⟨group, isGroup, matched⟩ := Node.exists_of_mem_right groups isOther
              obtain ⟨members, rfl, each⟩ := supported group isGroup
              obtain ⟨otherMembers, rfl, same⟩ := matched.exists_of_ok
              refine ⟨otherMembers, rfl, fun otherMember isOtherMember => ?_⟩
              obtain ⟨member, isMember, related⟩ := same.back otherMember isOtherMember
              exact (inside isGroup isMember related (same.distinct member isMember)).mp
                (each member isMember)
            · obtain ⟨otherGroup, isOther, matched⟩ := Node.exists_of_mem_right groups.flip isGroup
              obtain ⟨otherMembers, rfl, each⟩ := supported otherGroup isOther
              cases matched with
              | @done members _ same =>
                  refine ⟨members, rfl, fun member isMember => ?_⟩
                  obtain ⟨otherMember, isOtherMember, related⟩ := same.forth member isMember
                  exact (inside isGroup isMember related (same.distinct member isMember)).mpr
                    (each otherMember isOtherMember)
  exact atHeight (schema.height + 1) (Nat.lt_succ_self _) reordered distinct

end Document

end SchemaSignature
