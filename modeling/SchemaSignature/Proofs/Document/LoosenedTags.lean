import SchemaSignature.Proofs.Document.Faults
import SchemaSignature.Proofs.Document.Loosening

/-!
References and tags in a loosened document. A reference leads to the loosened value at the same place,
or fails for the same reason. The tags of a discriminated choice are found in the same cases, as long
as no value is chosen in which they are looked up.
-/

namespace SchemaSignature

open Pointer (Location)

namespace Pointer

variable {chosen : Location → Bool}

theorem follow_loosened
    (chosen : Location → Bool) (reference : String) (target : Json) (place : Location)
    (piece : String) :
    (∃ failure, follow reference target piece = .error failure ∧
        follow reference (target.loosened chosen place) piece = .error failure) ∨
      ∃ step next, stepIn? target piece = some step ∧ step.enter? target = some next ∧
        follow reference target piece = .ok next ∧
        follow reference (target.loosened chosen place) piece =
          .ok (next.loosened chosen (place ++ [step])) := by
  cases target with
  | obj members =>
      simp only [Json.loosened, follow, stepIn?, Json.member?_loosenedMembers]
      cases found : Json.member? members piece with
      | none => exact Or.inl ⟨_, rfl, rfl⟩
      | some value => exact Or.inr ⟨_, value, rfl, found, rfl, rfl⟩
  | arr items =>
      simp only [Json.loosened, follow, stepIn?]
      split
      · cases read : position piece with
        | error failure => exact Or.inl ⟨failure, rfl, rfl⟩
        | ok index =>
            simp only [Outcome.bind_ok, Json.getElem?_loosenedItems, Nat.zero_add]
            cases found : items[index]? with
            | none => exact Or.inl ⟨_, rfl, rfl⟩
            | some value => exact Or.inr ⟨_, value, rfl, found, rfl, rfl⟩
      · exact Or.inl ⟨_, rfl, rfl⟩
  | bool value =>
      left
      refine ⟨.unresolvable reference, rfl, ?_⟩
      cases value with
      | false => rfl
      | true => rcases Json.loosened_true_cases chosen place with same | same <;> rw [same] <;> rfl
  | _ => exact Or.inl ⟨_, rfl, rfl⟩

theorem foldlM_follow_loosened
    (reference : String) (pieces : List String) (target : Json) (place : Location) :
    (∃ failure, pieces.foldlM (follow reference) target = .error failure ∧
        pieces.foldlM (follow reference) (target.loosened chosen place) = .error failure) ∨
      ∃ location value, locateFrom? target pieces = some location ∧
        valueAt? target location = some value ∧
        pieces.foldlM (follow reference) target = .ok value ∧
        pieces.foldlM (follow reference) (target.loosened chosen place) =
          .ok (value.loosened chosen (place ++ location)) := by
  induction pieces generalizing target place with
  | nil => exact Or.inr ⟨[], target, rfl, rfl, rfl, by rw [List.append_nil]; rfl⟩
  | cons piece rest inductionHypothesis =>
      rw [List.foldlM_cons, List.foldlM_cons]
      rcases follow_loosened chosen reference target place piece with
        ⟨failure, failed, otherFailed⟩ | ⟨step, next, isStep, entered, followed, otherFollowed⟩
      · exact Or.inl ⟨failure, by rw [failed]; rfl, by rw [otherFailed]; rfl⟩
      · rw [followed, otherFollowed, Outcome.bind_ok, Outcome.bind_ok]
        rcases inductionHypothesis next (place ++ [step]) with
          failing | ⟨location, value, located, isValue, done, otherDone⟩
        · exact Or.inl failing
        · refine Or.inr ⟨step :: location, value, ?_, ?_, done, ?_⟩
          · exact locateFrom?_cons_eq_some_iff.mpr
              ⟨step, next, location, isStep, entered, located, rfl⟩
          · simpa [valueAt?, entered] using isValue
          · rw [otherDone, List.append_assoc, List.singleton_append]

/-- A reference leads to the loosened value at its place, or fails as before. -/
theorem resolve_loosened (chosen : Location → Bool) (root : Json) (reference : String) :
    (∃ failure, resolve root reference = .error failure ∧
        resolve (root.loosened chosen []) reference = .error failure) ∨
      ∃ location value, locate? root reference = some location ∧
        valueAt? root location = some value ∧ resolve root reference = .ok value ∧
        resolve (root.loosened chosen []) reference = .ok (value.loosened chosen location) := by
  unfold resolve locate?
  rcases reference.toList with _ | ⟨c, pointer⟩
  · exact Or.inl ⟨_, rfl, rfl⟩
  · by_cases isHash : c = '#'
    · subst isHash
      by_cases isWhole : pointer.isEmpty = true
      · simp only [isWhole, if_true]
        exact Or.inr ⟨[], root, rfl, rfl, rfl, rfl⟩
      · simp only [isWhole]
        exact foldlM_follow_loosened reference _ root []
    · left
      simp [isHash]

end Pointer

namespace Form

section Tags

open Document (ReadAt ReadOtherwise TaggedAt)

variable {root : Json} {chosen : Location → Bool}
  (spared : ∀ place, ReadOtherwise root place → chosen place = false)

include spared

/-- What a schema that is read has for a value is not chosen. -/
theorem not_chosen
    {place path : Location} {schema : List (String × Json)} (read : ReadAt root place (.obj schema))
    (isValue : ValueAt schema path) : chosen (place ++ path) = false :=
  spared _ (.value read isValue)

/-- The value of a keyword that is read as a whole does not change. -/
theorem loosened_keyword
    {place : Location} {schema : List (String × Json)} {keyword : String}
    (read : ReadAt root place (.obj schema))
    (isValue : ∀ inside, ValueAt schema (.key keyword :: inside)) (value : Json) :
    value.loosened chosen (place ++ [.key keyword]) = value := by
  refine Json.loosened_eq_self value fun inside => ?_
  rw [List.append_assoc]
  exact not_chosen spared read (isValue inside)

theorem declaredValue_loosened
    {place : Location} {name : String} {schema properties discriminant : List (String × Json)}
    (tagged : TaggedAt root (.str name) place schema)
    (table : Json.member? schema "properties" = some (.obj properties))
    (field : Json.member? properties name = some (.obj discriminant)) :
    Outcome.Coincides (fun _ _ => True) (declaredValue discriminant)
      (declaredValue (Json.loosenedMembers chosen (place ++ [.key "properties"] ++ [.key name])
        discriminant)) := by
  unfold declaredValue
  rw [Json.member?_loosenedMembers, Json.member?_loosenedMembers]
  cases constant : Json.member? discriminant "const" with
  | some value => exact .done trivial
  | none =>
      have notChosen : chosen (place ++ [.key "properties"] ++ [.key name] ++ [.key "enum"]) = false := by
        have noValue := spared _ (.tags tagged table field constant)
        simpa only [List.append_assoc, List.cons_append, List.nil_append] using noValue
      cases Json.member? discriminant "enum" with
      | none => exact .done trivial
      | some listed =>
          simp only [Option.map_none, Option.map_some]
          cases listed with
          | bool value =>
              cases value with
              | false => exact .done trivial
              | true =>
                  rw [Json.loosened_true notChosen]
                  exact .failed _
          | arr items =>
              cases items with
              | nil => exact .done trivial
              | cons first rest => exact .done trivial
          | obj members =>
              cases members with
              | nil => exact .done trivial
              | cons first rest => exact .failed _
          | _ => exact .refl (fun _ => trivial) _

/-- A member declares its tag in the loosened document, too, or fails as before. -/
theorem declaredTag_loosened
    {tag : Json} {place : Location} {schema : List (String × Json)}
    (tagged : TaggedAt root tag place schema) :
    Outcome.Coincides (fun _ _ => True) (declaredTag tag schema)
      (declaredTag tag (Json.loosenedMembers chosen place schema)) := by
  unfold declaredTag
  rw [Json.member?_loosenedMembers]
  cases table : Json.member? schema "properties" with
  | none => exact .done trivial
  | some properties =>
      simp only [Option.map_some]
      cases properties with
      | obj properties =>
          simp only [Json.loosened]
          split
          · exact .failed _
          · cases tag with
            | str name =>
                simp only [Json.member?_loosenedMembers]
                cases field : Json.member? properties name with
                | none => exact .done trivial
                | some discriminant =>
                    cases discriminant with
                    | obj discriminant =>
                        simp only [Option.map_some, Json.loosened]
                        apply (declaredValue_loosened spared tagged table field).bind
                        intro value otherValue _ _
                        exact .done trivial
                    | bool value =>
                        cases value with
                        | false => exact .done trivial
                        | true =>
                            have noValue : declaredValue [] = .ok none := rfl
                            rw [Option.map_some]
                            rcases Json.loosened_true_cases chosen
                              (place ++ [.key "properties"] ++ [.key name]) with same | same
                            · rw [same]
                              exact .done trivial
                            · simp only [same, noValue]
                              exact .done trivial
                    | _ => exact .done trivial
            | _ => exact .done trivial
      | bool value =>
          cases value with
          | false => exact .done trivial
          | true =>
              by_cases isChosen : chosen (place ++ [.key "properties"]) = true
              · have isKey : tag.isKey = true := by
                  by_contra noKey
                  have notChosen := spared _ (.fields tagged (Bool.eq_false_iff.mpr noKey))
                  rw [notChosen] at isChosen
                  cases isChosen
                simp only [Json.loosened, isChosen, if_true, isKey, Bool.not_true,
                  Bool.false_eq_true, if_false]
                cases tag <;> exact .done trivial
              · rw [Json.loosened_true (Bool.eq_false_iff.mpr isChosen)]
                exact .done trivial
      | _ => exact .done trivial

section Members

variable {place : Location} {schema discriminator : List (String × Json)} {tag : Json}
  {members : List Json} (read : ReadAt root place (.obj schema))
  (choice : Discriminates schema discriminator tag (.arr members))

include read choice

theorem memberTag_loosened
    {index : Nat} {member : Json} (isMember : members[index]? = some member)
    (tagOf : List (Json × Json)) :
    Outcome.Coincides (fun _ _ => True) (memberTag root tag tagOf member)
      (memberTag (root.loosened chosen []) tag tagOf
        (member.loosened chosen (place ++ [.key "oneOf", .index index]))) := by
  have readMember : ReadAt root (place ++ [.key "oneOf", .index index]) member :=
    read.part (.member choice.decides (by simp) choice.listed isMember)
  have openTag : declaredTag tag [] = .ok none := rfl
  cases member with
  | obj keywords =>
      simp only [Json.loosened, memberTag, Json.member?_loosenedMembers]
      cases refers : Json.member? keywords "$ref" with
      | none => exact declaredTag_loosened spared (.member read choice isMember refers)
      | some pointer =>
          have samePointer := loosened_keyword spared readMember
            (fun inside => .keyword (decisive?_of_reference refers) (by simp)) pointer
          simp only [Option.map_some, samePointer]
          split
          · exact .failed _
          · split
            · exact .done trivial
            · cases pointer with
              | str reference =>
                  simp only [Pointer.resolveValue]
                  rcases Pointer.resolve_loosened chosen root reference with
                    ⟨failure, failed, otherFailed⟩ |
                      ⟨location, value, located, isValue, resolved, otherResolved⟩
                  · rw [failed, otherFailed]
                    exact .failed _
                  · rw [resolved, otherResolved]
                    cases value with
                    | obj target =>
                        have isListed := List.mem_of_getElem? isMember
                        exact declaredTag_loosened spared
                          (.target read choice isListed refers located isValue)
                    | bool value =>
                        cases value with
                        | false => exact .done trivial
                        | true =>
                            rcases Json.loosened_true_cases chosen location with same | same
                            · rw [same]
                              exact .done trivial
                            · simp only [same, Outcome.bind_ok, openTag]
                              exact .done trivial
                    | _ => exact .done trivial
              | _ => exact .failed _
  | bool value =>
      cases value with
      | false => exact .done trivial
      | true =>
          rcases Json.loosened_true_cases chosen (place ++ [.key "oneOf", .index index]) with
            same | same
          · rw [same]
            exact .done trivial
          · rw [same, memberTag]
            exact .done trivial
  | _ => exact .done trivial

theorem memberTags_loosened (tagOf : List (Json × Json)) :
    Outcome.Coincides (fun _ _ => True) (memberTags root tag tagOf 0 members)
      (memberTags (root.loosened chosen []) tag tagOf 0
        (Json.loosenedItems chosen (place ++ [.key "oneOf"]) 0 members)) := by
  have fromPlace : ∀ (rest : List Json) (start : Nat),
      (∀ index member, rest[index]? = some member → members[start + index]? = some member) →
      Outcome.Coincides (fun _ _ => True) (memberTags root tag tagOf start rest)
        (memberTags (root.loosened chosen []) tag tagOf start
          (Json.loosenedItems chosen (place ++ [.key "oneOf"]) start rest)) := by
    intro rest
    induction rest with
    | nil => exact fun _ _ => .done trivial
    | cons member rest inductionHypothesis =>
        intro start areMembers
        have first := memberTag_loosened spared read choice (areMembers 0 member rfl) tagOf
        have later := inductionHypothesis (start + 1) fun index member isMember => by
          rw [Nat.add_assoc, Nat.add_comm 1 index]
          exact areMembers (index + 1) member isMember
        rw [Json.loosenedItems, memberTags, memberTags, List.append_assoc, List.singleton_append]
        refine first.bind fun _ _ _ _ => later.bind fun _ _ _ _ => .done trivial
  exact fromPlace members 0 fun index member isMember => by rwa [Nat.zero_add]

end Members

end Tags

end Form

end SchemaSignature
