import SchemaSignature.Proofs.Document.DistinctKeys
import SchemaSignature.Proofs.Naming.Names

/-!
Values whose objects have the same members in another order. The members of an object under the key
`properties` keep their order, because it is the order of the fields of a signature; what stands in
them may be reordered again.
-/

namespace SchemaSignature.Json

mutual

/-- A value and the same one with the keys of its objects in other orders. -/
inductive Reordered : Json → Json → Prop where
  | atom {value : Json} (isKey : value.isKey = true) : Reordered value value
  | array {items others : List Json} (each : ReorderedItems items others) :
      Reordered (.arr items) (.arr others)
  | object {members middle others : List (String × Json)} (each : ReorderedMembers members middle)
      (permuted : middle.Perm others) : Reordered (.obj members) (.obj others)

inductive ReorderedItems : List Json → List Json → Prop where
  | nil : ReorderedItems [] []
  | cons {item other : Json} {rest others : List Json} (first : Reordered item other)
      (later : ReorderedItems rest others) : ReorderedItems (item :: rest) (other :: others)

/-- Members with the same keys in the same order, and reordered values. -/
inductive ReorderedMembers : List (String × Json) → List (String × Json) → Prop where
  | nil : ReorderedMembers [] []
  | cons {key : String} {value other : Json} {rest others : List (String × Json)}
      (first : ReorderedUnder key value other) (later : ReorderedMembers rest others) :
      ReorderedMembers ((key, value) :: rest) ((key, other) :: others)

/-- The values of a key: an object of properties keeps the order of its keys. -/
inductive ReorderedUnder : String → Json → Json → Prop where
  | properties {table others : List (String × Json)} (each : ReorderedMembers table others) :
      ReorderedUnder "properties" (.obj table) (.obj others)
  | free {key : String} {value other : Json}
      (notTable : key = "properties" → ∀ table, value ≠ .obj table)
      (reordered : Reordered value other) : ReorderedUnder key value other

end

/-! ## Reordered values -/

theorem ReorderedUnder.reordered {key : String} {value other : Json}
    (under : ReorderedUnder key value other) : Reordered value other := by
  cases under with
  | properties each => exact .object each (.refl _)
  | free _ reordered => exact reordered

section Values

variable {value other : Json} (reordered : Reordered value other)

include reordered

theorem Reordered.isKey_eq : other.isKey = value.isKey := by
  cases reordered <;> rfl

theorem Reordered.eq_of_isKey (isKey : value.isKey = true) : other = value := by
  cases reordered with
  | atom => rfl
  | array | object => cases isKey

end Values

theorem ReorderedItems.forall₂ {items others : List Json} (each : ReorderedItems items others) :
    List.Forall₂ Reordered items others := by
  induction items generalizing others with
  | nil =>
      cases each
      exact .nil
  | cons item rest inductionHypothesis =>
      cases each with
      | cons first later => exact .cons first (inductionHypothesis later)

theorem ReorderedMembers.forall₂
    {members others : List (String × Json)} (each : ReorderedMembers members others) :
    List.Forall₂ (fun one other => other.1 = one.1 ∧ ReorderedUnder one.1 one.2 other.2)
      members others := by
  induction members generalizing others with
  | nil =>
      cases each
      exact .nil
  | cons member rest inductionHypothesis =>
      cases each with
      | cons first later => exact .cons ⟨rfl, first⟩ (inductionHypothesis later)

theorem ReorderedMembers.keys_eq
    {members others : List (String × Json)} (each : ReorderedMembers members others) :
    others.map Prod.fst = members.map Prod.fst := by
  have related := each.forall₂
  clear each
  induction related with
  | nil => rfl
  | cons first _ inductionHypothesis =>
      rw [List.map_cons, List.map_cons, first.1, inductionHypothesis]

theorem Reordered.isTruthy_eq {value other : Json} (reordered : Reordered value other) :
    other.isTruthy = value.isTruthy := by
  cases reordered with
  | atom => rfl
  | array each =>
      cases each.forall₂ with
      | nil => rfl
      | cons => rfl
  | @object members middle others each permuted =>
      have sameLength : others.length = members.length := by
        rw [← permuted.length_eq, each.forall₂.length_eq]
      cases members with
      | nil =>
          rw [List.length_eq_zero_iff.mp sameLength]
      | cons first rest =>
          cases others with
          | nil => cases sameLength
          | cons => rfl

/-! ## Members of reordered objects -/

/-- Of a table whose keys are different, each entry is found by its key. -/
theorem member?_eq_some_iff
    {members : List (String × Json)} (distinct : (members.map Prod.fst).Nodup) {key : String}
    {value : Json} : member? members key = some value ↔ (key, value) ∈ members :=
  ⟨mem_of_member?, Table.lookup_eq_some_of_mem distinct⟩

theorem member?_eq_of_perm
    {members others : List (String × Json)} (distinct : (members.map Prod.fst).Nodup)
    (permuted : members.Perm others) (key : String) : member? others key = member? members key := by
  have othersDistinct : (others.map Prod.fst).Nodup :=
    (permuted.map Prod.fst).nodup_iff.mp distinct
  apply Option.ext
  intro value
  rw [member?_eq_some_iff distinct, member?_eq_some_iff othersDistinct, permuted.mem_iff]

/-- The values of a key of reordered members are reordered. -/
theorem ReorderedMembers.member?
    {members others : List (String × Json)} (each : ReorderedMembers members others)
    (key : String) :
    Option.Rel (ReorderedUnder key) (Json.member? members key) (Json.member? others key) := by
  have related := each.forall₂
  clear each
  unfold Json.member?
  induction related with
  | nil => exact .none
  | @cons one other rest others first _ inductionHypothesis =>
      obtain ⟨sameKey, under⟩ := first
      rw [List.lookup_cons, List.lookup_cons, sameKey]
      by_cases found : key = one.1
      · subst found
        rw [beq_self_eq_true]
        exact .some under
      · rw [beq_false_of_ne found]
        exact inductionHypothesis

/-- Two objects of keywords have the same keys, with reordered values. -/
def ReorderedKeywords (keywords others : List (String × Json)) : Prop :=
  ∀ key, Option.Rel (ReorderedUnder key) (member? keywords key) (member? others key)

theorem Reordered.keywords
    {keywords others : List (String × Json)} (reordered : Reordered (.obj keywords) (.obj others))
    (distinct : (keywords.map Prod.fst).Nodup) : ReorderedKeywords keywords others := by
  intro key
  cases reordered with
  | atom isKey => cases isKey
  | @object _ middle _ each permuted =>
      have middleDistinct : (middle.map Prod.fst).Nodup := each.keys_eq ▸ distinct
      rw [member?_eq_of_perm middleDistinct permuted key]
      exact each.member? key

section Keywords

variable {keywords others : List (String × Json)} (reordered : ReorderedKeywords keywords others)

include reordered

theorem ReorderedKeywords.outcomes (key : String) :
    (member? keywords key = none ∧ member? others key = none) ∨
      ∃ value other, member? keywords key = some value ∧ member? others key = some other ∧
        ReorderedUnder key value other := by
  have related := reordered key
  cases found : member? keywords key <;> cases otherFound : member? others key <;>
    rw [found, otherFound] at related <;> cases related
  · exact Or.inl ⟨rfl, rfl⟩
  · next under => exact Or.inr ⟨_, _, rfl, rfl, under⟩

theorem ReorderedKeywords.hasMember_eq (key : String) :
    hasMember others key = hasMember keywords key := by
  rcases reordered.outcomes key with ⟨absent, otherAbsent⟩ | ⟨_, _, found, otherFound, _⟩
  · rw [hasMember, hasMember, absent, otherAbsent]
  · rw [hasMember, hasMember, found, otherFound]
    rfl

end Keywords

/-! ## Values that lists are made of -/

/-- What the elements of reordered values are: reordered items, or texts in some order. -/
inductive Listed : List Json → List Json → Prop where
  | items {items others : List Json} (each : List.Forall₂ Reordered items others) :
      Listed items others
  | texts {texts others : List String} (permuted : texts.Perm others) :
      Listed (texts.map .str) (others.map .str)

theorem Reordered.elements {value other : Json} (reordered : Reordered value other) :
    Outcome.Matches Listed (Form.elements value) (Form.elements other) := by
  cases reordered with
  | array each => exact .done (.items each.forall₂)
  | @object members middle others each permuted =>
      have permutedKeys : (members.map Prod.fst).Perm (others.map Prod.fst) :=
        each.keys_eq ▸ permuted.map Prod.fst
      have listed := Listed.texts permutedKeys
      rw [List.map_map, List.map_map] at listed
      exact .done listed
  | atom isKey =>
      cases value with
      | str text =>
          have characters : text.toList.map (fun c => Json.str c.toString) =
              (text.toList.map Char.toString).map .str := by
            rw [List.map_map]
            rfl
          have listed := Listed.texts (List.Perm.refl (text.toList.map Char.toString))
          rw [← characters] at listed
          exact .done listed
      | arr items => cases isKey
      | obj members => cases isKey
      | _ => exact .failed _ _

/-- Items all of which can be keys are not changed. -/
theorem eq_of_keys
    {items others : List Json} (each : List.Forall₂ Reordered items others)
    (keys : ∀ item ∈ items, item.isKey = true) : others = items := by
  induction each with
  | nil => rfl
  | cons first _ inductionHypothesis =>
      have sameFirst := first.eq_of_isKey (keys _ List.mem_cons_self)
      have sameRest := inductionHypothesis fun item later => keys item (List.mem_cons_of_mem _ later)
      rw [sameFirst, sameRest]

/-- A search that does not see the order of keys finds something in both of two reordered lists or in
neither. -/
theorem find?_cases_of_forall₂
    (test : Json → Bool) (unseen : ∀ {value other}, Reordered value other → test other = test value)
    {items others : List Json} (each : List.Forall₂ Reordered items others) :
    (items.find? test = none ∧ others.find? test = none) ∨
      ∃ item other, items.find? test = some item ∧ others.find? test = some other := by
  induction each with
  | nil => exact Or.inl ⟨rfl, rfl⟩
  | @cons item other rest others first _ inductionHypothesis =>
      rw [List.find?_cons, List.find?_cons, unseen first]
      cases test item with
      | true => exact Or.inr ⟨item, other, rfl, rfl⟩
      | false => exact inductionHypothesis

end SchemaSignature.Json
