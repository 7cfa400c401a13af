import Mathlib.Data.List.Nodup
import SchemaSignature.Proofs.Document.Faults
import SchemaSignature.Proofs.Document.FieldNames
import SchemaSignature.Proofs.Document.Heredity

/-!
Documents whose objects list each key once. In such a document the fields of an object have different
names, because the name of a field determines the property, and no field is lost when its properties
are drafted.
-/

namespace SchemaSignature

namespace Json

mutual

/-- All objects in a value list each key once. -/
def DistinctKeys : Json → Prop
  | .arr items => DistinctKeysOfItems items
  | .obj members => (members.map Prod.fst).Nodup ∧ DistinctKeysOfMembers members
  | _ => True

def DistinctKeysOfItems : List Json → Prop
  | [] => True
  | item :: rest => item.DistinctKeys ∧ DistinctKeysOfItems rest

def DistinctKeysOfMembers : List (String × Json) → Prop
  | [] => True
  | (_, value) :: rest => value.DistinctKeys ∧ DistinctKeysOfMembers rest

end

theorem distinctKeys_of_mem_items
    {items : List Json} (distinct : DistinctKeysOfItems items) {item : Json}
    (isItem : item ∈ items) : item.DistinctKeys := by
  induction items with
  | nil => cases isItem
  | cons first rest inductionHypothesis =>
      rcases List.mem_cons.mp isItem with isFirst | later
      · exact isFirst ▸ distinct.1
      · exact inductionHypothesis distinct.2 later

theorem distinctKeys_of_mem_members
    {members : List (String × Json)} (distinct : DistinctKeysOfMembers members)
    {key : String} {value : Json} (isMember : (key, value) ∈ members) : value.DistinctKeys := by
  induction members with
  | nil => cases isMember
  | cons first rest inductionHypothesis =>
      obtain ⟨firstKey, firstValue⟩ := first
      rcases List.mem_cons.mp isMember with isFirst | later
      · cases isFirst
        exact distinct.1
      · exact inductionHypothesis distinct.2 later

theorem distinctKeysOfItems {items : List Json} (each : ∀ item ∈ items, item.DistinctKeys) :
    DistinctKeysOfItems items := by
  induction items with
  | nil => trivial
  | cons first rest inductionHypothesis =>
      exact ⟨each first List.mem_cons_self,
        inductionHypothesis fun item later => each item (List.mem_cons_of_mem _ later)⟩

theorem distinctKeysOfMembers
    {members : List (String × Json)} (each : ∀ member ∈ members, member.2.DistinctKeys) :
    DistinctKeysOfMembers members := by
  induction members with
  | nil => trivial
  | cons first rest inductionHypothesis =>
      exact ⟨each first List.mem_cons_self,
        inductionHypothesis fun member later => each member (List.mem_cons_of_mem _ later)⟩

theorem distinctKeys_of_isKey {value : Json} (isKey : value.isKey = true) : value.DistinctKeys := by
  cases value with
  | arr items => cases isKey
  | obj members => cases isKey
  | _ => trivial

theorem hereditary_distinctKeys : Hereditary DistinctKeys where
  text _ := trivial
  item isItem distinct := distinctKeys_of_mem_items distinct isItem
  member isMember distinct := distinctKeys_of_mem_members distinct.2 isMember

end Json

namespace Form

theorem namesApart_ofObject
    {schema : List (String × Json)} (distinct : (Json.obj schema).DistinctKeys) :
    (ofObject schema).NamesApart := by
  unfold ofObject
  rcases properties_cases schema with
    listing | ⟨failure, listing⟩ | ⟨members, required, found, _, listing⟩ <;> rw [listing]
  · trivial
  · trivial
  · have keysDistinct : (members.map Prod.fst).Nodup :=
      (Json.hereditary_distinctKeys.of_member? distinct found).1
    rw [NamesApart, List.map_map]
    have names_eq : (members.map ((fun property => fieldName property.name) ∘ fun member =>
        (⟨member.1, member.2, required.contains member.1⟩ : Property))) =
          (members.map Prod.fst).map fieldName := by
      rw [List.map_map]
      rfl
    rw [names_eq]
    exact List.Nodup.map (fun _ _ same => fieldName_injective same) keysDistinct

theorem namesApart_form
    (root : Json) {schema : Json} (distinct : schema.DistinctKeys) :
    (root.form schema).NamesApart := by
  cases schema with
  | obj keywords =>
      apply form_elim (motive := NamesApart)
      case object => exact namesApart_ofObject distinct
      case alternatives =>
        intro forms _ each
        exact allNamesApart_iff.mpr each
      all_goals
        intros
        trivial
  | bool value => cases value <;> trivial
  | _ => trivial

end Form

/-- The fields of objects in everything that is drafted as a part have different names. -/
theorem Json.DistinctKeys.namesApart
    {root schema : Json} (distinct : schema.DistinctKeys) :
    ∀ inner, Document.Within root schema inner → (root.form inner).NamesApart :=
  fun _ within => Form.namesApart_form root (Json.hereditary_distinctKeys.of_within distinct within)

end SchemaSignature
