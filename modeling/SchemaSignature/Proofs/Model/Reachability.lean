import Mathlib.Data.List.Nodup
import Mathlib.Data.List.Perm.Subperm
import Mathlib.Logic.Relation
import SchemaSignature.Model.Family

/-!
Families of models in which every reference leads to a model, and the models that a model leads to.
The names that are reached in bounded steps are all that can be reached at all: a step that is not the
last one adds a model of the family.
-/

namespace SchemaSignature.Model

mutual

/-- The unions and literals in a type have members, and the values of literals are not containers. -/
def FieldType.WellFormed : FieldType → Prop
  | .listOf item => item.WellFormed
  | .tableOf value => value.WellFormed
  | .optional value => value.WellFormed
  | .tuple members => AllWellFormed members
  | .union members => members ≠ [] ∧ AllWellFormed members
  | .literal values => values ≠ [] ∧ ∀ value ∈ values, value.isKey = true
  | _ => True

def AllWellFormed : List FieldType → Prop
  | [] => True
  | fieldType :: rest => fieldType.WellFormed ∧ AllWellFormed rest

end

mutual

/-- The numbers of members of the tuples in a type. -/
def FieldType.tupleLengths : FieldType → List Nat
  | .listOf item => item.tupleLengths
  | .tableOf value => value.tupleLengths
  | .optional value => value.tupleLengths
  | .tuple members => members.length :: tupleLengthsOfAll members
  | .union members => tupleLengthsOfAll members
  | _ => []

def tupleLengthsOfAll : List FieldType → List Nat
  | [] => []
  | fieldType :: rest => fieldType.tupleLengths ++ tupleLengthsOfAll rest

end

/-- The numbers of members of the tuples in the fields of a model. -/
def RecordModel.tupleLengths (model : RecordModel) : List Nat :=
  model.fields.flatMap fun field => field.fieldType.tupleLengths

/-- The models of a family have different names, which are identifiers, and fields of different names.
Their fields are well-formed and refer to models of the family only. -/
structure WellFormed (family : List RecordModel) : Prop where
  distinct : (family.map RecordModel.name).Nodup
  identifiers : ∀ model ∈ family, Text.isIdentifier model.name = true
  fieldsDistinct : ∀ model ∈ family, (model.fields.map Field.name).Nodup
  fieldTypes : ∀ model ∈ family, ∀ field ∈ model.fields, field.fieldType.WellFormed
  closed : ∀ model ∈ family, model.references ⊆ family.map RecordModel.name

/-- A model of the family has a field that refers to a model of the other name. -/
def Refers (family : List RecordModel) (name other : String) : Prop :=
  ∃ model ∈ family, model.name = name ∧ other ∈ model.references

/-- One model leads to another one through at least one field. -/
abbrev LeadsTo (family : List RecordModel) : String → String → Prop :=
  Relation.TransGen (Refers family)

variable {family : List RecordModel}

theorem find?_eq_some_iff
    (distinct : (family.map RecordModel.name).Nodup) {name : String} {model : RecordModel} :
    find? family name = some model ↔ model ∈ family ∧ model.name = name := by
  constructor
  · intro found
    have hasName := List.find?_some found
    exact ⟨List.mem_of_find?_eq_some found, beq_iff_eq.mp hasName⟩
  · rintro ⟨isModel, rfl⟩
    cases found : find? family model.name with
    | none => exact absurd (beq_self_eq_true _) (List.find?_eq_none.mp found model isModel)
    | some other =>
        have isOther := List.mem_of_find?_eq_some found
        have hasName := List.find?_some found
        rw [List.inj_on_of_nodup_map distinct isOther isModel (beq_iff_eq.mp hasName)]

theorem mem_referencesOf_iff
    (distinct : (family.map RecordModel.name).Nodup) {names : List String} {other : String} :
    other ∈ referencesOf family names ↔ ∃ name ∈ names, Refers family name other := by
  rw [referencesOf, List.mem_flatMap]
  constructor
  · rintro ⟨name, isName, isReference⟩
    cases found : find? family name with
    | none =>
        rw [found] at isReference
        cases isReference
    | some model =>
        rw [found] at isReference
        obtain ⟨isModel, hasName⟩ := (find?_eq_some_iff distinct).mp found
        exact ⟨name, isName, model, isModel, hasName, isReference⟩
  · rintro ⟨name, isName, model, isModel, hasName, isReference⟩
    refine ⟨name, isName, ?_⟩
    rw [(find?_eq_some_iff distinct).mpr ⟨isModel, hasName⟩]
    exact isReference

/-- What a model refers to is decided by the model alone, because its name is its own. -/
theorem WellFormed.refers_iff
    (wellFormed : WellFormed family) {model : RecordModel} (isModel : model ∈ family)
    {other : String} : Refers family model.name other ↔ other ∈ model.references := by
  constructor
  · rintro ⟨same, isSame, sameName, isReference⟩
    rw [← List.inj_on_of_nodup_map wellFormed.distinct isSame isModel sameName]
    exact isReference
  · intro isReference
    exact ⟨model, isModel, rfl, isReference⟩

theorem WellFormed.mem_of_refers
    (wellFormed : WellFormed family) {name other : String} (refers : Refers family name other) :
    other ∈ family.map RecordModel.name := by
  obtain ⟨model, isModel, _, isReference⟩ := refers
  exact wellFormed.closed model isModel isReference

theorem WellFormed.mem_of_leadsTo
    (wellFormed : WellFormed family) {name other : String} (leads : LeadsTo family name other) :
    other ∈ family.map RecordModel.name := by
  cases leads with
  | single refers => exact wellFormed.mem_of_refers refers
  | tail _ refers => exact wellFormed.mem_of_refers refers

/-! ## Reaching models in bounded steps -/

theorem nodup_eraseDups : (names : List String) → names.eraseDups.Nodup
  | [] => List.nodup_nil
  | name :: rest => by
      rw [List.eraseDups_cons]
      refine List.nodup_cons.mpr ⟨?_, nodup_eraseDups _⟩
      rw [List.mem_eraseDups, List.mem_filter]
      rintro ⟨_, different⟩
      rw [beq_self_eq_true] at different
      cases different
termination_by names => names.length
decreasing_by exact Nat.lt_succ_of_le (List.length_filter_le _ _)

/-- The names reached in one further step. -/
def widen (family : List RecordModel) (names : List String) : List String :=
  (names ++ referencesOf family names).eraseDups

theorem mem_widen_iff {names : List String} {name : String} :
    name ∈ widen family names ↔ name ∈ names ∨ name ∈ referencesOf family names := by
  rw [widen, List.mem_eraseDups, List.mem_append]

theorem nodup_reach (steps : Nat) {names : List String} (distinct : names.Nodup) :
    (reach family steps names).Nodup := by
  induction steps generalizing names with
  | zero => exact distinct
  | succ steps inductionHypothesis => exact inductionHypothesis (nodup_eraseDups _)

theorem subset_reach (steps : Nat) (names : List String) : names ⊆ reach family steps names := by
  induction steps generalizing names with
  | zero => exact List.Subset.refl _
  | succ steps inductionHypothesis =>
      intro name isName
      exact inductionHypothesis _ (mem_widen_iff.mpr (Or.inl isName))

theorem exists_of_mem_reach
    (distinct : (family.map RecordModel.name).Nodup) {steps : Nat} {names : List String}
    {name : String} (isReached : name ∈ reach family steps names) :
    ∃ first ∈ names, Relation.ReflTransGen (Refers family) first name := by
  induction steps generalizing names with
  | zero => exact ⟨name, isReached, .refl⟩
  | succ steps inductionHypothesis =>
      obtain ⟨middle, isMiddle, leads⟩ := inductionHypothesis isReached
      rcases mem_widen_iff.mp isMiddle with isName | isReference
      · exact ⟨middle, isName, leads⟩
      · obtain ⟨first, isFirst, refers⟩ := (mem_referencesOf_iff distinct).mp isReference
        exact ⟨first, isFirst, .head refers leads⟩

/-- Nothing is added to names that are closed under references. -/
theorem referencesOf_reach_subset_of_closed
    (distinct : (family.map RecordModel.name).Nodup) (steps : Nat) {names : List String}
    (closed : referencesOf family names ⊆ names) :
    referencesOf family (reach family steps names) ⊆ reach family steps names := by
  induction steps generalizing names with
  | zero => exact closed
  | succ steps inductionHypothesis =>
      apply inductionHypothesis
      intro other isReference
      obtain ⟨name, isName, refers⟩ := (mem_referencesOf_iff distinct).mp isReference
      have wasName : name ∈ names := by
        rcases mem_widen_iff.mp isName with isOld | isNew
        · exact isOld
        · exact closed isNew
      have isReferenceBefore := (mem_referencesOf_iff distinct).mpr ⟨name, wasName, refers⟩
      exact mem_widen_iff.mpr (Or.inr isReferenceBefore)

theorem length_widen_lt
    {names : List String} (distinct : names.Nodup) {new : String}
    (isReference : new ∈ referencesOf family names) (isNew : new ∉ names) :
    names.length < (widen family names).length := by
  have longer : (new :: names).Nodup := List.nodup_cons.mpr ⟨isNew, distinct⟩
  have among : new :: names ⊆ widen family names := by
    intro name isName
    rcases List.mem_cons.mp isName with rfl | isOld
    · exact mem_widen_iff.mpr (Or.inr isReference)
    · exact mem_widen_iff.mpr (Or.inl isOld)
  exact (longer.subperm among).length_le

/-- As many steps as there are models outside of the names suffice. -/
theorem WellFormed.referencesOf_reach_subset
    (wellFormed : WellFormed family) {steps : Nat} {names : List String}
    (distinct : names.Nodup) (known : names ⊆ family.map RecordModel.name)
    (enough : family.length ≤ names.length + steps) :
    referencesOf family (reach family steps names) ⊆ reach family steps names := by
  have referencesKnown (listed : List String) :
      referencesOf family listed ⊆ family.map RecordModel.name := by
    intro other isReference
    obtain ⟨_, _, refers⟩ := (mem_referencesOf_iff wellFormed.distinct).mp isReference
    exact wellFormed.mem_of_refers refers
  -- Either nothing new is referred to, or a step brings the names closer to the whole family.
  induction steps generalizing names with
  | zero =>
      have allNames : names.Perm (family.map RecordModel.name) := by
        refine (distinct.subperm known).perm_of_length_le ?_
        rw [List.length_map]
        exact enough
      intro other isReference
      exact allNames.mem_iff.mpr (referencesKnown _ isReference)
  | succ steps inductionHypothesis =>
      by_cases closed : referencesOf family names ⊆ names
      · exact referencesOf_reach_subset_of_closed wellFormed.distinct _ closed
      · obtain ⟨new, isReference, isNew⟩ :
            ∃ new, new ∈ referencesOf family names ∧ new ∉ names := by
          by_contra noneNew
          refine closed fun other isReference => ?_
          by_contra isNew
          exact noneNew ⟨other, isReference, isNew⟩
        have longer := length_widen_lt distinct isReference isNew
        apply inductionHypothesis (nodup_eraseDups _)
        · intro name isName
          rcases mem_widen_iff.mp isName with isOld | isAdded
          · exact known isOld
          · exact referencesKnown _ isAdded
        · change names.length + 1 ≤ (widen family names).length at longer
          change family.length ≤ (widen family names).length + steps
          omega

/-! ## The models that a model leads to -/

/-- The names of the models that a model leads to, each once. -/
def reachable (family : List RecordModel) (model : RecordModel) : List String :=
  reach family family.length model.references.eraseDups

theorem nodup_reachable (family : List RecordModel) (model : RecordModel) :
    (reachable family model).Nodup :=
  nodup_reach _ (nodup_eraseDups _)

variable {model : RecordModel}

theorem WellFormed.mem_reachable_iff
    (wellFormed : WellFormed family) (isModel : model ∈ family) {name : String} :
    name ∈ reachable family model ↔ LeadsTo family model.name name := by
  constructor
  · intro isReached
    obtain ⟨first, isFirst, leads⟩ := exists_of_mem_reach wellFormed.distinct isReached
    rw [List.mem_eraseDups] at isFirst
    exact .head' ((wellFormed.refers_iff isModel).mpr isFirst) leads
  · intro leads
    have known : model.references.eraseDups ⊆ family.map RecordModel.name := by
      intro first isFirst
      rw [List.mem_eraseDups] at isFirst
      exact wellFormed.closed model isModel isFirst
    have closed := wellFormed.referencesOf_reach_subset (nodup_eraseDups _) known
      (Nat.le_add_left family.length _)
    induction leads with
    | single refers =>
        have isReference := (wellFormed.refers_iff isModel).mp refers
        exact subset_reach _ _ (List.mem_eraseDups.mpr isReference)
    | tail _ refers inductionHypothesis =>
        exact closed ((mem_referencesOf_iff wellFormed.distinct).mpr ⟨_, inductionHypothesis, refers⟩)

/-- A model is recursive if it leads to itself. -/
theorem WellFormed.isRecursive_iff (wellFormed : WellFormed family) (isModel : model ∈ family) :
    isRecursive family model = true ↔ LeadsTo family model.name model.name := by
  rw [← wellFormed.mem_reachable_iff isModel, isRecursive, List.contains_iff_mem]
  exact Iff.rfl

end SchemaSignature.Model
