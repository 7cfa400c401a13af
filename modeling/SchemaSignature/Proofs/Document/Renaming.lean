import SchemaSignature.Proofs.Document.Escaping
import SchemaSignature.Proofs.Document.Keywords

/-!
Renaming the definitions of a document. A reference to a definition names its key, escaped. Renaming
the keys rewrites the references at the keyword `$ref` and in the mapping of a discriminator, and
leaves everything else in a schema as it is.
-/

namespace SchemaSignature

/-! ## References to definitions -/

namespace Pointer

/-- What references to definitions begin with. -/
def definitionHead : List Char :=
  ['#', '/', '$', 'd', 'e', 'f', 's', '/']

/-- The reference to the definition with a key. -/
def definition (key : String) : String :=
  String.ofList (definitionHead ++ escape key.toList)

/-- The key that is read from a text as if it were a reference to a definition. -/
def readKey (reference : String) : String :=
  String.ofList (unescape (reference.toList.drop definitionHead.length))

/-- The key of the definition that a reference names, if it is spelled as one to a definition. -/
def definitionKey? (reference : String) : Option String :=
  if definition (readKey reference) = reference then some (readKey reference) else none

/-- The reference to the renamed definition. A text that is not the reference to a definition stays as
it is. -/
def renamed (rename : String → String) (reference : String) : String :=
  match definitionKey? reference with
  | some key => definition (rename key)
  | none => reference

theorem readKey_definition (key : String) : readKey (definition key) = key := by
  rw [readKey, definition, String.toList_ofList, List.drop_left, unescape_escape,
    String.ofList_toList]

theorem definitionKey?_definition (key : String) : definitionKey? (definition key) = some key := by
  rw [definitionKey?, readKey_definition, if_pos rfl]

theorem definition_of_definitionKey? {reference key : String}
    (isKey : definitionKey? reference = some key) : definition key = reference := by
  unfold definitionKey? at isKey
  split at isKey
  · next same =>
      cases isKey
      exact same
  · cases isKey

theorem renamed_definition (rename : String → String) (key : String) :
    renamed rename (definition key) = definition (rename key) := by
  rw [renamed, definitionKey?_definition]

theorem definition_injective : Function.Injective definition := by
  intro one other same
  have sameKey := congrArg definitionKey? same
  rw [definitionKey?_definition, definitionKey?_definition] at sameKey
  exact Option.some.inj sameKey

/-- If different keys are renamed differently, so are the references to them and other texts. -/
theorem renamed_inj
    {rename : String → String} {one other : String}
    (apart : ∀ key otherKey, one = definition key → other = definition otherKey →
      rename key = rename otherKey → key = otherKey)
    (same : renamed rename one = renamed rename other) : one = other := by
  unfold renamed at same
  cases oneKey : definitionKey? one with
  | none =>
      cases otherKey : definitionKey? other with
      | none =>
          rw [oneKey, otherKey] at same
          exact same
      | some key =>
          rw [oneKey, otherKey] at same
          simp only at same
          rw [same, definitionKey?_definition] at oneKey
          cases oneKey
  | some key =>
      have isOne := definition_of_definitionKey? oneKey
      cases otherKey : definitionKey? other with
      | none =>
          rw [oneKey, otherKey] at same
          simp only at same
          rw [← same, definitionKey?_definition] at otherKey
          cases otherKey
      | some second =>
          have isOther := definition_of_definitionKey? otherKey
          rw [oneKey, otherKey] at same
          have sameKey := apart key second isOne.symm isOther.symm (definition_injective same)
          rw [← isOne, ← isOther, sameKey]

end Pointer

namespace Json

/-- What a document has under the keyword for its definitions. -/
def definitions? : Json → Option Json
  | .obj keywords => member? keywords "$defs"
  | _ => none

/-- The definition of a document with a key. -/
def definition? (root : Json) (key : String) : Option Json :=
  match root.definitions? with
  | some (.obj definitions) => member? definitions key
  | _ => none

/-- The definitions of a document, if it has any, are not the items of an array. -/
def KeysDefinitions (root : Json) : Prop :=
  ∀ items, root.definitions? ≠ some (.arr items)

end Json

/-- A reference to a definition leads to the definition with the key, whatever the key is. -/
theorem Pointer.resolve_definition {root : Json} (keyed : root.KeysDefinitions) (key : String) :
    resolve root (definition key) =
      match root.definition? key with
      | some value => .ok value
      | none => .error (.unresolvable (definition key)) := by
  have keyword : "$defs".toList = ['$', 'd', 'e', 'f', 's'] := by decide
  have written : (definition key).toList =
      '#' :: ('/' :: "$defs".toList ++ '/' :: escape key.toList) := by
    rw [definition, String.toList_ofList, keyword]
    rfl
  have notEmpty : ¬('/' :: "$defs".toList ++ '/' :: escape key.toList).isEmpty = true :=
    Bool.false_ne_true
  have stepped : steps ('/' :: "$defs".toList ++ '/' :: escape key.toList) = ["$defs", key] := by
    rw [steps_definition (by simp [definitionKeywords]) (slash_not_mem_escape _), unescape_escape,
      String.ofList_toList]
  rw [resolve, written]
  simp only
  rw [if_neg notEmpty, stepped, List.foldlM_cons]
  cases root with
  | obj keywords =>
      cases found : Json.member? keywords "$defs" with
      | none => simp [follow, Json.definition?, Json.definitions?, found]
      | some definitions =>
          cases definitions with
          | obj members =>
              cases foundKey : Json.member? members key with
              | none => simp [follow, Json.definition?, Json.definitions?, found, foundKey]
              | some value =>
                  simp [follow, Json.definition?, Json.definitions?, found, foundKey, pure,
                    Except.pure]
          | arr items => exact absurd found (keyed items)
          | _ => simp [follow, Json.definition?, Json.definitions?, found]
  | arr items =>
      have notAPlace : (!"$defs".isEmpty && "$defs".toList.all Text.isDigit) = false := by decide
      rw [follow, notAPlace]
      rfl
  | _ => simp [follow, Json.definition?, Json.definitions?]

/-! ## Renaming a schema -/

namespace Json

/-- What a value is for: a schema or a list of schemas, a table of schemas, a reference, a
discriminator, or its mapping of tags to references. -/
inductive Place where
  | schema
  | table
  | reference
  | discriminator
  | mapping
  deriving DecidableEq, Repr

/-- What the member of an object is for. -/
def Place.inside : Place → String → Place
  | .schema, "$ref" => .reference
  | .schema, "properties" => .table
  | .schema, "discriminator" => .discriminator
  | .discriminator, "mapping" => .mapping
  | .mapping, _ => .reference
  | _, _ => .schema

mutual

/-- A value with the references in it renamed. -/
def renamed (rename : String → String) : Place → Json → Json
  | .reference, .str text => .str (Pointer.renamed rename text)
  | place, .obj members => .obj (renamedMembers rename place members)
  | _, .arr items => .arr (renamedItems rename items)
  | _, value => value

def renamedItems (rename : String → String) : List Json → List Json
  | [] => []
  | item :: rest => renamed rename .schema item :: renamedItems rename rest

def renamedMembers (rename : String → String) (place : Place) :
    List (String × Json) → List (String × Json)
  | [] => []
  | (key, value) :: rest =>
      (key, renamed rename (place.inside key) value) :: renamedMembers rename place rest

end

variable {rename : String → String}

theorem renamedItems_eq_map (items : List Json) :
    renamedItems rename items = items.map (renamed rename .schema) := by
  induction items with
  | nil => rfl
  | cons first rest inductionHypothesis => rw [renamedItems, inductionHypothesis, List.map_cons]

theorem renamedMembers_eq_map (place : Place) (members : List (String × Json)) :
    renamedMembers rename place members =
      members.map fun member => (member.1, renamed rename (place.inside member.1) member.2) := by
  induction members with
  | nil => rfl
  | cons first rest inductionHypothesis =>
      obtain ⟨key, value⟩ := first
      rw [renamedMembers, inductionHypothesis, List.map_cons]

theorem member?_renamedMembers (place : Place) (members : List (String × Json)) (key : String) :
    member? (renamedMembers rename place members) key =
      (member? members key).map (renamed rename (place.inside key)) := by
  induction members with
  | nil => rfl
  | cons first rest inductionHypothesis =>
      obtain ⟨name, value⟩ := first
      simp only [member?, renamedMembers] at inductionHypothesis ⊢
      by_cases same : key = name
      · subst same
        simp
      · simp [List.lookup_cons, beq_false_of_ne same, inductionHypothesis]

theorem renamed_obj (place : Place) (members : List (String × Json)) :
    renamed rename place (.obj members) = .obj (renamedMembers rename place members) := by
  cases place <;> simp only [renamed]

theorem renamed_arr (place : Place) (items : List Json) :
    renamed rename place (.arr items) = .arr (items.map (renamed rename .schema)) := by
  cases place <;> simp only [renamed, renamedItems_eq_map]

/-- Only texts, arrays and objects are changed. -/
theorem renamed_str {place : Place} (notReference : place ≠ .reference) (text : String) :
    renamed rename place (.str text) = .str text := by
  cases place <;> first | exact absurd rfl notReference | simp only [renamed]

theorem renamed_of_isKey
    {place : Place} (notReference : place ≠ .reference) {value : Json} (isKey : value.isKey = true) :
    renamed rename place value = value := by
  cases value with
  | str text => exact renamed_str notReference text
  | arr items => cases isKey
  | obj members => cases isKey
  | _ => cases place <;> simp only [renamed]

theorem kind_renamed (place : Place) (value : Json) :
    (renamed rename place value).kind = value.kind := by
  cases value <;> cases place <;> simp only [renamed, kind]

theorem isKey_renamed (place : Place) (value : Json) :
    (renamed rename place value).isKey = value.isKey := by
  cases value <;> cases place <;> simp only [renamed, isKey]

theorem isTruthy_renamed {place : Place} (notReference : place ≠ .reference) (value : Json) :
    (renamed rename place value).isTruthy = value.isTruthy := by
  cases value with
  | arr items => simp [renamed_arr, isTruthy]
  | obj members => simp [renamed_obj, renamedMembers_eq_map, isTruthy]
  | str text => rw [renamed_str notReference]
  | _ => rw [renamed_of_isKey notReference rfl]

end Json

/-- The elements of a renamed value are the renamed elements. -/
theorem Form.elements_renamed {rename : String → String} (value : Json) :
    Outcome.Matches (fun members renamed => renamed = members.map (Json.renamed rename .schema))
      (elements value) (elements (Json.renamed rename .schema value)) := by
  cases value with
  | arr items =>
      rw [Json.renamed_arr]
      exact .done rfl
  | obj members =>
      rw [Json.renamed_obj, Json.renamedMembers_eq_map]
      refine .done ?_
      simp [Json.renamed]
  | str text =>
      rw [Json.renamed_str (by decide)]
      refine .done ?_
      simp [Json.renamed]
  | _ =>
      rw [Json.renamed_of_isKey (by decide) rfl]
      exact .failed _ _

end SchemaSignature
