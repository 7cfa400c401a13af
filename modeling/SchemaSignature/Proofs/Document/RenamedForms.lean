import SchemaSignature.Proofs.Document.Renaming

/-!
The forms of a schema whose references have been renamed. A keyword whose value has been renamed gives
the renamed form, or is rejected as before. The keyword for definitions may change as it likes: no
form depends on it.
-/

namespace SchemaSignature

/-- Two objects of keywords are alike if they have, apart from definitions, the same keywords with
renamed values. -/
def Json.Alike (rename : String → String) (keywords others : List (String × Json)) : Prop :=
  ∀ key, key ≠ "$defs" →
    member? others key = (member? keywords key).map (renamed rename (Place.schema.inside key))

namespace Json

variable {rename : String → String}

theorem alike_renamedMembers (keywords : List (String × Json)) :
    Alike rename keywords (renamedMembers rename .schema keywords) :=
  fun key _ => member?_renamedMembers .schema keywords key

theorem map_renamed_of_keys {values : List Json} (keys : ∀ value ∈ values, value.isKey = true) :
    values.map (renamed rename .schema) = values := by
  have each : ∀ value ∈ values, renamed rename .schema value = id value :=
    fun value isValue => renamed_of_isKey (by decide) (keys value isValue)
  rw [List.map_congr_left each, List.map_id]

theorem find?_renamed (values : List Json) :
    (values.map (renamed rename .schema)).find? (fun value => !value.isKey) =
      (values.find? fun value => !value.isKey).map (renamed rename .schema) := by
  have sameTest : (fun value => !value.isKey) ∘ renamed rename .schema = fun value => !value.isKey :=
    funext fun value => congrArg (!·) (isKey_renamed .schema value)
  rw [List.find?_map, sameTest]

theorem keys_of_find? {values : List Json} (none : values.find? (fun value => !value.isKey) = none) :
    ∀ value ∈ values, value.isKey = true := by
  intro value isValue
  simpa using List.find?_eq_none.mp none value isValue

end Json

def Property.renamed (rename : String → String) (property : Property) : Property :=
  { property with schema := property.schema.renamed rename .schema }

namespace Form

mutual

/-- A form and one with the same parts, renamed. Rejections may differ in their failures. -/
inductive Renamed (rename : String → String) : Form → Form → Prop where
  | rejected (failure otherFailure : Failure) :
      Renamed rename (.rejected failure) (.rejected otherFailure)
  | primitive (kind : Primitive) : Renamed rename (.primitive kind) (.primitive kind)
  | reference (target : String) :
      Renamed rename (.reference target) (.reference (Pointer.renamed rename target))
  | choice (members : List Json) :
      Renamed rename (.choice members) (.choice (members.map (Json.renamed rename .schema)))
  | discriminated (tag otherTag : Json) (tags members : List Json) :
      Renamed rename (.discriminated tag tags members)
        (.discriminated otherTag tags (members.map (Json.renamed rename .schema)))
  | intersection (members : List Json) :
      Renamed rename (.intersection members)
        (.intersection (members.map (Json.renamed rename .schema)))
  | values (literals : List Json) (nullable : Bool) :
      Renamed rename (.values literals nullable) (.values literals nullable)
  | alternatives {forms others : List Form} (each : AllRenamed rename forms others) :
      Renamed rename (.alternatives forms) (.alternatives others)
  | object (additional : Option Json) {properties others : Except Failure (Option (List Property))}
      (listing : Outcome.Matches
        (fun listed renamed => renamed = listed.map (List.map (Property.renamed rename)))
        properties others) :
      Renamed rename (.object additional properties)
        (.object (additional.map (Json.renamed rename .schema)) others)
  | array (item : Json) : Renamed rename (.array item) (.array (item.renamed rename .schema))
  | tuple (members : List Json) :
      Renamed rename (.tuple members) (.tuple (members.map (Json.renamed rename .schema)))

/-- Lists of forms of which each is renamed. -/
inductive AllRenamed (rename : String → String) : List Form → List Form → Prop where
  | nil : AllRenamed rename [] []
  | cons {form other : Form} {rest others : List Form} (first : Renamed rename form other)
      (later : AllRenamed rename rest others) : AllRenamed rename (form :: rest) (other :: others)

end

variable {rename : String → String}

/-! ## Lists of subschemas -/

theorem nonEmptyElements_renamed (missing : Failure) (value : Json) :
    Outcome.Matches (fun members renamed => renamed = members.map (Json.renamed rename .schema))
      (nonEmptyElements missing value) (nonEmptyElements missing (value.renamed rename .schema)) := by
  unfold nonEmptyElements
  rw [Json.isTruthy_renamed (by decide)]
  by_cases truthy : value.isTruthy = true
  · rw [if_pos truthy, if_pos truthy]
    exact elements_renamed value
  · rw [if_neg truthy, if_neg truthy]
    exact .failed _ _

/-- The form of listed subschemas, if the list can be read and the renamed one is the list of the
renamed ones. -/
theorem renamed_of_listing
    {form : List Json → Form} {listing other : Except Failure (List Json)}
    (each : ∀ members,
      Renamed rename (form members) (form (members.map (Json.renamed rename .schema)))) :
    Outcome.Matches (fun members renamed => renamed = members.map (Json.renamed rename .schema))
        listing other →
      Renamed rename
        (match listing with
          | .ok members => form members
          | .error failure => .rejected failure)
        (match other with
          | .ok members => form members
          | .error failure => .rejected failure) := by
  intro matched
  rcases matched.outcomes with ⟨failure, otherFailure, rfl, rfl⟩ | ⟨members, _, rfl, rfl, rfl⟩
  · exact .rejected failure otherFailure
  · exact each members

theorem ofChoice_renamed (value : Json) :
    Renamed rename (ofChoice value) (ofChoice (value.renamed rename .schema)) :=
  renamed_of_listing .choice (nonEmptyElements_renamed .noChoices value)

theorem ofIntersection_renamed (value : Json) :
    Renamed rename (ofIntersection value) (ofIntersection (value.renamed rename .schema)) :=
  renamed_of_listing .intersection (nonEmptyElements_renamed .noParts value)

theorem ofTuple_renamed (value : Json) :
    Renamed rename (ofTuple value) (ofTuple (value.renamed rename .schema)) :=
  renamed_of_listing .tuple (elements_renamed value)

/-! ## Listed values -/

theorem ofValues_renamed (listed : List Json) :
    Renamed rename (ofValues listed) (ofValues (listed.map (Json.renamed rename .schema))) := by
  unfold ofValues
  rw [Json.find?_renamed]
  cases found : listed.find? fun value => !value.isKey with
  | some value => exact .rejected _ _
  | none =>
      rw [Json.map_renamed_of_keys (Json.keys_of_find? found)]
      exact .values _ _

theorem ofEnum_renamed (value : Json) :
    Renamed rename (ofEnum value) (ofEnum (value.renamed rename .schema)) :=
  renamed_of_listing ofValues_renamed (nonEmptyElements_renamed .noValues value)

/-! ## Types -/

section Types

variable {keywords others : List (String × Json)} (alike : Json.Alike rename keywords others)

include alike

theorem member?_of_alike (key : String) (place : Json.Place) (isOther : key ≠ "$defs")
    (inside : Json.Place.schema.inside key = place) :
    Json.member? others key = (Json.member? keywords key).map (Json.renamed rename place) := by
  rw [alike key isOther, inside]

theorem requiredNames_renamed :
    Outcome.Matches Eq (requiredNames keywords) (requiredNames others) := by
  unfold requiredNames
  rw [member?_of_alike alike "required" .schema (by decide) rfl]
  cases Json.member? keywords "required" with
  | none => exact .done rfl
  | some value =>
      refine (elements_renamed value).bind ?_
      rintro listed _ _ rfl
      rw [Json.find?_renamed]
      cases found : listed.find? fun value => !value.isKey with
      | some value => exact .failed _ _
      | none =>
          rw [Json.map_renamed_of_keys (Json.keys_of_find? found)]
          exact .done rfl

theorem properties_renamed :
    Outcome.Matches (fun listed renamed => renamed = listed.map (List.map (Property.renamed rename)))
      (properties keywords) (properties others) := by
  unfold properties
  rw [member?_of_alike alike "properties" .table (by decide) rfl]
  cases Json.member? keywords "properties" with
  | none => exact .done rfl
  | some value =>
      have names := requiredNames_renamed alike
      rw [Option.map_some]
      cases value with
      | null => exact .done rfl
      | obj members =>
          rw [Json.renamed_obj, Json.renamedMembers_eq_map]
          refine names.bind ?_
          rintro required _ _ rfl
          refine .done ?_
          simp only [Option.map_some, List.map_map]
          rfl
      | arr items =>
          rw [Json.renamed_arr]
          exact names.bind fun _ _ _ _ => .failed _ _
      | _ =>
          rw [Json.renamed_of_isKey (by decide) rfl]
          exact names.bind fun _ _ _ _ => .failed _ _

theorem ofObject_renamed : Renamed rename (ofObject keywords) (ofObject others) := by
  have listing := properties_renamed alike
  unfold ofObject
  rw [member?_of_alike alike "additionalProperties" .schema (by decide) rfl]
  cases Json.member? keywords "additionalProperties" with
  | none => exact .object none listing
  | some value =>
      rw [Option.map_some]
      cases value with
      | obj members =>
          rw [Json.renamed_obj]
          have renamed := Renamed.object (some (.obj members)) listing
          rw [Option.map_some, Json.renamed_obj] at renamed
          exact renamed
      | arr items =>
          rw [Json.renamed_arr]
          exact .object none listing
      | _ =>
          rw [Json.renamed_of_isKey (by decide) rfl]
          exact .object none listing

theorem ofArray_renamed : Renamed rename (ofArray keywords) (ofArray others) := by
  unfold ofArray
  rw [member?_of_alike alike "prefixItems" .schema (by decide) rfl,
    member?_of_alike alike "items" .schema (by decide) rfl]
  generalize Json.member? keywords "prefixItems" = listed
  generalize Json.member? keywords "items" = items
  by_cases isListed : ∃ value, listed = some value ∧ value ≠ .null
  · obtain ⟨value, rfl, notNull⟩ := isListed
    have tuple : Renamed rename (ofTuple value) (ofTuple (value.renamed rename .schema)) :=
      ofTuple_renamed value
    cases value with
    | null => exact absurd rfl notNull
    | arr members =>
        rw [Json.renamed_arr] at tuple
        rw [Option.map_some, Json.renamed_arr]
        exact tuple
    | obj members =>
        rw [Json.renamed_obj] at tuple
        rw [Option.map_some, Json.renamed_obj]
        exact tuple
    | _ =>
        rw [Json.renamed_of_isKey (by decide) rfl] at tuple
        rw [Option.map_some, Json.renamed_of_isKey (by decide) rfl]
        exact tuple
  · have absent : listed = none ∨ listed = some .null := by
      cases listed with
      | none => exact Or.inl rfl
      | some value =>
          right
          by_contra notNull
          exact isListed ⟨value, rfl, fun same => notNull (congrArg some same)⟩
    rcases absent with rfl | rfl
    all_goals
      cases items with
      | none => exact .primitive _
      | some item =>
          have array : Renamed rename (.array item) (.array (item.renamed rename .schema)) :=
            .array item
          cases item with
          | null => exact .primitive _
          | bool value =>
              cases value with
              | false => exact array
              | true => exact .primitive _
          | arr members =>
              simp only [Option.map_some, Json.renamed_arr]
              exact .tuple members
          | obj members =>
              simp only [Option.map_some, Json.renamed_obj] at array ⊢
              exact array
          | _ => exact array

theorem inferred_renamed : Renamed rename (inferred keywords) (inferred others) := by
  have same (key : String) (isOther : key ≠ "$defs") :
      Json.hasMember others key = Json.hasMember keywords key := by
    rw [Json.hasMember, Json.hasMember, alike key isOther, Option.isSome_map]
  unfold inferred
  rw [same "properties" (by decide), same "additionalProperties" (by decide),
    same "items" (by decide), same "prefixItems" (by decide)]
  split
  · exact ofObject_renamed alike
  split
  · exact ofArray_renamed alike
  · exact .primitive _

theorem ofTypeName_renamed (name : String) :
    Renamed rename (ofTypeName keywords name) (ofTypeName others name) := by
  unfold ofTypeName
  split
  · exact ofObject_renamed alike
  · exact ofArray_renamed alike
  all_goals first | exact .primitive _ | exact .rejected _ _

end Types

mutual

theorem ofType_renamed
    {keywords others : List (String × Json)} (alike : Json.Alike rename keywords others) :
    (type : Json) → Renamed rename (ofType keywords type) (ofType others (type.renamed rename .schema))
  | .null => by
      rw [Json.renamed_of_isKey (by decide) rfl, ofType, ofType]
      exact inferred_renamed alike
  | .str name => by
      rw [Json.renamed_of_isKey (by decide) rfl, ofType, ofType]
      exact ofTypeName_renamed alike name
  | .arr [] => by
      rw [Json.renamed_arr, List.map_nil, ofType, ofType]
      exact .rejected _ _
  | .arr (first :: rest) => by
      rw [Json.renamed_arr, List.map_cons, ofType, ofType]
      exact .alternatives (.cons (ofType_renamed alike first) (ofTypes_renamed alike rest))
  | .obj members => by
      simp only [Json.renamed_obj, ofType]
      exact .rejected _ _
  | .bool _ | .int _ | .float _ => by
      simp only [Json.renamed, ofType]
      exact .rejected _ _

theorem ofTypes_renamed
    {keywords others : List (String × Json)} (alike : Json.Alike rename keywords others) :
    (types : List Json) →
      AllRenamed rename (ofTypes keywords types)
        (ofTypes others (types.map (Json.renamed rename .schema)))
  | [] => by
      rw [List.map_nil, ofTypes, ofTypes]
      exact .nil
  | type :: rest => by
      rw [List.map_cons, ofTypes, ofTypes]
      exact .cons (ofType_renamed alike type) (ofTypes_renamed alike rest)

end

end Form

end SchemaSignature
