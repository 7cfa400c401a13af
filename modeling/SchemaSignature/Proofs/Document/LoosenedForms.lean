import SchemaSignature.Proofs.Document.AlikeDrafts
import SchemaSignature.Proofs.Document.LoosenedTags

/-!
The forms of a loosened document. A schema that is read has a corresponding form at the same place of
the loosened document, with loosened subschemas. The schema of the items of an array can be left out,
and so can the schema of the members of an object that lists none; everywhere else the two schemas
that accept anything have the same form.
-/

namespace SchemaSignature.Form

open Document (ReadAt ReadOtherwise)
open Pointer (Location)

/-! ## Lists of subschemas -/

section Lists

variable {chosen : Location → Bool} {place : Location} {related : Json → Json → Prop}

theorem forall₂_texts
    (ofText : ∀ text, related (.str text) (.str text)) (texts : List String) :
    List.Forall₂ related (texts.map .str) (texts.map .str) := by
  induction texts with
  | nil => exact .nil
  | cons first rest inductionHypothesis => exact .cons (ofText first) inductionHypothesis

variable {value : Json} (notChosen : chosen place = false)

include notChosen

theorem isTruthy_loosened : (value.loosened chosen place).isTruthy = value.isTruthy := by
  cases value with
  | bool value =>
      cases value with
      | false => rfl
      | true => rw [Json.loosened_true notChosen]
  | arr items => cases items <;> rfl
  | obj members => cases members <;> rfl
  | _ => rfl

variable (ofText : ∀ text, related (.str text) (.str text))
  (items : ∀ members, value = .arr members → ∀ index item, members[index]? = some item →
    related item (item.loosened chosen (place ++ [.index index])))

include ofText items

/-- The elements of a value that is not chosen itself are related one by one. -/
theorem elements_loosened :
    Outcome.Coincides (List.Forall₂ related) (elements value)
      (elements (value.loosened chosen place)) := by
  cases value with
  | bool value =>
      cases value with
      | false => exact .failed _
      | true =>
          rw [Json.loosened_true notChosen]
          exact .failed _
  | arr members =>
      refine .done (Json.forall₂_loosenedItems 0 fun index item isItem => ?_)
      rw [Nat.zero_add]
      exact items members rfl index item isItem
  | str text =>
      have characters := forall₂_texts ofText (text.toList.map Char.toString)
      rw [List.map_map] at characters
      exact .done characters
  | obj members =>
      have listed (entries : List (String × Json)) :
          elements (.obj entries) = .ok ((entries.map Prod.fst).map .str) := by
        rw [List.map_map]
        rfl
      rw [Json.loosened, listed, listed, Json.keys_loosenedMembers]
      exact .done (forall₂_texts ofText _)
  | _ => exact .failed _

theorem nonEmptyElements_loosened (missing : Failure) :
    Outcome.Coincides (List.Forall₂ related) (nonEmptyElements missing value)
      (nonEmptyElements missing (value.loosened chosen place)) := by
  unfold nonEmptyElements
  rw [isTruthy_loosened notChosen]
  split
  · exact elements_loosened notChosen ofText items
  · exact .failed _

theorem ofChoice_loosened :
    Corresponds related (ofChoice value) (ofChoice (value.loosened chosen place)) := by
  unfold ofChoice
  rcases (nonEmptyElements_loosened notChosen ofText items .noChoices).outcomes with
    ⟨cause, failed, otherFailed⟩ | ⟨members, others, listing, otherListing, each⟩
  · rw [failed, otherFailed]
    exact .rejected cause
  · rw [listing, otherListing]
    exact .choice each

theorem ofIntersection_loosened :
    Corresponds related (ofIntersection value) (ofIntersection (value.loosened chosen place)) := by
  unfold ofIntersection
  rcases (nonEmptyElements_loosened notChosen ofText items .noParts).outcomes with
    ⟨cause, failed, otherFailed⟩ | ⟨members, others, listing, otherListing, each⟩
  · rw [failed, otherFailed]
    exact .rejected cause
  · rw [listing, otherListing]
    exact .intersection each

theorem ofTuple_loosened :
    Corresponds related (ofTuple value) (ofTuple (value.loosened chosen place)) := by
  unfold ofTuple
  rcases (elements_loosened notChosen ofText items).outcomes with
    ⟨cause, failed, otherFailed⟩ | ⟨members, others, listing, otherListing, each⟩
  · rw [failed, otherFailed]
    exact .rejected cause
  · rw [listing, otherListing]
    exact .tuple each

end Lists

/-! ## Schemas that are read -/

section Schemas

variable {root : Json} {chosen : Location → Bool} {related : Json → Json → Prop} {place : Location}
  {schema : List (String × Json)}
  (spared : ∀ place, ReadOtherwise root place → chosen place = false)
  (read : ReadAt root place (.obj schema))
  (ofText : ∀ text, related (.str text) (.str text))
  (parts : ∀ path part, PartAt schema path part →
    related part (part.loosened chosen (place ++ path)))

include parts in
theorem forall₂_properties
    (typed : IsReadFor schema "object") {members : List (String × Json)}
    (found : Json.member? schema "properties" = some (.obj members)) (required : List String) :
    List.Forall₂ (Property.Corresponds related)
      (members.map fun member => ⟨member.1, member.2, required.contains member.1⟩)
      ((Json.loosenedMembers chosen (place ++ [.key "properties"]) members).map fun member =>
        ⟨member.1, member.2, required.contains member.1⟩) := by
  have each : ∀ member ∈ members, related member.2
      (member.2.loosened chosen (place ++ [.key "properties"] ++ [.key member.1])) := by
    intro member isMember
    rw [List.append_assoc]
    exact parts _ _ (.property typed found isMember)
  clear found
  induction members with
  | nil => exact .nil
  | cons first rest inductionHypothesis =>
      refine .cons ⟨rfl, rfl, each first List.mem_cons_self⟩ (inductionHypothesis ?_)
      exact fun member later => each member (List.mem_cons_of_mem _ later)

include spared read

theorem requiredNames_loosened (typed : IsReadFor schema "object") (listed : HasProperties schema) :
    requiredNames (Json.loosenedMembers chosen place schema) = requiredNames schema := by
  unfold requiredNames
  rw [Json.member?_loosenedMembers]
  cases Json.member? schema "required" with
  | none => rfl
  | some value =>
      rw [Option.map_some,
        loosened_keyword spared read (fun inside => .required typed listed) value]

include parts

theorem properties_loosened (typed : IsReadFor schema "object") :
    Outcome.Coincides (Option.Rel (List.Forall₂ (Property.Corresponds related)))
      (properties schema) (properties (Json.loosenedMembers chosen place schema)) := by
  have notChosen := not_chosen spared read (.properties typed)
  unfold properties
  rw [Json.member?_loosenedMembers]
  cases found : Json.member? schema "properties" with
  | none => exact .done .none
  | some value =>
      have sameNames (notNull : value ≠ .null) :=
        requiredNames_loosened spared read typed ⟨value, found, notNull⟩
      rw [Option.map_some]
      cases value with
      | null => exact .done .none
      | obj members =>
          simp only [Json.loosened, sameNames (by simp)]
          cases requiredNames schema with
          | error failure => exact .failed _
          | ok required =>
              exact .done (.some (forall₂_properties parts typed found required))
      | bool value =>
          have same : (Json.bool value).loosened chosen (place ++ [.key "properties"]) =
              .bool value := by
            cases value with
            | false => rfl
            | true => exact Json.loosened_true notChosen
          simp only [same, sameNames (by simp)]
          cases requiredNames schema <;> exact .failed _
      | _ =>
          simp only [Json.loosened, sameNames (by simp)]
          cases requiredNames schema <;> exact .failed _

/-- The permission for other members is a subschema, unless it is `true`: then it has to be kept
beside properties, and without them it makes no difference. -/
theorem ofObject_loosened (typed : IsReadFor schema "object") :
    Corresponds related (ofObject schema) (ofObject (Json.loosenedMembers chosen place schema)) := by
  have listing := properties_loosened spared read parts typed
  unfold ofObject
  rw [Json.member?_loosenedMembers]
  cases found : Json.member? schema "additionalProperties" with
  | none => exact .object .none listing
  | some value =>
      rw [Option.map_some]
      cases value with
      | obj members => exact .object (.some (parts _ _ (.additional typed found))) listing
      | bool value =>
          cases value with
          | false => exact .object .none listing
          | true =>
              by_cases listed : HasProperties schema
              · rw [Json.loosened_true (not_chosen spared read (.permission typed listed))]
                exact .object .none listing
              · have unlisted : properties schema = .ok none := by
                  unfold properties
                  cases table : Json.member? schema "properties" with
                  | none => rfl
                  | some value =>
                      cases value with
                      | null => rfl
                      | _ => exact absurd ⟨_, table, by simp⟩ listed
                have otherUnlisted :
                    properties (Json.loosenedMembers chosen place schema) = .ok none := by
                  rw [unlisted] at listing
                  rcases listing.outcomes with ⟨_, impossible, _⟩ | ⟨_, _, given, otherGiven, same⟩
                  · cases impossible
                  · cases given
                    cases same
                    exact otherGiven
                rw [unlisted, otherUnlisted]
                rcases Json.loosened_true_cases chosen (place ++ [.key "additionalProperties"]) with
                  same | same
                · rw [same]
                  exact .object .none (.done .none)
                · rw [same]
                  exact .openMembers
      | _ => exact .object .none listing

include ofText

/-- The items of an array may be anything if there is no schema for them, or one that says so. -/
theorem ofArray_loosened (typed : IsReadFor schema "array") :
    Corresponds related (ofArray schema) (ofArray (Json.loosenedMembers chosen place schema)) := by
  have fromItems (noPrefix : HasNoPrefix schema) : Corresponds related
      (ofItems (Json.member? schema "items"))
      (ofItems ((Json.member? schema "items").map
        (Json.loosened chosen (place ++ [.key "items"])))) := by
    cases found : Json.member? schema "items" with
    | none => exact .primitive _
    | some item =>
        have part (notListed : ∀ members, item ≠ .arr members) :=
          parts _ _ (.item typed noPrefix found notListed)
        rw [Option.map_some]
        cases item with
        | null => exact .primitive _
        | bool value =>
            cases value with
            | false => exact .array (part (by simp))
            | true =>
                rcases Json.loosened_true_cases chosen (place ++ [.key "items"]) with same | same
                · rw [same]
                  exact .primitive _
                · rw [same]
                  exact .openItems
        | arr members =>
            refine .tuple (Json.forall₂_loosenedItems 0 fun index item isItem => ?_)
            rw [Nat.zero_add, List.append_assoc]
            exact parts _ _ (.listedItem typed noPrefix found isItem)
        | _ => exact .array (part (by simp))
  rw [ofArray_eq, ofArray_eq, Json.member?_loosenedMembers, Json.member?_loosenedMembers]
  cases found : Json.member? schema "prefixItems" with
  | none => exact fromItems fun value isPrefix => by cases found.symm.trans isPrefix
  | some value =>
      have notChosen := not_chosen spared read (.prefixItems typed)
      have tuple : Corresponds related (ofTuple value)
          (ofTuple (value.loosened chosen (place ++ [.key "prefixItems"]))) := by
        refine ofTuple_loosened notChosen ofText fun members isList index item isItem => ?_
        rw [List.append_assoc]
        exact parts _ _ (.prefixItem typed (isList ▸ found) isItem)
      rw [Option.map_some]
      cases value with
      | null =>
          exact fromItems fun value isPrefix => Option.some.inj (isPrefix.symm.trans found)
      | bool value =>
          cases value with
          | false => exact tuple
          | true =>
              rw [Json.loosened_true notChosen] at tuple ⊢
              exact tuple
      | _ => exact tuple

end Schemas

/-! ## Types -/

section Types

variable {schema other : List (String × Json)} {related : Json → Json → Prop}

mutual

/-- Two schemas with the same keywords have corresponding forms for a type if they have so as objects
and as arrays, as far as they are read as these. -/
theorem ofType_corresponds
    (has : ∀ key, Json.hasMember other key = Json.hasMember schema key) :
    (type : Json) →
      ("object" ∈ typeNames schema type → Corresponds related (ofObject schema) (ofObject other)) →
      ("array" ∈ typeNames schema type → Corresponds related (ofArray schema) (ofArray other)) →
        Corresponds related (ofType schema type) (ofType other type)
  | .null, asObject, asArray => by
      rw [ofType, ofType, inferred, inferred, has, has, has, has]
      split
      · next isObject => exact asObject (by simp [typeNames, isObject])
      · next notObject =>
          split
          · next isArray => exact asArray (by simp [typeNames, notObject, isArray])
          · exact .primitive _
  | .str name, asObject, asArray => by
      rw [ofType, ofType]
      unfold ofTypeName
      split
      · exact asObject (by simp [typeNames])
      · exact asArray (by simp [typeNames])
      all_goals first | exact .primitive _ | exact .rejected _
  | .arr [], _, _ => by
      rw [ofType, ofType]
      exact .rejected _
  | .arr (first :: rest), asObject, asArray => by
      rw [typeNames, typeNamesOfAll] at asObject asArray
      rw [ofType, ofType]
      refine .alternatives (.cons (ofType_corresponds has first ?_ ?_)
        (ofTypes_corresponds has rest ?_ ?_))
      · exact fun named => asObject (List.mem_append_left _ named)
      · exact fun named => asArray (List.mem_append_left _ named)
      · exact fun named => asObject (List.mem_append_right _ named)
      · exact fun named => asArray (List.mem_append_right _ named)
  | .bool _, _, _ | .int _, _, _ | .float _, _, _ | .obj _, _, _ => by
      simp only [ofType]
      exact .rejected _

theorem ofTypes_corresponds
    (has : ∀ key, Json.hasMember other key = Json.hasMember schema key) :
    (types : List Json) →
      ("object" ∈ typeNamesOfAll schema types →
        Corresponds related (ofObject schema) (ofObject other)) →
      ("array" ∈ typeNamesOfAll schema types → Corresponds related (ofArray schema) (ofArray other)) →
        AllCorrespond related (ofTypes schema types) (ofTypes other types)
  | [], _, _ => by
      rw [ofTypes, ofTypes]
      exact .nil
  | type :: rest, asObject, asArray => by
      rw [typeNamesOfAll] at asObject asArray
      rw [ofTypes, ofTypes]
      refine .cons (ofType_corresponds has type ?_ ?_) (ofTypes_corresponds has rest ?_ ?_)
      · exact fun named => asObject (List.mem_append_left _ named)
      · exact fun named => asArray (List.mem_append_left _ named)
      · exact fun named => asObject (List.mem_append_right _ named)
      · exact fun named => asArray (List.mem_append_right _ named)

end

end Types

/-! ## Keywords -/

section Keywords

variable {root : Json} {chosen : Location → Bool} {related : Json → Json → Prop} {place : Location}
  {schema : List (String × Json)}
  (spared : ∀ place, ReadOtherwise root place → chosen place = false)
  (read : ReadAt root place (.obj schema))
  (ofText : ∀ text, related (.str text) (.str text))
  (parts : ∀ path part, PartAt schema path part →
    related part (part.loosened chosen (place ++ path)))

theorem ofReference_loosened (chosen : Location → Bool) (root pointer : Json) :
    Corresponds related (ofReference root pointer) (ofReference (root.loosened chosen []) pointer) := by
  simp only [ofReference]
  split
  · exact .rejected _
  · cases pointer with
    | str reference =>
        rcases Pointer.resolve_loosened chosen root reference with
          ⟨failure, failed, otherFailed⟩ | ⟨_, _, _, _, resolved, otherResolved⟩
        · simp only [failed, otherFailed]
          exact .rejected _
        · simp only [resolved, otherResolved]
          exact .reference _
    | _ => exact .rejected _

include spared read parts

/-- The list of a choice is not chosen itself, and its members are read. -/
theorem members_loosened
    {keyword : String} {value : Json} (decides : decisive? schema = some keyword)
    (known : keyword ∈ ["anyOf", "oneOf", "allOf"])
    (found : Json.member? schema keyword = some value) :
    chosen (place ++ [.key keyword]) = false ∧
      ∀ members, value = .arr members → ∀ index item, members[index]? = some item →
        related item (item.loosened chosen (place ++ [.key keyword] ++ [.index index])) := by
  refine ⟨not_chosen spared read (.list decides known), ?_⟩
  intro members isList index item isItem
  rw [List.append_assoc]
  exact parts _ _ (.member decides known (isList ▸ found) isItem)

omit parts in
/-- The tags of the listed members are found in both documents, or fail for the same reason. -/
theorem tags_loosened
    {discriminator : List (String × Json)} {tag value : Json}
    (choice : Discriminates schema discriminator tag value) (tagOf : List (Json × Json))
    {members others : List Json} (listed : elements value = .ok members)
    (otherListed : elements (value.loosened chosen (place ++ [.key "oneOf"])) = .ok others) :
    Outcome.Coincides (fun _ _ => True) (memberTags root tag tagOf 0 members)
      (memberTags (root.loosened chosen []) tag tagOf 0 others) := by
  have ofTexts (texts : List String) : Outcome.Coincides (fun _ _ => True)
      (memberTags root tag tagOf 0 (texts.map .str))
      (memberTags (root.loosened chosen []) tag tagOf 0 (texts.map .str)) := by
    obtain ⟨tags, tagged⟩ := exists_memberTags_texts root tag tagOf texts 0
    obtain ⟨otherTags, otherTagged⟩ :=
      exists_memberTags_texts (root.loosened chosen []) tag tagOf texts 0
    rw [tagged, otherTagged]
    exact .done trivial
  cases value with
  | arr items =>
      cases listed
      cases otherListed
      exact memberTags_loosened spared read choice tagOf
  | str text =>
      cases listed
      cases otherListed
      have characters := ofTexts (text.toList.map Char.toString)
      rwa [List.map_map] at characters
  | obj entries =>
      cases listed
      cases otherListed
      have keys := ofTexts (entries.map Prod.fst)
      have otherKeys : (Json.loosenedMembers chosen (place ++ [.key "oneOf"]) entries).map
          (fun entry => Json.str entry.1) = (entries.map Prod.fst).map .str := by
        have sameKeys : (Json.loosenedMembers chosen (place ++ [.key "oneOf"]) entries).map Prod.fst =
            entries.map Prod.fst := Json.keys_loosenedMembers entries
        rw [← sameKeys, List.map_map]
        rfl
      rw [otherKeys]
      rwa [List.map_map] at keys ⊢
  | _ => cases listed

include ofText

theorem ofDiscriminated_loosened
    {discriminator : List (String × Json)} {tag value : Json}
    (choice : Discriminates schema discriminator tag value) :
    Corresponds related (ofDiscriminated root tag discriminator value)
      (ofDiscriminated (root.loosened chosen []) tag
        (Json.loosenedMembers chosen (place ++ [.key "discriminator"]) discriminator)
        (value.loosened chosen (place ++ [.key "oneOf"]))) := by
  have sameMapping : mappedTags
      (Json.loosenedMembers chosen (place ++ [.key "discriminator"]) discriminator) =
        mappedTags discriminator := by
    unfold mappedTags
    rw [Json.member?_loosenedMembers]
    cases Json.member? discriminator "mapping" with
    | none => rfl
    | some mapping =>
        have same : mapping.loosened chosen
            (place ++ [.key "discriminator"] ++ [.key "mapping"]) = mapping := by
          refine Json.loosened_eq_self mapping fun inside => ?_
          rw [List.append_assoc, List.append_assoc]
          exact not_chosen spared read (.discriminator choice (by simp))
        rw [Option.map_some, same]
  obtain ⟨notChosen, items⟩ :=
    members_loosened spared read parts choice.decides (by simp) choice.listed
  have listing := elements_loosened notChosen ofText items
  unfold ofDiscriminated
  rw [isTruthy_loosened notChosen, sameMapping]
  cases value.isTruthy with
  | false => exact .rejected _
  | true =>
      cases mapped : mappedTags discriminator with
      | error failure => exact .rejected _
      | ok tagOf =>
          rcases listing.outcomes with
            ⟨cause, failed, otherFailed⟩ | ⟨members, others, listed, otherListed, each⟩
          · simp only [failed, otherFailed]
            exact .rejected _
          · rcases (tags_loosened spared read choice tagOf listed otherListed).outcomes with
              ⟨cause, failed, otherFailed⟩ | ⟨tags, otherTags, tagged, otherTagged, _⟩
            · simp only [listed, otherListed, Outcome.bind_ok, failed, otherFailed]
              exact .rejected _
            · have mappedKeys := isKey_of_mem_mappedTags mapped
              have tagKeys := isKey_of_mem_memberTags mappedKeys tagged
              have otherTagKeys := isKey_of_mem_memberTags mappedKeys otherTagged
              simp only [listed, otherListed, Outcome.bind_ok, tagged, otherTagged]
              exact .discriminated tagKeys otherTagKeys each

theorem ofOneOf_loosened
    {value : Json} (decides : decisive? schema = some "oneOf")
    (found : Json.member? schema "oneOf" = some value) :
    Corresponds related (ofOneOf root schema value)
      (ofOneOf (root.loosened chosen []) (Json.loosenedMembers chosen place schema)
        (value.loosened chosen (place ++ [.key "oneOf"]))) := by
  obtain ⟨notChosen, items⟩ := members_loosened spared read parts decides (by simp) found
  have plain := ofChoice_loosened notChosen ofText items
  unfold ofOneOf
  rw [Json.member?_loosenedMembers]
  cases described : Json.member? schema "discriminator" with
  | none => exact plain
  | some discriminator =>
      rw [Option.map_some]
      cases discriminator with
      | obj discriminator =>
          simp only [Json.loosened, Json.member?_loosenedMembers]
          cases named : Json.member? discriminator "propertyName" with
          | none => exact plain
          | some tag =>
              have choice : Discriminates schema discriminator tag value :=
                ⟨decides, found, described, named⟩
              have sameTag : tag.loosened chosen
                  (place ++ [.key "discriminator"] ++ [.key "propertyName"]) = tag := by
                refine Json.loosened_eq_self tag fun inside => ?_
                rw [List.append_assoc, List.append_assoc]
                exact not_chosen spared read (.discriminator choice (by simp))
              simp only [Option.map_some, sameTag]
              exact ofDiscriminated_loosened spared read ofText parts choice
      | bool value =>
          cases value with
          | false => exact plain
          | true =>
              rcases Json.loosened_true_cases chosen (place ++ [.key "discriminator"]) with
                same | same <;> rw [same] <;> exact plain
      | _ => exact plain

/-- A schema that is read has a corresponding form in the loosened document. -/
theorem ofKeywords_loosened :
    Corresponds related (ofKeywords root schema)
      (ofKeywords (root.loosened chosen []) (Json.loosenedMembers chosen place schema)) := by
  have sameKeyword : decisive? (Json.loosenedMembers chosen place schema) = decisive? schema :=
    decisive?_congr fun keyword _ => Json.hasMember_loosenedMembers schema keyword
  rw [ofKeywords_eq, ofKeywords_eq, sameKeyword]
  cases decides : decisive? schema with
  | none =>
      have sameType : (Json.member? (Json.loosenedMembers chosen place schema) "type").getD .null =
          (Json.member? schema "type").getD .null := by
        rw [Json.member?_loosenedMembers]
        cases Json.member? schema "type" with
        | none => rfl
        | some type =>
            rw [Option.map_some, loosened_keyword spared read (fun inside => .type decides) type]
      simp only [sameType]
      exact ofType_corresponds (Json.hasMember_loosenedMembers schema) _
        (fun named => ofObject_loosened spared read parts ⟨decides, named⟩)
        (fun named => ofArray_loosened spared read ofText parts ⟨decides, named⟩)
  | some keyword =>
      obtain ⟨known, value, found⟩ := exists_of_decisive? decides
      have unchanged (isValue : keyword ∈ ["$ref", "const", "enum"]) :=
        loosened_keyword spared read (fun _ => .keyword decides isValue) value
      have listed (isList : keyword ∈ ["anyOf", "oneOf", "allOf"]) :=
        members_loosened spared read parts decides isList found
      simp only [Json.member?_loosenedMembers, found, Option.map_some, Option.getD_some]
      simp only [decidingKeywords, List.mem_cons, List.not_mem_nil, or_false] at known
      rcases known with rfl | rfl | rfl | rfl | rfl | rfl
      · rw [unchanged (by simp)]
        exact ofReference_loosened chosen root value
      · obtain ⟨notChosen, items⟩ := listed (by simp)
        exact ofChoice_loosened notChosen ofText items
      · exact ofOneOf_loosened spared read ofText parts decides found
      · obtain ⟨notChosen, items⟩ := listed (by simp)
        exact ofIntersection_loosened notChosen ofText items
      · rw [unchanged (by simp)]
        rcases ofValues_cases [value] with ⟨_, _, _, form⟩ | ⟨_, form⟩ <;>
          simp only [ofDecisive, form]
        · exact .rejected _
        · exact .values _ _
      · rw [unchanged (by simp)]
        rcases ofEnum_cases value with ⟨_, form⟩ | ⟨_, _, _, form⟩ <;> simp only [ofDecisive, form]
        · exact .rejected _
        · exact .values _ _

end Keywords

end SchemaSignature.Form
