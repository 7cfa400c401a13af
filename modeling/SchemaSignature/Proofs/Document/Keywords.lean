import SchemaSignature.Document.Form
import SchemaSignature.Proofs.Outcome

/-!
The forms that each keyword can give. A keyword either gives a rejected form, or the form that its
name says together with the facts about its value on which that form rests. The elimination
`ofKeywords_elim` splits a schema by the keyword that decides its form.
-/

namespace SchemaSignature.Form

theorem nonEmptyElements_eq_ok
    {missing : Failure} {value : Json} {members : List Json}
    (listing : nonEmptyElements missing value = .ok members) :
    value.isTruthy = true ∧ elements value = .ok members := by
  unfold nonEmptyElements at listing
  split at listing
  · next truthy => exact ⟨truthy, listing⟩
  · cases listing

theorem ne_nil_of_isTruthy
    {value : Json} {members : List Json}
    (truthy : value.isTruthy = true) (listing : elements value = .ok members) :
    members ≠ [] := by
  cases value with
  | null => cases truthy
  | bool value => simp [elements, Json.elements?] at listing
  | int value => simp [elements, Json.elements?] at listing
  | float value => simp [elements, Json.elements?] at listing
  | str text =>
      simp only [elements, Json.elements?, Except.ok.injEq] at listing
      intro empty
      rw [empty, List.map_eq_nil_iff] at listing
      have noText : text = "" := String.toList_eq_nil_iff.mp listing
      rw [noText] at truthy
      cases truthy
  | arr items =>
      simp only [elements, Json.elements?, Except.ok.injEq] at listing
      intro empty
      rw [listing, empty] at truthy
      cases truthy
  | obj entries =>
      simp only [elements, Json.elements?, Except.ok.injEq] at listing
      intro empty
      rw [empty, List.map_eq_nil_iff] at listing
      rw [listing] at truthy
      cases truthy

theorem ofReference_cases (root pointer : Json) :
    (∃ failure, ofReference root pointer = .rejected failure) ∨
      ∃ target value, pointer = .str target ∧ Pointer.resolve root target = .ok value ∧
        ofReference root pointer = .reference target := by
  cases pointer with
  | str target =>
      cases resolved : Pointer.resolve root target with
      | ok value =>
          exact Or.inr ⟨target, value, rfl, resolved, by simp [ofReference, Json.isKey, resolved]⟩
      | error failure => exact Or.inl ⟨failure, by simp [ofReference, Json.isKey, resolved]⟩
  | null => exact Or.inl ⟨_, rfl⟩
  | bool value => exact Or.inl ⟨_, rfl⟩
  | int value => exact Or.inl ⟨_, rfl⟩
  | float value => exact Or.inl ⟨_, rfl⟩
  | arr items => exact Or.inl ⟨_, rfl⟩
  | obj members => exact Or.inl ⟨_, rfl⟩

theorem ofChoice_cases (value : Json) :
    (∃ failure, ofChoice value = .rejected failure) ∨
      ∃ members, members ≠ [] ∧ elements value = .ok members ∧
        ofChoice value = .choice members := by
  unfold ofChoice
  split
  · next members listing =>
      have ⟨truthy, listed⟩ := nonEmptyElements_eq_ok listing
      exact Or.inr ⟨members, ne_nil_of_isTruthy truthy listed, listed, rfl⟩
  · exact Or.inl ⟨_, rfl⟩

theorem ofIntersection_cases (value : Json) :
    (∃ failure, ofIntersection value = .rejected failure) ∨
      ∃ members, members ≠ [] ∧ elements value = .ok members ∧
        ofIntersection value = .intersection members := by
  unfold ofIntersection
  split
  · next members listing =>
      have ⟨truthy, listed⟩ := nonEmptyElements_eq_ok listing
      exact Or.inr ⟨members, ne_nil_of_isTruthy truthy listed, listed, rfl⟩
  · exact Or.inl ⟨_, rfl⟩

theorem ofTuple_cases (value : Json) :
    (∃ failure, ofTuple value = .rejected failure) ∨
      ∃ members, elements value = .ok members ∧ ofTuple value = .tuple members := by
  unfold ofTuple
  split
  · next members listing => exact Or.inr ⟨members, listing, rfl⟩
  · exact Or.inl ⟨_, rfl⟩

/-- The values of a form of listed values are those that are not null. -/
theorem ofValues_cases (listed : List Json) :
    (∃ value ∈ listed, value.isKey = false ∧
        ofValues listed = .rejected (.unsupportedEnumValue value)) ∨
      (∀ value ∈ listed, value.isKey = true) ∧
        ofValues listed =
          .values (listed.filter fun value => !(value.kind == .null))
            (listed.any fun value => value.kind == .null) := by
  unfold ofValues
  split
  · next value found =>
      have isUnsupported := List.find?_some found
      exact Or.inl ⟨value, List.mem_of_find?_eq_some found, by simpa using isUnsupported, rfl⟩
  · next none =>
      refine Or.inr ⟨?_, rfl⟩
      intro value isListed
      simpa using List.find?_eq_none.mp none value isListed

theorem find?_eq_none_of_keys {listed : List Json} (keys : ∀ value ∈ listed, value.isKey = true) :
    listed.find? (fun value => !value.isKey) = none := by
  rw [List.find?_eq_none]
  intro value isListed
  rw [keys value isListed]
  exact Bool.false_ne_true

theorem isKey_of_mem_texts (texts : List String) :
    ∀ value ∈ texts.map Json.str, value.isKey = true := by
  intro value isText
  obtain ⟨text, _, rfl⟩ := List.mem_map.mp isText
  rfl

/-- Values that can be keys are never refused. -/
theorem ofValues_of_keys {listed : List Json} (keys : ∀ value ∈ listed, value.isKey = true) :
    ∃ literals nullable, ofValues listed = .values literals nullable := by
  unfold ofValues
  rw [find?_eq_none_of_keys keys]
  exact ⟨_, _, rfl⟩

theorem ofEnum_cases (value : Json) :
    (∃ failure, ofEnum value = .rejected failure) ∨
      ∃ listed, elements value = .ok listed ∧ (∀ value ∈ listed, value.isKey = true) ∧
        ofEnum value =
          .values (listed.filter fun value => !(value.kind == .null))
            (listed.any fun value => value.kind == .null) := by
  unfold ofEnum
  split
  · next listed listing =>
      rcases ofValues_cases listed with ⟨found, _, _, rejected⟩ | ⟨keys, values⟩
      · exact Or.inl ⟨_, rejected⟩
      · exact Or.inr ⟨listed, (nonEmptyElements_eq_ok listing).2, keys, values⟩
  · exact Or.inl ⟨_, rfl⟩

theorem ofDiscriminated_cases
    (root tag value : Json) (discriminator : List (String × Json)) :
    (∃ failure, ofDiscriminated root tag discriminator value = .rejected failure) ∨
      ∃ tagOf tags members, members ≠ [] ∧ elements value = .ok members ∧
        mappedTags discriminator = .ok tagOf ∧ memberTags root tag tagOf 0 members = .ok tags ∧
        ofDiscriminated root tag discriminator value = .discriminated tag tags members := by
  cases truthy : value.isTruthy with
  | false =>
      left
      exact ⟨.noAlternatives, by simp [ofDiscriminated, truthy, throw, throwThe, MonadExceptOf.throw]⟩
  | true =>
      cases mapped : mappedTags discriminator with
      | error failure => exact Or.inl ⟨failure, by simp [ofDiscriminated, truthy, mapped]⟩
      | ok tagOf =>
          cases listing : elements value with
          | error failure => exact Or.inl ⟨failure, by simp [ofDiscriminated, truthy, mapped, listing]⟩
          | ok members =>
              cases declared : memberTags root tag tagOf 0 members with
              | error failure =>
                  exact Or.inl
                    ⟨failure, by simp [ofDiscriminated, truthy, mapped, listing, declared]⟩
              | ok tags =>
                  exact Or.inr
                    ⟨tagOf, tags, members, ne_nil_of_isTruthy truthy listing, rfl, rfl, declared,
                      by simp [ofDiscriminated, truthy, mapped, listing, declared, pure, Except.pure]⟩

/-- A list of values that can be keys is read as the names of required properties. -/
theorem requiredNames_of_keys
    {schema : List (String × Json)} {items : List Json}
    (found : Json.member? schema "required" = some (.arr items))
    (keys : ∀ item ∈ items, item.isKey = true) : ∃ names, requiredNames schema = .ok names := by
  simp only [requiredNames, found, elements, Json.elements?, Outcome.bind_ok,
    find?_eq_none_of_keys keys]
  exact ⟨_, rfl⟩

theorem properties_cases (schema : List (String × Json)) :
    properties schema = .ok none ∨ (∃ failure, properties schema = .error failure) ∨
      ∃ members required, Json.member? schema "properties" = some (.obj members) ∧
        requiredNames schema = .ok required ∧
        properties schema =
          .ok (some (members.map fun member => ⟨member.1, member.2, required.contains member.1⟩)) := by
  cases found : Json.member? schema "properties" with
  | none => exact Or.inl (by simp [properties, found])
  | some value =>
      cases names : requiredNames schema with
      | error failure =>
          cases value with
          | null => exact Or.inl (by simp [properties, found])
          | _ => exact Or.inr (Or.inl ⟨failure, by simp [properties, found, names]⟩)
      | ok required =>
          cases value with
          | null => exact Or.inl (by simp [properties, found])
          | obj members =>
              exact Or.inr (Or.inr
                ⟨members, required, rfl, rfl, by simp [properties, found, names, pure, Except.pure]⟩)
          | _ =>
              exact Or.inr (Or.inl ⟨.misuse .missingOperation, by
                simp [properties, found, names, throw, throwThe, MonadExceptOf.throw]⟩)

/-- What `items` says about an array: a list is a tuple, and one schema is what every item is. -/
def ofItems : Option Json → Form
  | some (.arr members) => .tuple members
  | none | some .null | some (.bool true) => .primitive .unknownArray
  | some item => .array item

/-- An array is a tuple if `prefixItems` is there, and otherwise what `items` says. -/
theorem ofArray_eq (schema : List (String × Json)) :
    ofArray schema =
      match Json.member? schema "prefixItems" with
      | none | some .null => ofItems (Json.member? schema "items")
      | some members => ofTuple members := by
  unfold ofArray
  generalize Json.member? schema "prefixItems" = listed
  generalize Json.member? schema "items" = items
  -- Only the kinds of the two values matter, and of a truth value whether it is true.
  cases listed with
  | none => rcases items with _ | (_ | (_ | _) | _ | _ | _ | _ | _) <;> rfl
  | some value =>
      cases value with
      | null => rcases items with _ | (_ | (_ | _) | _ | _ | _ | _ | _) <;> rfl
      | _ => rfl

theorem ofItems_cases (items : Option Json) :
    ofItems items = .primitive .unknownArray ∨
      (∃ item, items = some item ∧ item ≠ .null ∧ (∀ members, item ≠ .arr members) ∧
        ofItems items = .array item) ∨
      ∃ members, items = some (.arr members) ∧ ofItems items = .tuple members := by
  unfold ofItems
  split
  · next members => exact Or.inr (Or.inr ⟨members, rfl, rfl⟩)
  · exact Or.inl rfl
  · exact Or.inl rfl
  · exact Or.inl rfl
  · next item notListed notNull _ =>
      exact Or.inr (Or.inl ⟨item, rfl, notNull, notListed, rfl⟩)

theorem ofArray_cases (schema : List (String × Json)) :
    (∃ value failure, Json.member? schema "prefixItems" = some value ∧
        ofArray schema = .rejected failure) ∨
      ofArray schema = .primitive .unknownArray ∨
      (∃ item, Json.member? schema "items" = some item ∧ item ≠ .null ∧
        (∀ members, item ≠ .arr members) ∧ ofArray schema = .array item) ∨
      (∃ members, Json.member? schema "items" = some (.arr members) ∧
        ofArray schema = .tuple members) ∨
      ∃ value members, Json.member? schema "prefixItems" = some value ∧
        elements value = .ok members ∧ ofArray schema = .tuple members := by
  have fromItems := ofItems_cases (Json.member? schema "items")
  rw [ofArray_eq]
  split
  · exact Or.inr (fromItems.imp_right (Or.imp_right Or.inl))
  · exact Or.inr (fromItems.imp_right (Or.imp_right Or.inl))
  · next value _ found =>
      rcases ofTuple_cases value with ⟨failure, rejected⟩ | ⟨members, listing, tuple⟩
      · exact Or.inl ⟨value, failure, found, rejected⟩
      · exact Or.inr (Or.inr (Or.inr (Or.inr ⟨value, members, found, listing, tuple⟩)))

/-! ## The keyword that decides -/

/-- A property of the forms that each deciding keyword can give holds of the form of a schema. -/
theorem ofKeywords_elim
    {root : Json} {schema : List (String × Json)} {motive : Form → Prop}
    (reference : ∀ pointer, Json.member? schema "$ref" = some pointer →
      motive (ofReference root pointer))
    (choice : ∀ keyword ∈ ["anyOf", "oneOf"], ∀ value,
      Json.member? schema keyword = some value → motive (ofChoice value))
    (discriminated : ∀ value discriminator tag, Json.member? schema "oneOf" = some value →
      Json.member? schema "discriminator" = some (.obj discriminator) →
      Json.member? discriminator "propertyName" = some tag →
      motive (ofDiscriminated root tag discriminator value))
    (intersection : ∀ value, Json.member? schema "allOf" = some value →
      motive (ofIntersection value))
    (constant : ∀ value, Json.member? schema "const" = some value → motive (ofValues [value]))
    (enumeration : ∀ value, Json.member? schema "enum" = some value → motive (ofEnum value))
    (typed : motive (ofType schema ((Json.member? schema "type").getD .null))) :
    motive (ofKeywords root schema) := by
  unfold ofKeywords
  split
  · next pointer found => exact reference pointer found
  split
  · next value found => exact choice "anyOf" (by simp) value found
  split
  · next value found =>
      split
      · next discriminator described =>
          split
          · next tag named => exact discriminated value discriminator tag found described named
          · exact choice "oneOf" (by simp) value found
      · exact choice "oneOf" (by simp) value found
  split
  · next value found => exact intersection value found
  split
  · next value found => exact constant value found
  split
  · next value found => exact enumeration value found
  · exact typed

/-- A property of the forms of objects, arrays and simple types holds of the form of a schema for a
value of its type, provided that it carries over from several forms to the choice among them. -/
theorem ofType_elim
    {schema : List (String × Json)} {motive : Form → Prop}
    (object : motive (ofObject schema)) (array : motive (ofArray schema))
    (primitive : ∀ kind, motive (.primitive kind))
    (rejected : ∀ failure, failure = .noTypes ∨ (∃ type, failure = .unsupportedType type) →
      motive (.rejected failure))
    (alternatives : ∀ forms, forms ≠ [] → (∀ form ∈ forms, motive form) →
      motive (.alternatives forms)) :
    (type : Json) → motive (ofType schema type)
  | .null => by
      unfold ofType inferred
      split
      · exact object
      · split
        · exact array
        · exact primitive _
  | .str name => by
      unfold ofType ofTypeName
      split
      · exact object
      · exact array
      all_goals first | exact primitive _ | exact rejected _ (Or.inr ⟨_, rfl⟩)
  | .arr [] => by
      unfold ofType
      exact rejected _ (Or.inl rfl)
  | .arr (first :: rest) => by
      unfold ofType
      refine alternatives _ (List.cons_ne_nil _ _) ?_
      intro form isForm
      rcases List.mem_cons.mp isForm with same | later
      · rw [same]
        exact ofType_elim object array primitive rejected alternatives first
      · exact ofTypes_elim rest form later
  | .bool _ | .int _ | .float _ | .obj _ => by
      unfold ofType
      exact rejected _ (Or.inr ⟨_, rfl⟩)
where
  ofTypes_elim : (types : List Json) → ∀ form ∈ ofTypes schema types, motive form
    | [] => by simp [ofTypes]
    | type :: rest => by
        intro form isForm
        rw [ofTypes] at isForm
        rcases List.mem_cons.mp isForm with same | later
        · rw [same]
          exact ofType_elim object array primitive rejected alternatives type
        · exact ofTypes_elim rest form later

/-- A property holds of the form of a schema if it holds of every form that the keywords of the
schema can give. -/
theorem form_elim
    {root : Json} {schema : List (String × Json)} {motive : Form → Prop}
    (rejected : ∀ failure, motive (.rejected failure))
    (primitive : ∀ kind, motive (.primitive kind))
    (reference : ∀ target value, Json.member? schema "$ref" = some (.str target) →
      Pointer.resolve root target = .ok value → motive (.reference target))
    (choice : ∀ keyword ∈ ["anyOf", "oneOf"], ∀ value members,
      Json.member? schema keyword = some value → elements value = .ok members → members ≠ [] →
      motive (.choice members))
    (discriminated : ∀ discriminator tag tagOf tags value members,
      Json.member? schema "oneOf" = some value → elements value = .ok members → members ≠ [] →
      mappedTags discriminator = .ok tagOf → memberTags root tag tagOf 0 members = .ok tags →
      motive (.discriminated tag tags members))
    (intersection : ∀ value members, Json.member? schema "allOf" = some value →
      elements value = .ok members → members ≠ [] → motive (.intersection members))
    (values : ∀ (listed : List Json) nullable, (∀ value ∈ listed, value.isKey = true) →
      motive (.values (listed.filter fun value => !(value.kind == .null)) nullable))
    (object : motive (ofObject schema))
    (array : ∀ item, Json.member? schema "items" = some item → item ≠ .null →
      (∀ members, item ≠ .arr members) → motive (.array item))
    (tuple : ∀ members, Json.member? schema "items" = some (.arr members) →
      motive (.tuple members))
    (prefixTuple : ∀ value members, Json.member? schema "prefixItems" = some value →
      elements value = .ok members → motive (.tuple members))
    (alternatives : ∀ forms, forms ≠ [] → (∀ form ∈ forms, motive form) →
      motive (.alternatives forms)) :
    motive (ofKeywords root schema) := by
  apply ofKeywords_elim
  · intro pointer found
    rcases ofReference_cases root pointer with ⟨_, form⟩ | ⟨target, value, isText, resolved, form⟩ <;>
      rw [form]
    · exact rejected _
    · exact reference target value (isText ▸ found) resolved
  · intro keyword known value found
    rcases ofChoice_cases value with ⟨_, form⟩ | ⟨members, present, listing, form⟩ <;> rw [form]
    · exact rejected _
    · exact choice keyword known value members found listing present
  · intro value discriminator tag found _ _
    rcases ofDiscriminated_cases root tag value discriminator with
      ⟨_, form⟩ | ⟨tagOf, tags, members, present, listing, mapped, declared, form⟩ <;> rw [form]
    · exact rejected _
    · exact discriminated discriminator tag tagOf tags value members found listing present mapped
        declared
  · intro value found
    rcases ofIntersection_cases value with ⟨_, form⟩ | ⟨members, present, listing, form⟩ <;>
      rw [form]
    · exact rejected _
    · exact intersection value members found listing present
  · intro value _
    rcases ofValues_cases [value] with ⟨_, _, _, form⟩ | ⟨keys, form⟩ <;> rw [form]
    · exact rejected _
    · exact values [value] _ keys
  · intro value _
    rcases ofEnum_cases value with ⟨_, form⟩ | ⟨listed, _, keys, form⟩ <;> rw [form]
    · exact rejected _
    · exact values listed _ keys
  · apply ofType_elim
    · exact object
    · rcases ofArray_cases schema with
        ⟨_, _, _, form⟩ | form | ⟨item, found, notNull, notListed, form⟩ | ⟨members, found, form⟩ |
          ⟨value, members, found, listing, form⟩ <;> rw [form]
      · exact rejected _
      · exact primitive _
      · exact array item found notNull notListed
      · exact tuple members found
      · exact prefixTuple value members found listing
    · exact primitive
    · exact fun failure _ => rejected failure
    · exact alternatives

end SchemaSignature.Form
