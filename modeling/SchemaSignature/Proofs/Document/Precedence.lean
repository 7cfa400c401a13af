import SchemaSignature.Proofs.Document.Keywords

/-!
The precedence of keywords. A schema is decided by the first of `$ref`, `anyOf`, `oneOf`, `allOf`,
`const` and `enum` that it has, and by its type if it has none of them. What else it says is not looked
at.
-/

namespace SchemaSignature.Form

/-- The keywords that decide the form of a schema ahead of its type, in their order. -/
def decidingKeywords : List String :=
  ["$ref", "anyOf", "oneOf", "allOf", "const", "enum"]

/-- The keyword that decides the form of a schema, unless its type does. -/
def decisive? (schema : List (String × Json)) : Option String :=
  decidingKeywords.find? (Json.hasMember schema)

/-- The form of a choice that may have a discriminator beside it. -/
def ofOneOf (root : Json) (schema : List (String × Json)) (value : Json) : Form :=
  match Json.member? schema "discriminator" with
  | some (.obj discriminator) =>
      match Json.member? discriminator "propertyName" with
      | some tag => ofDiscriminated root tag discriminator value
      | none => ofChoice value
  | _ => ofChoice value

/-- The form of a schema that a keyword decides, given the value of the keyword. -/
def ofDecisive (root : Json) (schema : List (String × Json)) (keyword : String) (value : Json) :
    Form :=
  match keyword with
  | "$ref" => ofReference root value
  | "anyOf" => ofChoice value
  | "oneOf" => ofOneOf root schema value
  | "allOf" => ofIntersection value
  | "const" => ofValues [value]
  | _ => ofEnum value

/-- The form of a schema by the keyword that decides it, or else by its type. -/
theorem ofKeywords_eq (root : Json) (schema : List (String × Json)) :
    ofKeywords root schema =
      match decisive? schema with
      | some keyword =>
          ofDecisive root schema keyword ((Json.member? schema keyword).getD .null)
      | none => ofType schema ((Json.member? schema "type").getD .null) := by
  unfold ofKeywords decisive? decidingKeywords
  simp only [List.find?_cons, List.find?_nil, Json.hasMember]
  cases reference : Json.member? schema "$ref" with
  | some pointer => simp [ofDecisive, reference]
  | none =>
  cases anyOf : Json.member? schema "anyOf" with
  | some members => simp [ofDecisive, anyOf]
  | none =>
  cases oneOf : Json.member? schema "oneOf" with
  | some members =>
      simp only [Option.isSome_none, Option.isSome_some, oneOf, Option.getD_some]
      rfl
  | none =>
  cases allOf : Json.member? schema "allOf" with
  | some members => simp [ofDecisive, allOf]
  | none =>
  cases constant : Json.member? schema "const" with
  | some value => simp [ofDecisive, constant]
  | none =>
  cases enumeration : Json.member? schema "enum" with
  | some listed => simp [ofDecisive, enumeration]
  | none => simp

/-- A deciding keyword is one of the known ones, and the schema has it. -/
theorem exists_of_decisive?
    {schema : List (String × Json)} {keyword : String} (decides : decisive? schema = some keyword) :
    keyword ∈ decidingKeywords ∧ ∃ value, Json.member? schema keyword = some value := by
  have has : Json.hasMember schema keyword = true := List.find?_some decides
  exact ⟨List.mem_of_find?_eq_some decides, Option.isSome_iff_exists.mp has⟩

/-- The decision depends only on which keywords a schema has. -/
theorem decisive?_congr
    {schema other : List (String × Json)}
    (same : ∀ keyword ∈ decidingKeywords,
      Json.hasMember other keyword = Json.hasMember schema keyword) :
    decisive? other = decisive? schema := by
  unfold decisive?
  generalize decidingKeywords = keywords at same
  induction keywords with
  | nil => rfl
  | cons first rest inductionHypothesis =>
      rw [List.find?_cons, List.find?_cons, same first List.mem_cons_self,
        inductionHypothesis fun keyword later => same keyword (List.mem_cons_of_mem _ later)]

theorem decisive?_of_reference
    {schema : List (String × Json)} {pointer : Json}
    (found : Json.member? schema "$ref" = some pointer) : decisive? schema = some "$ref" := by
  have has : Json.hasMember schema "$ref" = true := Option.isSome_iff_exists.mpr ⟨pointer, found⟩
  rw [decisive?, decidingKeywords, List.find?_cons, has]

/-! ## Discriminated choices -/

/-- A schema is a choice of members that a discriminator tells apart by the field `tag`. -/
structure Discriminates (schema discriminator : List (String × Json)) (tag value : Json) : Prop where
  decides : decisive? schema = some "oneOf"
  listed : Json.member? schema "oneOf" = some value
  described : Json.member? schema "discriminator" = some (.obj discriminator)
  named : Json.member? discriminator "propertyName" = some tag

/-- A choice is discriminated, or it is a plain one. -/
theorem ofOneOf_cases
    {schema : List (String × Json)} {value : Json} (decides : decisive? schema = some "oneOf")
    (listed : Json.member? schema "oneOf" = some value) :
    (∃ discriminator tag, Discriminates schema discriminator tag value ∧
        ∀ root, ofOneOf root schema value = ofDiscriminated root tag discriminator value) ∨
      (∀ discriminator tag, ¬Discriminates schema discriminator tag value) ∧
        ∀ root, ofOneOf root schema value = ofChoice value := by
  unfold ofOneOf
  split
  · next discriminator described =>
      cases named : Json.member? discriminator "propertyName" with
      | some tag => exact Or.inl ⟨discriminator, tag, ⟨decides, listed, described, named⟩, fun _ => rfl⟩
      | none =>
          refine Or.inr ⟨?_, fun _ => rfl⟩
          intro other tag choice
          cases described.symm.trans choice.described
          cases named.symm.trans choice.named
  · next notDescribed =>
      refine Or.inr ⟨?_, fun _ => rfl⟩
      intro discriminator tag choice
      exact notDescribed discriminator choice.described

/-- A schema looks up a reference: its own, or that of a member of which it needs the tag. -/
inductive LooksUp (schema : List (String × Json)) (reference : String) : Prop where
  | own (found : Json.member? schema "$ref" = some (.str reference))
  | member {discriminator keywords : List (String × Json)} {tag value : Json} {members : List Json}
      (choice : Discriminates schema discriminator tag value)
      (listing : elements value = .ok members) (isMember : .obj keywords ∈ members)
      (found : Json.member? keywords "$ref" = some (.str reference))

end SchemaSignature.Form
