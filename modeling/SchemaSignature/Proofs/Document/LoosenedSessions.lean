import SchemaSignature.Proofs.Document.AlikeSessions
import SchemaSignature.Proofs.Document.LoosenedForms

/-!
Sessions of a loosened document. Whichever of the two schemas that accept anything stands at the places
where schemas are read, the renderings have the same texts and failures, and the namer counts and
declares the same, as long as no value is replaced that is read as something else.
-/

namespace SchemaSignature

open Document (ReadAt ReadOtherwise Reached)
open Pointer (Location)

namespace Form

/-! ## Everything that is drafted is read -/

theorem mem_subschemas_ofType
    {schema : List (String × Json)} {part : Json} :
    (type : Json) → part ∈ (ofType schema type).subschemas →
      ("object" ∈ typeNames schema type ∧ part ∈ (ofObject schema).subschemas) ∨
        ("array" ∈ typeNames schema type ∧ part ∈ (ofArray schema).subschemas)
  | .null, isPart => by
      rw [ofType, inferred] at isPart
      split at isPart
      · next isObject => exact Or.inl ⟨by simp [typeNames, isObject], isPart⟩
      · next notObject =>
          split at isPart
          · next isArray => exact Or.inr ⟨by simp [typeNames, notObject, isArray], isPart⟩
          · cases isPart
  | .str name, isPart => by
      rw [ofType] at isPart
      unfold ofTypeName at isPart
      split at isPart
      · exact Or.inl ⟨by simp [typeNames], isPart⟩
      · exact Or.inr ⟨by simp [typeNames], isPart⟩
      all_goals cases isPart
  | .arr [], isPart => by
      rw [ofType] at isPart
      cases isPart
  | .arr (first :: rest), isPart => by
      rw [ofType, subschemas, subschemasOfAll] at isPart
      rw [typeNames, typeNamesOfAll]
      rcases List.mem_append.mp isPart with inFirst | later
      · rcases mem_subschemas_ofType first inFirst with ⟨named, isPart⟩ | ⟨named, isPart⟩
        · exact Or.inl ⟨List.mem_append_left _ named, isPart⟩
        · exact Or.inr ⟨List.mem_append_left _ named, isPart⟩
      · rcases mem_subschemas_ofTypes rest later with ⟨named, isPart⟩ | ⟨named, isPart⟩
        · exact Or.inl ⟨List.mem_append_right _ named, isPart⟩
        · exact Or.inr ⟨List.mem_append_right _ named, isPart⟩
  | .bool _, isPart | .int _, isPart | .float _, isPart | .obj _, isPart => by
      simp only [ofType] at isPart
      cases isPart
where
  mem_subschemas_ofTypes : (types : List Json) →
      part ∈ subschemasOfAll (ofTypes schema types) →
        ("object" ∈ typeNamesOfAll schema types ∧ part ∈ (ofObject schema).subschemas) ∨
          ("array" ∈ typeNamesOfAll schema types ∧ part ∈ (ofArray schema).subschemas)
    | [], isPart => by
        rw [ofTypes] at isPart
        cases isPart
    | type :: rest, isPart => by
        rw [ofTypes, subschemasOfAll] at isPart
        rw [typeNamesOfAll]
        rcases List.mem_append.mp isPart with inFirst | later
        · rcases mem_subschemas_ofType type inFirst with ⟨named, isPart⟩ | ⟨named, isPart⟩
          · exact Or.inl ⟨List.mem_append_left _ named, isPart⟩
          · exact Or.inr ⟨List.mem_append_left _ named, isPart⟩
        · rcases mem_subschemas_ofTypes rest later with ⟨named, isPart⟩ | ⟨named, isPart⟩
          · exact Or.inl ⟨List.mem_append_right _ named, isPart⟩
          · exact Or.inr ⟨List.mem_append_right _ named, isPart⟩

/-- The elements of a value are the items of an array, or texts. -/
theorem element_cases
    {value element : Json} {members : List Json} (listing : elements value = .ok members)
    (isElement : element ∈ members) :
    (∃ text, element = .str text) ∨ ∃ index : Nat, value = .arr members ∧ members[index]? = some element := by
  cases value with
  | arr items =>
      cases listing
      obtain ⟨index, isItem⟩ := List.mem_iff_getElem?.mp isElement
      exact Or.inr ⟨index, rfl, isItem⟩
  | str text =>
      cases listing
      obtain ⟨c, _, rfl⟩ := List.mem_map.mp isElement
      exact Or.inl ⟨_, rfl⟩
  | obj entries =>
      cases listing
      obtain ⟨entry, _, rfl⟩ := List.mem_map.mp isElement
      exact Or.inl ⟨_, rfl⟩
  | _ => cases listing

/-- What takes part in the form of a schema is read at a place below it, or a text in the place of a
list. -/
theorem partAt_of_mem_subschemas
    {root : Json} {schema : List (String × Json)} {part : Json}
    (isPart : part ∈ (ofKeywords root schema).subschemas) :
    (∃ text, part = .str text) ∨ ∃ path, PartAt schema path part := by
  rw [ofKeywords_eq] at isPart
  cases decides : decisive? schema with
  | some keyword =>
      obtain ⟨known, value, found⟩ := exists_of_decisive? decides
      have ofMembers {members : List Json} (isList : keyword ∈ ["anyOf", "oneOf", "allOf"])
          (listing : elements value = .ok members) (isMember : part ∈ members) :
          (∃ text, part = .str text) ∨ ∃ path, PartAt schema path part := by
        rcases element_cases listing isMember with isText | ⟨index, isArray, isItem⟩
        · exact Or.inl isText
        · exact Or.inr ⟨_, .member decides isList (isArray ▸ found) isItem⟩
      simp only [decides, found, Option.getD_some] at isPart
      simp only [decidingKeywords, List.mem_cons, List.not_mem_nil, or_false] at known
      rcases known with rfl | rfl | rfl | rfl | rfl | rfl
      · rcases ofReference_cases root value with ⟨_, form⟩ | ⟨_, _, _, _, form⟩ <;>
          simp only [ofDecisive, form] at isPart <;> cases isPart
      · rcases ofChoice_cases value with ⟨_, form⟩ | ⟨members, _, listing, form⟩ <;>
          simp only [ofDecisive, form] at isPart
        · cases isPart
        · exact ofMembers (by simp) listing isPart
      · rcases ofOneOf_cases decides found with ⟨discriminator, tag, _, form⟩ | ⟨_, form⟩ <;>
          simp only [ofDecisive, form] at isPart
        · rcases ofDiscriminated_cases root tag value discriminator with
            ⟨_, form⟩ | ⟨_, _, members, _, listing, _, _, form⟩ <;> rw [form] at isPart
          · cases isPart
          · exact ofMembers (by simp) listing isPart
        · rcases ofChoice_cases value with ⟨_, form⟩ | ⟨members, _, listing, form⟩ <;>
            rw [form] at isPart
          · cases isPart
          · exact ofMembers (by simp) listing isPart
      · rcases ofIntersection_cases value with ⟨_, form⟩ | ⟨members, _, listing, form⟩ <;>
          simp only [ofDecisive, form] at isPart
        · cases isPart
        · exact ofMembers (by simp) listing isPart
      · rcases ofValues_cases [value] with ⟨_, _, _, form⟩ | ⟨_, form⟩ <;>
          simp only [ofDecisive, form] at isPart <;> cases isPart
      · rcases ofEnum_cases value with ⟨_, form⟩ | ⟨_, _, _, form⟩ <;>
          simp only [ofDecisive, form] at isPart <;> cases isPart
  | none =>
      simp only [decides] at isPart
      rcases mem_subschemas_ofType _ isPart with ⟨named, isPart⟩ | ⟨named, isPart⟩
      · have typed : IsReadFor schema "object" := ⟨decides, named⟩
        right
        rcases mem_subschemas_ofObject isPart with ⟨members, found, same⟩ | ⟨_, _, found, isMember⟩
        · exact ⟨_, .additional typed (same ▸ found)⟩
        · exact ⟨_, .property typed found isMember⟩
      · have typed : IsReadFor schema "array" := ⟨decides, named⟩
        have inItems (noPrefix : HasNoPrefix schema)
            (isPart : part ∈ (ofItems (Json.member? schema "items")).subschemas) :
            ∃ path, PartAt schema path part := by
          rcases ofItems_cases (Json.member? schema "items") with
            form | ⟨item, found, _, notListed, form⟩ | ⟨members, found, form⟩ <;> rw [form] at isPart
          · cases isPart
          · cases List.mem_singleton.mp isPart
            exact ⟨_, .item typed noPrefix found notListed⟩
          · obtain ⟨index, isItem⟩ := List.mem_iff_getElem?.mp isPart
            exact ⟨_, .listedItem typed noPrefix found isItem⟩
        rw [ofArray_eq] at isPart
        split at isPart
        · next absent =>
            exact Or.inr (inItems (fun value found => by cases absent.symm.trans found) isPart)
        · next isNull =>
            exact Or.inr (inItems
              (fun value found => Option.some.inj (found.symm.trans isNull)) isPart)
        · next value _ found =>
            rcases ofTuple_cases value with ⟨_, form⟩ | ⟨members, listing, form⟩ <;>
              rw [form] at isPart
            · cases isPart
            · rcases element_cases listing isPart with isText | ⟨index, isArray, isItem⟩
              · exact Or.inl isText
              · exact Or.inr ⟨_, .prefixItem typed (isArray ▸ found) isItem⟩

end Form

namespace Document

/-- Every schema that is drafted is read at some place, unless it is a text in the place of a list. -/
theorem exists_readAt {root schema : Json} (reached : Reached root schema) :
    (∃ text, schema = .str text) ∨ ∃ place, ReadAt root place schema := by
  induction reached with
  | document => exact Or.inr ⟨[], .document⟩
  | @part schema part reached isPart inductionHypothesis =>
      cases schema with
      | obj keywords =>
          rcases inductionHypothesis with ⟨_, impossible⟩ | ⟨place, read⟩
          · cases impossible
          · rcases Form.partAt_of_mem_subschemas isPart with isText | ⟨path, partAt⟩
            · exact Or.inl isText
            · exact Or.inr ⟨_, read.part partAt⟩
      | bool value => cases value <;> cases isPart
      | _ => cases isPart
  | @target schema value reference reached refers resolved inductionHypothesis =>
      cases schema with
      | obj keywords =>
          rcases inductionHypothesis with ⟨_, impossible⟩ | ⟨place, read⟩
          · cases impossible
          · obtain ⟨location, located, isValue⟩ := Pointer.resolve_eq_ok_iff.mp resolved
            exact Or.inr ⟨_, read.target (Form.found_of_mem_targets refers).1 located isValue⟩
      | bool value => cases value <;> cases refers
      | _ => cases refers

end Document

theorem Form.PartAt.height_lt
    {schema : List (String × Json)} {path : Location} {part : Json}
    (isPart : Form.PartAt schema path part) : part.height < (Json.obj schema).height := by
  have ofItem {keyword : String} {members : List Json} {index : Nat}
      (found : Json.member? schema keyword = some (.arr members))
      (isItem : members[index]? = some part) : part.height < (Json.obj schema).height := by
    have inList : part.height < (Json.arr members).height :=
      Nat.lt_succ_of_le (Json.height_le_of_mem_items (List.mem_of_getElem? isItem))
    exact Nat.lt_trans inList (Json.height_lt_of_member? found)
  cases isPart with
  | member _ _ found isMember => exact ofItem found isMember
  | property _ found isMember => exact (Form.Holds.property found isMember).height_lt
  | additional _ found => exact Json.height_lt_of_member? found
  | prefixItem _ found isMember => exact ofItem found isMember
  | item _ _ found _ => exact Json.height_lt_of_member? found
  | listedItem _ _ found isMember => exact ofItem found isMember

namespace Document

theorem outcome_draft_of_rejected
    {root schema : Json} {failure : Failure} (rejected : root.form schema = .rejected failure) :
    (root.draft schema).outcome = .error failure := by
  rw [Json.draft_eq, rejected, Form.assemble, Traced.outcome_ofExcept]

theorem outcome_draft_of_primitive
    {root schema : Json} {kind : Primitive} (isPrimitive : root.form schema = .primitive kind) :
    (root.draft schema).outcome = .ok (.primitive kind) := by
  rw [Json.draft_eq, isPrimitive, Form.assemble, Traced.outcome_pure]

/-- What is no object of keywords is refused by its kind, or is one of the two truth values. -/
theorem draft_loosened_of_not_object
    (root : Json) (chosen : Location → Bool) (place : Location) {schema : Json}
    (notObject : ∀ keywords, schema ≠ .obj keywords) :
    Form.DraftsCoincide root.draft (root.loosened chosen []).draft schema
      (schema.loosened chosen place) := by
  have ofKind {schema other : Json} {kind : Json.Kind}
      (refused : ∀ root : Json, root.form schema = .rejected (.notASchema kind))
      (otherRefused : ∀ root : Json, root.form other = .rejected (.notASchema kind)) :
      Form.DraftsCoincide root.draft (root.loosened chosen []).draft schema other := by
    rw [Form.DraftsCoincide, outcome_draft_of_rejected (refused root),
      outcome_draft_of_rejected (otherRefused _)]
    exact .failed _
  have ofKindOf {schema other : Json} {kind : Primitive}
      (isPrimitive : ∀ root : Json, root.form schema = .primitive kind)
      (otherPrimitive : ∀ root : Json, root.form other = .primitive kind) :
      Form.DraftsCoincide root.draft (root.loosened chosen []).draft schema other := by
    rw [Form.DraftsCoincide, outcome_draft_of_primitive (isPrimitive root),
      outcome_draft_of_primitive (otherPrimitive _)]
    exact .done rfl
  cases schema with
  | obj keywords => exact absurd rfl (notObject keywords)
  | bool value =>
      cases value with
      | false => exact ofKindOf (fun _ => rfl) (fun _ => rfl)
      | true =>
          rcases Json.loosened_true_cases chosen place with same | same <;> rw [same]
          · exact ofKindOf (fun _ => rfl) (fun _ => rfl)
          · exact ofKindOf (fun _ => rfl) (fun _ => rfl)
  | _ => exact ofKind (fun _ => rfl) (fun _ => rfl)

section Loosening

variable {root : Json} {chosen : Location → Bool}
  (spared : ∀ place, ReadOtherwise root place → chosen place = false)

include spared

/-- A schema that is read has a draft that is written alike in the loosened document. -/
theorem draft_loosened {schema : Json} {place : Location} (read : ReadAt root place schema) :
    Form.DraftsCoincide root.draft (root.loosened chosen []).draft schema
      (schema.loosened chosen place) := by
  induction height : schema.height using Nat.strong_induction_on generalizing schema place with
  | h bound inductionHypothesis =>
      cases schema with
      | obj keywords =>
          have ofText (text : String) : Form.DraftsCoincide root.draft
              (root.loosened chosen []).draft (.str text) (.str text) :=
            draft_loosened_of_not_object root chosen [] (by simp)
          have parts : ∀ path part, Form.PartAt keywords path part →
              Form.DraftsCoincide root.draft (root.loosened chosen []).draft part
                (part.loosened chosen (place ++ path)) := fun path part isPart =>
            inductionHypothesis part.height (height ▸ isPart.height_lt) (read.part isPart) rfl
          have forms := Form.ofKeywords_loosened spared read ofText parts
          rw [Form.DraftsCoincide, Json.draft_eq root, Json.draft_eq (root.loosened chosen [])]
          exact Form.assemble_coincides (outcome_draft_of_primitive rfl) _ forms
      | _ => exact draft_loosened_of_not_object root chosen place (by simp)

theorem body_loosened {reference : String} (met : IsMet root reference) :
    Outcome.Coincides Node.Alike (body root reference)
      (body (root.loosened chosen []) reference) := by
  unfold body
  rcases Pointer.resolve_loosened chosen root reference with
    ⟨failure, failed, otherFailed⟩ | ⟨location, value, located, isValue, resolved, otherResolved⟩
  · rw [failed, otherFailed]
    exact .failed _
  · obtain ⟨schema, reached, refers⟩ := met
    rw [resolved, otherResolved]
    refine draft_loosened spared ?_
    cases schema with
    | obj keywords =>
        rcases exists_readAt reached with ⟨_, impossible⟩ | ⟨place, read⟩
        · cases impossible
        · exact read.target (Form.found_of_mem_targets refers).1 located isValue
    | bool value => cases value <;> cases refers
    | _ => cases refers

/-- It makes no difference which of the two schemas that accept anything stands at a place where a
schema is read and nothing else: whatever the namer, the renderings have the same texts and failures,
and the namer counts and declares the same. -/
theorem session_loosened (namer : Namer) (bind : Bool) (count : Nat) :
    (session root namer bind count).ReadsSame
      (session (root.loosened chosen []) namer bind count) := by
  have drafts := draft_loosened spared .document
  have bodies : StandAlike (IsMet root) (body root) (body (root.loosened chosen [])) := {
    closed := fun _ _ met stands _ isKey => isMet_of_body met stands isKey
    stands := fun _ met => (body_loosened spared met).matches }
  have refuse : RefuseAlike (IsMet root) (body root) (body (root.loosened chosen [])) := by
    intro reference cause otherCause met refused otherRefused
    have coinciding := body_loosened spared met
    rw [refused, otherRefused] at coinciding
    exact coinciding.eq_of_error
  have leaves : ∀ node, (root.draft root).outcome = .ok node →
      ∀ reference ∈ node.keys, IsMet root reference :=
    fun node drafted reference isKey => isMet_of_mem_keys .document drafted isKey
  exact (session_alike drafts.matches bodies leaves namer bind count).2 drafts refuse

end Loosening

/-! ## Where the two schemas differ -/

/-- What is read as something else than a schema stands under certain keywords, or is the value of one
that lists or permits subschemas. -/
theorem keywords_of_readOtherwise {root : Json} {place : Location} (otherwise : ReadOtherwise root place) :
    (∃ keyword ∈ ["$ref", "const", "enum", "type", "required", "discriminator"],
        .key keyword ∈ place) ∨
      ∃ keyword ∈ ["anyOf", "oneOf", "allOf", "properties", "additionalProperties", "prefixItems"],
        place.getLast? = some (.key keyword) := by
  have within (front : Location) {keyword : String} (inside : Location) :
      .key keyword ∈ front ++ .key keyword :: inside :=
    List.mem_append_right _ List.mem_cons_self
  have atEnd (front : Location) (keyword : String) :
      (front ++ [Pointer.Step.key keyword]).getLast? = some (.key keyword) :=
    List.getLast?_concat
  cases otherwise with
  | value _ isValue =>
      cases isValue with
      | @keyword keyword _ _ known =>
          left
          refine ⟨keyword, ?_, within _ _⟩
          simp only [List.mem_cons, List.not_mem_nil, or_false] at known ⊢
          rcases known with rfl | rfl | rfl <;> simp
      | @list keyword _ known =>
          right
          refine ⟨keyword, ?_, atEnd _ _⟩
          simp only [List.mem_cons, List.not_mem_nil, or_false] at known ⊢
          rcases known with rfl | rfl | rfl <;> simp
      | discriminator => exact Or.inl ⟨"discriminator", by simp, within _ _⟩
      | type => exact Or.inl ⟨"type", by simp, within _ _⟩
      | properties => exact Or.inr ⟨"properties", by simp, atEnd _ _⟩
      | required => exact Or.inl ⟨"required", by simp, within _ _⟩
      | permission => exact Or.inr ⟨"additionalProperties", by simp, atEnd _ _⟩
      | prefixItems => exact Or.inr ⟨"prefixItems", by simp, atEnd _ _⟩
  | fields => exact Or.inr ⟨"properties", by simp, atEnd _ _⟩
  | tags => exact Or.inl ⟨"enum", by simp, by simp⟩

/-- A document with an open schema for a property, a member of a choice, the items of an array, a
member of a tuple, and the target of a reference. -/
def openPlaces : Json :=
  .obj [("properties", .obj [
      ("a", .bool true),
      ("b", .obj [("anyOf", .arr [.bool true, .obj [("$ref", .str "#/extra")]])]),
      ("c", .obj [("items", .bool true)]),
      ("d", .obj [("type", .str "array"), ("prefixItems", .arr [.bool true])])]),
    ("extra", .bool true)]

def openPlacesOf : List Location :=
  [[.key "properties", .key "a"],
    [.key "properties", .key "b", .key "anyOf", .index 0],
    [.key "properties", .key "c", .key "items"],
    [.key "properties", .key "d", .key "prefixItems", .index 0],
    [.key "extra"]]

theorem session_loosened_openPlaces :
    (∀ place, ReadOtherwise openPlaces place → decide (place ∈ openPlacesOf) = false) ∧
      (session openPlaces Namer.standard true 1).texts =
        .ok [.ok "Partial<{ a: unknown; b: (unknown | unknown); c: Array<unknown>; d: [unknown]; }>"] ∧
      (session openPlaces Namer.standard true 2).ReadsSame
        (session (openPlaces.loosened (fun place => decide (place ∈ openPlacesOf)) [])
          Namer.standard true 2) := by
  have spared : ∀ place, ReadOtherwise openPlaces place → decide (place ∈ openPlacesOf) = false := by
    intro place otherwise
    rw [decide_eq_false_iff_not]
    intro isOpen
    have keywords := keywords_of_readOtherwise otherwise
    simp only [openPlacesOf, List.mem_cons, List.not_mem_nil, or_false] at isOpen
    rcases isOpen with rfl | rfl | rfl | rfl | rfl <;> simp at keywords
  exact ⟨spared, rfl, session_loosened spared Namer.standard true 2⟩

/-- An object with a property and a schema for its other members. -/
def withOthers (others : Json) : Json :=
  .obj [("properties", .obj [("a", .obj [("type", .str "string")])]), ("required", .arr [.str "a"]),
    ("additionalProperties", others)]

/-- A constant that is a schema as well: a reference leads to it. -/
def constantAndTarget (constant : Json) : Json :=
  .obj [("properties", .obj [("a", .obj [("const", constant)]),
    ("b", .obj [("$ref", .str "#/properties/a/const")])])]

/-- Beside properties, `true` for the other members adds nothing, and the schema without keywords adds
a record. And a place can hold both a schema and a value that is read as something else. -/
theorem loosened_not_same :
    (session (withOthers (.bool true)) Namer.standard true 1).texts = .ok [.ok "{ a: string; }"] ∧
      (session (withOthers (.obj [])) Namer.standard true 1).texts =
        .ok [.ok "({ a: string; } & Record<string, unknown>)"] ∧
      (session (constantAndTarget (.bool true)) Namer.standard true 1).texts =
        .ok [.ok "Partial<{ a: (true); b: unknown; }>"] ∧
      (session (constantAndTarget (.obj [])) Namer.standard true 1).texts =
        .error (.unsupportedEnumValue (.obj [])) :=
  ⟨rfl, rfl, rfl, rfl⟩

end Document

end SchemaSignature
