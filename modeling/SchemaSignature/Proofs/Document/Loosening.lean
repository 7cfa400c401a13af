import Mathlib.Data.List.Forall2
import SchemaSignature.Proofs.Document.Locations
import SchemaSignature.Proofs.Document.Precedence

/-!
The two schemas that accept anything: `true`, and the schema without keywords. A document is loosened
by putting the second in the place of the first wherever one chooses to. Which places of a document
hold a schema that is read, and which hold a value that is read as something else, follows the
precedence of keywords.
-/

namespace SchemaSignature

open Pointer (Location)

namespace Json

mutual

/-- A value at a place of a document, with the schema without keywords for `true` at chosen places. -/
def loosened (chosen : Location → Bool) (place : Location) : Json → Json
  | .bool true => if chosen place then .obj [] else .bool true
  | .arr items => .arr (loosenedItems chosen place 0 items)
  | .obj members => .obj (loosenedMembers chosen place members)
  | value => value

def loosenedItems (chosen : Location → Bool) (place : Location) (index : Nat) : List Json → List Json
  | [] => []
  | item :: rest =>
      item.loosened chosen (place ++ [.index index]) :: loosenedItems chosen place (index + 1) rest

def loosenedMembers (chosen : Location → Bool) (place : Location) :
    List (String × Json) → List (String × Json)
  | [] => []
  | (key, value) :: rest =>
      (key, value.loosened chosen (place ++ [.key key])) :: loosenedMembers chosen place rest

end

end Json

/-! ## What a schema reads -/

namespace Form

mutual

/-- The names of the types that a schema is read for, by the value of its type. -/
def typeNames (schema : List (String × Json)) : Json → List String
  | .null =>
      if Json.hasMember schema "properties" || Json.hasMember schema "additionalProperties" then
        ["object"]
      else if Json.hasMember schema "items" || Json.hasMember schema "prefixItems" then ["array"]
      else []
  | .str name => [name]
  | .arr types => typeNamesOfAll schema types
  | _ => []

def typeNamesOfAll (schema : List (String × Json)) : List Json → List String
  | [] => []
  | type :: rest => typeNames schema type ++ typeNamesOfAll schema rest

end

/-- No keyword decides a schema ahead of its type, and it is read for the type of the given name. -/
def IsReadFor (schema : List (String × Json)) (name : String) : Prop :=
  decisive? schema = none ∧ name ∈ typeNames schema ((Json.member? schema "type").getD .null)

/-- A schema has properties that are not null. -/
def HasProperties (schema : List (String × Json)) : Prop :=
  ∃ value, Json.member? schema "properties" = some value ∧ value ≠ .null

/-- A schema has no tuple of its own, so that its items can be one. -/
def HasNoPrefix (schema : List (String × Json)) : Prop :=
  ∀ value, Json.member? schema "prefixItems" = some value → value = .null

/-- A subschema that a schema reads, and its place below the schema. -/
inductive PartAt (schema : List (String × Json)) : Location → Json → Prop where
  | member {keyword : String} {members : List Json} {index : Nat} {part : Json}
      (decides : decisive? schema = some keyword) (known : keyword ∈ ["anyOf", "oneOf", "allOf"])
      (found : Json.member? schema keyword = some (.arr members))
      (isMember : members[index]? = some part) :
      PartAt schema [.key keyword, .index index] part
  | property {members : List (String × Json)} {name : String} {part : Json}
      (typed : IsReadFor schema "object")
      (found : Json.member? schema "properties" = some (.obj members))
      (isMember : (name, part) ∈ members) :
      PartAt schema [.key "properties", .key name] part
  | additional {part : Json} (typed : IsReadFor schema "object")
      (found : Json.member? schema "additionalProperties" = some part) :
      PartAt schema [.key "additionalProperties"] part
  | prefixItem {members : List Json} {index : Nat} {part : Json}
      (typed : IsReadFor schema "array")
      (found : Json.member? schema "prefixItems" = some (.arr members))
      (isMember : members[index]? = some part) :
      PartAt schema [.key "prefixItems", .index index] part
  | item {part : Json} (typed : IsReadFor schema "array") (noPrefix : HasNoPrefix schema)
      (found : Json.member? schema "items" = some part) (notListed : ∀ members, part ≠ .arr members) :
      PartAt schema [.key "items"] part
  | listedItem {members : List Json} {index : Nat} {part : Json}
      (typed : IsReadFor schema "array") (noPrefix : HasNoPrefix schema)
      (found : Json.member? schema "items" = some (.arr members))
      (isMember : members[index]? = some part) :
      PartAt schema [.key "items", .index index] part

/-- A place below a schema with a value that the schema reads as something else than a subschema: the
value of a keyword, a list or a table of subschemas, or, beside properties, a permission for others. -/
inductive ValueAt (schema : List (String × Json)) : Location → Prop where
  | keyword {keyword : String} {inside : Location} (decides : decisive? schema = some keyword)
      (known : keyword ∈ ["$ref", "const", "enum"]) : ValueAt schema (.key keyword :: inside)
  | list {keyword : String} (decides : decisive? schema = some keyword)
      (known : keyword ∈ ["anyOf", "oneOf", "allOf"]) : ValueAt schema [.key keyword]
  | discriminator {discriminator : List (String × Json)} {tag value : Json} {keyword : String}
      {inside : Location} (choice : Discriminates schema discriminator tag value)
      (known : keyword ∈ ["propertyName", "mapping"]) :
      ValueAt schema (.key "discriminator" :: .key keyword :: inside)
  | type {inside : Location} (decides : decisive? schema = none) :
      ValueAt schema (.key "type" :: inside)
  | properties (typed : IsReadFor schema "object") : ValueAt schema [.key "properties"]
  | required {inside : Location} (typed : IsReadFor schema "object") (listed : HasProperties schema) :
      ValueAt schema (.key "required" :: inside)
  | permission (typed : IsReadFor schema "object") (listed : HasProperties schema) :
      ValueAt schema [.key "additionalProperties"]
  | prefixItems (typed : IsReadFor schema "array") : ValueAt schema [.key "prefixItems"]

end Form

namespace Document

/-- A schema that is read in a document, and its place. -/
inductive ReadAt (root : Json) : Location → Json → Prop where
  | document : ReadAt root [] root
  | part {place path : Location} {schema : List (String × Json)} {part : Json}
      (read : ReadAt root place (.obj schema)) (isPart : Form.PartAt schema path part) :
      ReadAt root (place ++ path) part
  | target {place location : Location} {schema : List (String × Json)} {reference : String}
      {value : Json} (read : ReadAt root place (.obj schema))
      (refers : Json.member? schema "$ref" = some (.str reference))
      (located : Pointer.locate? root reference = some location)
      (isValue : Pointer.valueAt? root location = some value) :
      ReadAt root location value

/-- A schema of which a discriminator reads the tag, and its place: a member of a choice, or what the
reference of a member points to. -/
inductive TaggedAt (root tag : Json) : Location → List (String × Json) → Prop where
  | member {place : Location} {schema discriminator keywords : List (String × Json)}
      {members : List Json} {index : Nat} (read : ReadAt root place (.obj schema))
      (choice : Form.Discriminates schema discriminator tag (.arr members))
      (isMember : members[index]? = some (.obj keywords))
      (own : Json.member? keywords "$ref" = none) :
      TaggedAt root tag (place ++ [.key "oneOf", .index index]) keywords
  | target {place location : Location} {schema discriminator keywords target : List (String × Json)}
      {members : List Json} {reference : String} (read : ReadAt root place (.obj schema))
      (choice : Form.Discriminates schema discriminator tag (.arr members))
      (isMember : .obj keywords ∈ members)
      (refers : Json.member? keywords "$ref" = some (.str reference))
      (located : Pointer.locate? root reference = some location)
      (isTarget : Pointer.valueAt? root location = some (.obj target)) :
      TaggedAt root tag location target

/-- A place of a document with a value that is read as something else than a schema. -/
inductive ReadOtherwise (root : Json) : Location → Prop where
  | value {place path : Location} {schema : List (String × Json)}
      (read : ReadAt root place (.obj schema)) (isValue : Form.ValueAt schema path) :
      ReadOtherwise root (place ++ path)
  /-- The properties in which a field is looked up whose name is none. -/
  | fields {place : Location} {tag : Json} {schema : List (String × Json)}
      (tagged : TaggedAt root tag place schema) (noKey : tag.isKey = false) :
      ReadOtherwise root (place ++ [.key "properties"])
  /-- The values of the field that tells the members of a choice apart. -/
  | tags {place : Location} {name : String} {schema properties discriminant : List (String × Json)}
      (tagged : TaggedAt root (.str name) place schema)
      (table : Json.member? schema "properties" = some (.obj properties))
      (field : Json.member? properties name = some (.obj discriminant))
      (noConst : Json.member? discriminant "const" = none) :
      ReadOtherwise root (place ++ [.key "properties", .key name, .key "enum"])

end Document

/-! ## Loosened values -/

namespace Json

section Loosened

variable {chosen : Location → Bool} {place : Location}

theorem member?_loosenedMembers (members : List (String × Json)) (key : String) :
    member? (loosenedMembers chosen place members) key =
      (member? members key).map (loosened chosen (place ++ [.key key])) := by
  induction members with
  | nil => rfl
  | cons first rest inductionHypothesis =>
      obtain ⟨name, value⟩ := first
      simp only [member?] at inductionHypothesis ⊢
      rw [loosenedMembers, List.lookup_cons, List.lookup_cons, inductionHypothesis]
      by_cases same : key = name
      · rw [same, beq_self_eq_true]
        rfl
      · rw [beq_false_of_ne same]

theorem hasMember_loosenedMembers (members : List (String × Json)) (key : String) :
    hasMember (loosenedMembers chosen place members) key = hasMember members key := by
  rw [hasMember, member?_loosenedMembers, Option.isSome_map, hasMember]

theorem getElem?_loosenedItems (items : List Json) (start index : Nat) :
    (loosenedItems chosen place start items)[index]? =
      (items[index]?).map (loosened chosen (place ++ [.index (start + index)])) := by
  induction items generalizing start index with
  | nil => rfl
  | cons first rest inductionHypothesis =>
      rw [loosenedItems]
      cases index with
      | zero => rfl
      | succ index =>
          rw [List.getElem?_cons_succ, List.getElem?_cons_succ, inductionHypothesis,
            Nat.add_assoc, Nat.add_comm 1 index]

theorem forall₂_loosenedItems
    {related : Json → Json → Prop} {items : List Json} (start : Nat)
    (each : ∀ index item, items[index]? = some item →
      related item (item.loosened chosen (place ++ [.index (start + index)]))) :
    List.Forall₂ related items (loosenedItems chosen place start items) := by
  induction items generalizing start with
  | nil => exact .nil
  | cons first rest inductionHypothesis =>
      refine .cons (each 0 first rfl) (inductionHypothesis (start + 1) fun index item isItem => ?_)
      have related := each (index + 1) item isItem
      rwa [Nat.add_assoc, Nat.add_comm 1 index]

theorem keys_loosenedMembers (members : List (String × Json)) :
    (loosenedMembers chosen place members).map Prod.fst = members.map Prod.fst := by
  induction members with
  | nil => rfl
  | cons first rest inductionHypothesis =>
      rw [loosenedMembers, List.map_cons, List.map_cons, inductionHypothesis]

theorem loosened_true_cases (chosen : Location → Bool) (place : Location) :
    (Json.bool true).loosened chosen place = .bool true ∨
      (Json.bool true).loosened chosen place = .obj [] := by
  rw [loosened]
  cases chosen place with
  | false => exact Or.inl rfl
  | true => exact Or.inr rfl

theorem loosened_true (notChosen : chosen place = false) :
    (Json.bool true).loosened chosen place = .bool true := by
  rw [loosened, notChosen, if_neg Bool.false_ne_true]

mutual

/-- Nothing changes if no place in a value is chosen. -/
theorem loosened_eq_self :
    (value : Json) → {place : Location} → (∀ inside, chosen (place ++ inside) = false) →
      value.loosened chosen place = value
  | .bool true, place, notChosen => by
      have notHere := notChosen []
      rw [List.append_nil] at notHere
      exact loosened_true notHere
  | .bool false, _, _ | .null, _, _ | .int _, _, _ | .float _, _, _ | .str _, _, _ => rfl
  | .arr items, place, notChosen => by
      rw [loosened, loosenedItems_eq_self items notChosen]
  | .obj members, place, notChosen => by
      rw [loosened, loosenedMembers_eq_self members notChosen]

theorem loosenedItems_eq_self :
    (items : List Json) → {place : Location} → {start : Nat} →
      (∀ inside, chosen (place ++ inside) = false) → loosenedItems chosen place start items = items
  | [], _, _, _ => rfl
  | item :: rest, place, start, notChosen => by
      have notInItem : ∀ inside, chosen (place ++ [.index start] ++ inside) = false := by
        intro inside
        rw [List.append_assoc]
        exact notChosen _
      rw [loosenedItems, loosened_eq_self item notInItem, loosenedItems_eq_self rest notChosen]

theorem loosenedMembers_eq_self :
    (members : List (String × Json)) → {place : Location} →
      (∀ inside, chosen (place ++ inside) = false) → loosenedMembers chosen place members = members
  | [], _, _ => rfl
  | (key, value) :: rest, place, notChosen => by
      have notInValue : ∀ inside, chosen (place ++ [.key key] ++ inside) = false := by
        intro inside
        rw [List.append_assoc]
        exact notChosen _
      rw [loosenedMembers, loosened_eq_self value notInValue, loosenedMembers_eq_self rest notChosen]

end

end Loosened

end Json

end SchemaSignature
