import SchemaSignature.Document.Session
import SchemaSignature.Proofs.Json.Tokens
import SchemaSignature.Proofs.Signature.Beginnings
import SchemaSignature.Proofs.Signature.Construction

/-!
Lists of literals. The text of a list of strings, whole numbers and truth values is its JSON tokens
between round brackets, with a bar between blanks from each one to the next, and reading the tokens in
turn gives the values back: a token is read to its end before a bar or a bracket is looked for, so
those inside of strings do not matter.
-/

namespace SchemaSignature

open Text (Row EndsNumber)

namespace Construction

/-! ## Reading tokens in turn -/

/-- The values of the tokens of a text that ends with a closing bracket. No more tokens than the bound
are read. -/
def readTokens? : Nat → List Char → Option (List Json)
  | 0, _ => none
  | bound + 1, text =>
      match Json.readToken? text with
      | some (value, [')']) => some [value]
      | some (value, ' ' :: '|' :: ' ' :: behind) => (readTokens? bound behind).map (value :: ·)
      | _ => none

/-- The values that are listed between round brackets. -/
def readListing? (text : String) : Option (List Json) :=
  match text.toList with
  | '(' :: inside => readTokens? inside.length inside
  | _ => none

/-- What stands between the brackets of a list of values and what closes it. -/
abbrev listingRow : Row :=
  Grouping.union.row

/-- Every token behind the first one takes up characters of its own. -/
theorem length_le_remainder (texts : List String) :
    texts.length < (listingRow.remainder listingRow.separator.toList texts).length := by
  induction texts with
  | nil => decide
  | cons text texts inductionHypothesis =>
      have separated : 0 < listingRow.separator.toList.length := by decide
      rw [Row.remainder, List.length_append, List.length_append, List.length_cons]
      omega

theorem readTokens?_remainder
    {first : Json} {rest : List Json} (isToken : first.IsToken)
    (tokens : ∀ value ∈ rest, value.IsToken) {bound : Nat} (enough : rest.length < bound) :
    readTokens? bound (first.encode.toList ++
      listingRow.remainder listingRow.separator.toList (rest.map Json.encode)) =
      some (first :: rest) := by
  induction rest generalizing first bound with
  | nil =>
      obtain ⟨bound, rfl⟩ := Nat.exists_eq_add_one_of_ne_zero (Nat.ne_of_gt enough)
      have ends : EndsNumber [')'] := by
        rintro c ⟨⟩
        rfl
      have closing : listingRow.remainder listingRow.separator.toList [] = [')'] := rfl
      rw [List.map_nil, closing, readTokens?, Json.readToken?_encode isToken ends]
      rfl
  | cons next others inductionHypothesis =>
      obtain ⟨bound, rfl⟩ := Nat.exists_eq_add_one_of_ne_zero (Nat.ne_of_gt (Nat.zero_lt_of_lt enough))
      have read := inductionHypothesis (tokens next List.mem_cons_self)
        (fun value later => tokens value (List.mem_cons_of_mem _ later)) (Nat.lt_of_succ_lt_succ enough)
      have ends (behind : List Char) : EndsNumber (' ' :: '|' :: ' ' :: behind) := by
        rintro c ⟨⟩
        rfl
      have separated : listingRow.separator.toList = [' ', '|', ' '] := rfl
      rw [separated] at read ⊢
      rw [List.map_cons, Row.remainder, readTokens?, separated]
      simp only [List.cons_append, List.nil_append]
      rw [Json.readToken?_encode isToken (ends _)]
      simp only [read, Option.map_some]

/-! ## Lists of literals -/

theorem text_of_ofJson?
    {value : Json} {literal : Literal} (found : Literal.ofJson? value = some literal) :
    literal.text = value.encode := by
  cases value <;> cases found <;> rfl

theorem isSome_ofJson?_of_isToken {value : Json} (isToken : value.IsToken) :
    (Literal.ofJson? value).isSome = true := by
  cases value with
  | str text => rfl
  | int value => rfl
  | bool value => rfl
  | _ => cases isToken

theorem texts_of_literals
    {values : List Json} {listed : List Literal}
    (each : List.Forall₂ (fun value literal => Literal.ofJson? value = some literal) values listed) :
    listed.map Literal.text = values.map Json.encode := by
  induction each with
  | nil => rfl
  | cons found _ inductionHypothesis =>
      rw [List.map_cons, List.map_cons, text_of_ofJson? found, inductionHypothesis]

theorem readListing?_of_literals
    {values : List Json} (present : values ≠ []) (tokens : ∀ value ∈ values, value.IsToken)
    {listed : List Literal}
    (each : List.Forall₂ (fun value literal => Literal.ofJson? value = some literal) values listed) :
    readListing? (Node.literals listed : Signature).text = some values := by
  obtain ⟨first, rest, rfl⟩ := List.exists_cons_of_ne_nil present
  have enough : rest.length <
      (first.encode.toList ++ listingRow.remainder listingRow.separator.toList
        (rest.map Json.encode)).length := by
    have counted := length_le_remainder (rest.map Json.encode)
    rw [List.length_map] at counted
    rw [List.length_append]
    omega
  have opening : Opening.round.text.toList = ['('] := rfl
  rw [readListing?, Node.toList_text_literals, texts_of_literals each, List.map_cons,
    Row.toList_text_cons, opening, List.singleton_append]
  exact readTokens?_remainder (tokens first List.mem_cons_self)
    (fun value later => tokens value (List.mem_cons_of_mem _ later)) enough

/-- A string that holds a bar and one that closes a bracket, a number below zero, and a truth value
beside the number that it counts as. -/
def awkwardValues : List Json :=
  [.str "a | \"b\"", .str ")\n", .int (-120), .bool true, .int 1]

end Construction

end SchemaSignature
