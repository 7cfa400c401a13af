import SchemaSignature.Document.Draft
import SchemaSignature.Proofs.Json.Quoting

/-!
The names of fields tell properties apart, also in front of the colon that a field has behind its
name: an identifier has no colon in it, and a JSON string ends with a quotation mark.
-/

namespace SchemaSignature

open Text

theorem Text.exists_identifierStart {text : String} (isIdentifier : isIdentifier text = true) :
    ∃ c rest, text.toList = c :: rest ∧ isIdentifierStart c = true ∧
      rest.all isIdentifierContinue = true := by
  unfold Text.isIdentifier at isIdentifier
  split at isIdentifier
  · cases isIdentifier
  · next c rest characters =>
      rw [Bool.and_eq_true] at isIdentifier
      exact ⟨c, rest, characters, isIdentifier⟩

/-- A character that can stand nowhere in an identifier is not in one. -/
theorem Text.not_mem_of_isIdentifier
    {text : String} (isIdentifier : isIdentifier text = true) {c : Char}
    (neverFirst : isIdentifierStart c = false) (neverLater : isIdentifierContinue c = false) :
    c ∉ text.toList := by
  obtain ⟨first, rest, characters, starts, continues⟩ := exists_identifierStart isIdentifier
  intro isChar
  rw [characters] at isChar
  rcases List.mem_cons.mp isChar with rfl | isLater
  · rw [neverFirst] at starts
    cases starts
  · rw [List.all_eq_true.mp continues c isLater] at neverLater
    cases neverLater

theorem Text.ne_colon_of_isIdentifier {text : String} (isIdentifier : isIdentifier text = true) :
    ∀ c ∈ text.toList, (c != ':') = true := by
  intro c isChar
  rw [bne_iff_ne]
  rintro rfl
  exact not_mem_of_isIdentifier isIdentifier (by decide) (by decide) isChar

/-- An identifier and a JSON string begin differently. -/
theorem identifier_append_ne_quote
    {text : String} (isIdentifier : Text.isIdentifier text = true) (other : String)
    (rest otherRest : List Char) :
    text.toList ++ rest ≠ (Json.quote other).toList ++ otherRest := by
  intro same
  obtain ⟨c, more, characters, starts, _⟩ := Text.exists_identifierStart isIdentifier
  rw [characters, Json.toList_quote] at same
  have isQuotation : c = '"' := (List.cons.inj same).1
  rw [isQuotation] at starts
  exact absurd starts (by decide)

/-- The name of a field can be split off in front of a colon, and determines the property. -/
theorem fieldName_append_inj
    {property other : String} {rest otherRest : List Char}
    (same : (fieldName property).toList ++ ':' :: rest =
      (fieldName other).toList ++ ':' :: otherRest) :
    property = other ∧ rest = otherRest := by
  unfold fieldName at same
  split at same
  · next isIdentifier =>
      split at same
      · next otherIsIdentifier =>
          have stopsAtColon (more : List Char) :
              ∀ c ∈ (':' :: more).head?, (c != ':') = false := by
            rintro c ⟨⟩
            rfl
          obtain ⟨sameChars, sameRest⟩ := append_inj_of_stops
            (ne_colon_of_isIdentifier isIdentifier) (ne_colon_of_isIdentifier otherIsIdentifier)
            (stopsAtColon rest) (stopsAtColon otherRest) same
          exact ⟨String.toList_injective sameChars, (List.cons.inj sameRest).2⟩
      · exact absurd same (identifier_append_ne_quote isIdentifier other _ _)
  · split at same
    · next otherIsIdentifier =>
        exact absurd same.symm (identifier_append_ne_quote otherIsIdentifier property _ _)
    · obtain ⟨sameProperty, sameRest⟩ := Json.quote_append_inj same
      exact ⟨sameProperty, (List.cons.inj sameRest).2⟩

theorem fieldName_injective {property other : String}
    (same : fieldName property = fieldName other) : property = other := by
  have sameInFront : (fieldName property).toList ++ [':'] = (fieldName other).toList ++ [':'] := by
    rw [same]
  exact (fieldName_append_inj sameInFront).1

theorem beginsInside_fieldName (property : String) : BeginsInside (fieldName property).toList := by
  unfold fieldName
  split
  · next isIdentifier =>
      obtain ⟨c, rest, characters, starts, _⟩ := exists_identifierStart isIdentifier
      have noSign : (rowSigns.all fun sign => !isIdentifierStart sign) = true := by decide
      rw [characters]
      exact beginsInside_of_test noSign starts rest
  · exact ⟨'"', _, Json.toList_quote property, by decide⟩

end SchemaSignature
