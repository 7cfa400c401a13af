import SchemaSignature.Json.Encoding
import SchemaSignature.Proofs.Text.Reading

/-!
JSON strings tell texts apart. No written character is the beginning of another one, so that a JSON
string can be read back from left to right.
-/

namespace SchemaSignature.Json

/-- The characters that are not written as they are. -/
def escapedChars : List Char :=
  '"' :: '\\' :: (List.range 32).map Char.ofNat

theorem quoteChar_of_not_mem {c : Char} (plain : c ∉ escapedChars) : quoteChar c = [c] := by
  have notControl : ¬c.toNat < 32 := by
    intro control
    apply plain
    rw [← Char.ofNat_toNat c]
    exact List.mem_cons_of_mem _ (List.mem_cons_of_mem _
      (List.mem_map.mpr ⟨c.toNat, List.mem_range.mpr control, rfl⟩))
  have differs : ∀ other ∈ escapedChars, c ≠ other := fun other isEscaped same =>
    plain (same ▸ isEscaped)
  have quotation : c ≠ '"' := differs _ (by decide)
  have backslash : c ≠ '\\' := differs _ (by decide)
  have newline : c ≠ '\n' := differs _ (by decide)
  have carriageReturn : c ≠ '\r' := differs _ (by decide)
  have tab : c ≠ '\t' := differs _ (by decide)
  have backspace : c.toNat ≠ 8 := by omega
  have formFeed : c.toNat ≠ 12 := by omega
  rw [quoteChar, if_neg quotation, if_neg backslash, if_neg newline, if_neg carriageReturn,
    if_neg tab, if_neg backspace, if_neg formFeed, if_neg notControl]

theorem all_quoteChar :
    (escapedChars.all fun c => (quoteChar c).head? == some '\\' &&
      escapedChars.all fun other =>
        !(quoteChar c).isPrefixOf (quoteChar other) || c == other) = true := by
  decide +kernel

theorem quoteChar_of_mem {c : Char} (isEscaped : c ∈ escapedChars) :
    (quoteChar c).head? = some '\\' ∧
      ∀ other ∈ escapedChars, (quoteChar c).isPrefixOf (quoteChar other) = true → c = other := by
  have checked := List.all_eq_true.mp all_quoteChar c isEscaped
  rw [Bool.and_eq_true, beq_iff_eq] at checked
  refine ⟨checked.1, ?_⟩
  intro other otherEscaped isBeginning
  have apart := List.all_eq_true.mp checked.2 other otherEscaped
  rw [isBeginning] at apart
  exact beq_iff_eq.mp apart

/-- No written character is the beginning of another one. -/
theorem eq_of_quoteChar_begins
    {c other : Char} (isBeginning : quoteChar c <+: quoteChar other) : c = other := by
  by_cases isEscaped : c ∈ escapedChars
  · obtain ⟨startsWithBackslash, apart⟩ := quoteChar_of_mem isEscaped
    by_cases otherEscaped : other ∈ escapedChars
    · exact apart other otherEscaped (List.isPrefixOf_iff_prefix.mpr isBeginning)
    · rw [quoteChar_of_not_mem otherEscaped] at isBeginning
      cases written : quoteChar c with
      | nil =>
          rw [written] at startsWithBackslash
          cases startsWithBackslash
      | cons first rest =>
          rw [written] at startsWithBackslash isBeginning
          have isFirst := Option.some.inj startsWithBackslash
          have isOther := (List.cons_prefix_cons.mp isBeginning).1
          rw [← isOther, isFirst] at otherEscaped
          exact absurd (by decide) otherEscaped
  · rw [quoteChar_of_not_mem isEscaped] at isBeginning
    by_cases otherEscaped : other ∈ escapedChars
    · have startsWithBackslash := (quoteChar_of_mem otherEscaped).1
      obtain ⟨rest, written⟩ := isBeginning
      rw [← written] at startsWithBackslash
      have isBackslash : c = '\\' := Option.some.inj startsWithBackslash
      rw [isBackslash] at isEscaped
      exact absurd (by decide) isEscaped
    · rw [quoteChar_of_not_mem otherEscaped] at isBeginning
      exact (List.cons_prefix_cons.mp isBeginning).1

/-- A written character can be split off the front of a longer text. -/
theorem quoteChar_append_inj
    {c other : Char} {rest otherRest : List Char}
    (same : quoteChar c ++ rest = quoteChar other ++ otherRest) :
    c = other ∧ rest = otherRest := by
  obtain ⟨sameChars, sameRest⟩ := Text.append_inj_of_begins
    (fun begins => congrArg quoteChar (eq_of_quoteChar_begins begins))
    (fun begins => congrArg quoteChar (eq_of_quoteChar_begins begins)) same
  exact ⟨eq_of_quoteChar_begins (sameChars ▸ List.prefix_rfl), sameRest⟩

/-- No written character begins with a quotation mark. -/
theorem quoteChar_append_ne (c : Char) (more rest : List Char) :
    quoteChar c ++ more ≠ '"' :: rest := by
  intro same
  by_cases isEscaped : c ∈ escapedChars
  · have startsWithBackslash := (quoteChar_of_mem isEscaped).1
    cases written : quoteChar c with
    | nil =>
        rw [written] at startsWithBackslash
        cases startsWithBackslash
    | cons first others =>
        rw [written] at startsWithBackslash same
        have isBackslash : first = '\\' := Option.some.inj startsWithBackslash
        have isQuotation : first = '"' := (List.cons.inj same).1
        exact absurd (isBackslash.symm.trans isQuotation) (by decide)
  · rw [quoteChar_of_not_mem isEscaped] at same
    have isQuotation : c = '"' := (List.cons.inj same).1
    rw [isQuotation] at isEscaped
    exact absurd (by decide) isEscaped

theorem quoted_append_inj
    {text other rest otherRest : List Char}
    (same : text.flatMap quoteChar ++ '"' :: rest = other.flatMap quoteChar ++ '"' :: otherRest) :
    text = other ∧ rest = otherRest := by
  induction text generalizing other with
  | nil =>
      cases other with
      | nil => exact ⟨rfl, (List.cons.inj same).2⟩
      | cons c others =>
          rw [List.flatMap_nil, List.nil_append, List.flatMap_cons, List.append_assoc] at same
          exact absurd same.symm (quoteChar_append_ne c _ _)
  | cons c more inductionHypothesis =>
      cases other with
      | nil =>
          rw [List.flatMap_nil, List.nil_append, List.flatMap_cons, List.append_assoc] at same
          exact absurd same (quoteChar_append_ne c _ _)
      | cons otherChar others =>
          rw [List.flatMap_cons, List.flatMap_cons, List.append_assoc, List.append_assoc] at same
          obtain ⟨rfl, sameMore⟩ := quoteChar_append_inj same
          obtain ⟨rfl, sameRest⟩ := inductionHypothesis sameMore
          exact ⟨rfl, sameRest⟩

theorem toList_quote (text : String) :
    (quote text).toList = '"' :: (text.toList.flatMap quoteChar ++ ['"']) := by
  rw [quote, String.toList_ofList, List.cons_append]

/-- A JSON string can be split off the front of a longer text. -/
theorem quote_append_inj
    {text other : String} {rest otherRest : List Char}
    (same : (quote text).toList ++ rest = (quote other).toList ++ otherRest) :
    text = other ∧ rest = otherRest := by
  rw [toList_quote, toList_quote, List.cons_append, List.cons_append, List.append_assoc,
    List.append_assoc] at same
  obtain ⟨sameChars, sameRest⟩ := quoted_append_inj (List.cons.inj same).2
  exact ⟨String.toList_injective sameChars, sameRest⟩

end SchemaSignature.Json
