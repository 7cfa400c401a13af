import SchemaSignature.Document.Pointer
import SchemaSignature.Proofs.Outcome
import SchemaSignature.Proofs.Text.Lines

/-!
The references of Draft 7: to the whole document, and to one of its definitions. They lead to the
document itself, and to the value of a key under `definitions`.
-/

namespace SchemaSignature

namespace Pointer

/-- The keywords under which a document lists its definitions. -/
def definitionKeywords : List String :=
  ["definitions", "$defs"]

theorem steps_definition
    {keyword : String} (known : keyword ∈ definitionKeywords) {key : List Char}
    (onePiece : '/' ∉ key) :
    steps ('/' :: keyword.toList ++ '/' :: key) = [keyword, String.ofList (unescape key)] := by
  have ofKeyword :
      ('/' :: keyword.toList ++ '/' :: key).dropWhile (· == '/') = keyword.toList ++ '/' :: key ∧
        '/' ∉ keyword.toList ∧ String.ofList (unescape keyword.toList) = keyword := by
    simp only [definitionKeywords, List.mem_cons, List.not_mem_nil, or_false] at known
    rcases known with rfl | rfl
    · exact ⟨rfl, by decide, by decide⟩
    · exact ⟨rfl, by decide, by decide⟩
  obtain ⟨dropped, keywordPiece, unescaped⟩ := ofKeyword
  rw [steps, dropped, Text.pieces_append keywordPiece, Text.pieces_of_not_mem onePiece,
    List.map_cons, List.map_singleton, unescaped]

/-- A reference to a definition leads to a value under the keyword, if that is an object. -/
theorem exists_definition_of_resolve
    {root value : Json} {keyword key : String} (known : keyword ∈ definitionKeywords)
    (onePiece : '/' ∉ key.toList)
    (resolved : resolve root ("#/" ++ keyword ++ "/" ++ key) = .ok value) :
    ∃ keywords definitions, root = .obj keywords ∧
      Json.member? keywords keyword = some definitions ∧
      ∀ members, definitions = .obj members → ∃ name, (name, value) ∈ members := by
  have characters : ("#/" ++ keyword ++ "/" ++ key).toList =
      '#' :: ('/' :: keyword.toList ++ '/' :: key.toList) := by
    simp only [String.toList_append, List.append_assoc]
    rfl
  unfold resolve at resolved
  rw [characters] at resolved
  simp only at resolved
  have notEmpty : ¬('/' :: keyword.toList ++ '/' :: key.toList).isEmpty = true :=
    Bool.false_ne_true
  rw [if_neg notEmpty, steps_definition known onePiece] at resolved
  obtain ⟨definitions, stepped, resolved⟩ := Outcome.bind_eq_ok_iff.mp resolved
  obtain ⟨last, followed, same⟩ := Outcome.bind_eq_ok_iff.mp resolved
  cases same
  cases root with
  | obj keywords =>
      refine ⟨keywords, definitions, rfl, ?_, ?_⟩
      · unfold follow at stepped
        simp only at stepped
        split at stepped
        · next found =>
            cases stepped
            exact found
        · cases stepped
      · rintro members rfl
        unfold follow at followed
        simp only at followed
        split at followed
        · next found =>
            cases followed
            exact ⟨_, Json.mem_of_member? found⟩
        · cases followed
  | arr items =>
      have notAPlace : (!keyword.isEmpty && keyword.toList.all Text.isDigit) = false := by
        simp only [definitionKeywords, List.mem_cons, List.not_mem_nil, or_false] at known
        rcases known with rfl | rfl <;> decide
      rw [follow, notAPlace] at stepped
      cases stepped
  | _ => cases stepped

end Pointer

end SchemaSignature
