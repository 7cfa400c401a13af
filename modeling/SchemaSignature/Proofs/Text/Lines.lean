import SchemaSignature.Text.Pieces

/-!
Lines of text. A text can be cut at a separator between pieces that have none, and so it can be cut
into its lines again if no line has a break in it.
-/

namespace SchemaSignature.Text

theorem pieces_of_not_mem {separator : Char} {text : List Char} (absent : separator ∉ text) :
    pieces separator text = [text] := by
  induction text with
  | nil => rfl
  | cons c rest inductionHypothesis =>
      have different : c ≠ separator := fun same => absent (same ▸ List.mem_cons_self)
      have restAbsent : separator ∉ rest := fun present => absent (List.mem_cons_of_mem _ present)
      rw [pieces, if_neg different, inductionHypothesis restAbsent]
      rfl

theorem pieces_append {separator : Char} {front : List Char} (absent : separator ∉ front)
    (rest : List Char) :
    pieces separator (front ++ separator :: rest) = front :: pieces separator rest := by
  induction front with
  | nil => rw [List.nil_append, pieces, if_pos rfl]
  | cons c others inductionHypothesis =>
      have different : c ≠ separator := fun same => absent (same ▸ List.mem_cons_self)
      have othersAbsent : separator ∉ others := fun present =>
        absent (List.mem_cons_of_mem _ present)
      rw [List.cons_append, pieces, if_neg different, inductionHypothesis othersAbsent]
      rfl

/-! ## Lines -/

/-- A text without line breaks. -/
def OneLine (text : String) : Prop :=
  '\n' ∉ text.toList

instance : DecidablePred OneLine :=
  fun text => inferInstanceAs (Decidable ('\n' ∉ text.toList))

theorem oneLine_ofList {text : List Char} (isLine : '\n' ∉ text) : OneLine (String.ofList text) := by
  unfold OneLine
  rwa [String.toList_ofList]

theorem OneLine.append {front rest : String} (isLine : OneLine front) (restIsLine : OneLine rest) :
    OneLine (front ++ rest) := by
  unfold OneLine
  rw [String.toList_append]
  exact List.not_mem_append isLine restIsLine

theorem OneLine.intercalate
    {separator : String} (isLine : OneLine separator) {texts : List String}
    (each : ∀ text ∈ texts, OneLine text) : OneLine (separator.intercalate texts) := by
  unfold OneLine
  rw [String.toList_intercalate]
  induction texts with
  | nil => exact List.not_mem_nil
  | cons first rest inductionHypothesis =>
      have firstIsLine := each first List.mem_cons_self
      have others := inductionHypothesis fun text later => each text (List.mem_cons_of_mem _ later)
      cases rest with
      | nil => simpa [OneLine] using firstIsLine
      | cons next rest =>
          rw [List.map_cons, List.map_cons, List.intercalate_cons_cons]
          exact List.not_mem_append (List.not_mem_append firstIsLine isLine) others

/-- The text of lines, each with a break behind it. -/
def terminated : List String → String
  | [] => ""
  | line :: rest => line ++ "\n" ++ terminated rest

theorem terminated_append (lines rest : List String) :
    terminated (lines ++ rest) = terminated lines ++ terminated rest := by
  induction lines with
  | nil => exact String.empty_append.symm
  | cons line lines inductionHypothesis =>
      rw [List.cons_append, terminated, terminated, inductionHypothesis, ← String.append_assoc]

theorem intercalate_append_break {lines : List String} (present : lines ≠ []) :
    "\n".intercalate lines ++ "\n" = terminated lines := by
  induction lines with
  | nil => exact absurd rfl present
  | cons line rest inductionHypothesis =>
      cases rest with
      | nil => simp [terminated]
      | cons next rest =>
          rw [String.intercalate_cons_cons, String.append_assoc,
            inductionHypothesis (List.cons_ne_nil next rest)]
          rfl

/-- Lines can be read back: behind the last one there is an empty piece. -/
theorem piecesOf_terminated {lines : List String} (each : ∀ line ∈ lines, OneLine line) :
    piecesOf '\n' (terminated lines) = lines ++ [""] := by
  induction lines with
  | nil => rfl
  | cons line rest inductionHypothesis =>
      have isLine := each line List.mem_cons_self
      have others := inductionHypothesis fun line later => each line (List.mem_cons_of_mem _ later)
      have written : (terminated (line :: rest)).toList =
          line.toList ++ '\n' :: (terminated rest).toList := by
        rw [terminated, String.toList_append, String.toList_append, List.append_assoc]
        rfl
      unfold piecesOf at others ⊢
      rw [written, pieces_append isLine, List.map_cons, String.ofList_toList, others, List.cons_append]

end SchemaSignature.Text
