/-!
Cutting a text at a separator. A text without separators is one piece, so there is always one piece
more than there are separators.
-/

namespace SchemaSignature.Text

/-- Puts a character in front of the first of several pieces. -/
def prependToFirst (c : Char) : List (List Char) → List (List Char)
  | [] => [[c]]
  | first :: others => (c :: first) :: others

def pieces (separator : Char) : List Char → List (List Char)
  | [] => [[]]
  | c :: rest =>
      if c = separator then [] :: pieces separator rest
      else prependToFirst c (pieces separator rest)

def piecesOf (separator : Char) (text : String) : List String :=
  (pieces separator text.toList).map String.ofList

theorem prependToFirst_ne_nil (c : Char) (listed : List (List Char)) :
    prependToFirst c listed ≠ [] := by
  cases listed <;> simp [prependToFirst]

theorem length_prependToFirst
    (c : Char) {listed : List (List Char)} (notEmpty : listed ≠ []) :
    (prependToFirst c listed).length = listed.length := by
  cases listed with
  | nil => exact absurd rfl notEmpty
  | cons first others => rfl

theorem pieces_ne_nil (separator : Char) (text : List Char) : pieces separator text ≠ [] := by
  cases text with
  | nil => simp [pieces]
  | cons c rest =>
      simp only [pieces]
      split
      · simp
      · exact prependToFirst_ne_nil c _

theorem length_pieces (separator : Char) (text : List Char) :
    (pieces separator text).length = text.count separator + 1 := by
  induction text with
  | nil => simp [pieces]
  | cons c rest inductionHypothesis =>
      by_cases same : c = separator
      · simp [pieces, same, inductionHypothesis]
      · have sameLength := length_prependToFirst c (pieces_ne_nil separator rest)
        simp [pieces, same, sameLength, inductionHypothesis]

end SchemaSignature.Text
