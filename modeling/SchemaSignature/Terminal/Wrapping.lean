import SchemaSignature.Text.Digit
import SchemaSignature.Text.Width

/-!
Fitting a line of text into a number of columns. A line is broken behind blanks. A word that is wider
than the room is folded over several lines, or left to be cut off.
-/

namespace SchemaSignature.Terminal

/-- Where a scan for words stands: in front of the first word, in a word, or in the blanks behind
one. -/
inductive WordPhase where
  | before
  | inside
  | behind
  deriving DecidableEq, Repr

/-- The words of a text with the blanks behind them, the first one also with those in front of it.
The characters of the word that has been started are given in reverse. -/
def wordsFrom (phase : WordPhase) (reversed : List Char) : List Char → List (List Char)
  | [] => if phase = .before then [] else [reversed.reverse]
  | c :: rest =>
      match phase, Text.isSpace c with
      | .before, true => wordsFrom .before (c :: reversed) rest
      | .inside, true => wordsFrom .behind (c :: reversed) rest
      | .behind, true => wordsFrom .behind (c :: reversed) rest
      | .behind, false => reversed.reverse :: wordsFrom .inside [c] rest
      | _, false => wordsFrom .inside (c :: reversed) rest

/-- The words of a text with the blanks around them. -/
def words (text : List Char) : List (List Char) :=
  wordsFrom .before [] text

def withoutTrailingBlanks (text : List Char) : List Char :=
  (text.reverse.dropWhile Text.isSpace).reverse

/-- What may be done with a word that is wider than the room. -/
inductive WideWord where
  | folded
  | cut
  deriving DecidableEq, Repr

/-- Clusters folded over lines of some width, behind a line that has been started. -/
def foldClusters (width : Nat) (line : List Char) (used : Nat) :
    List Text.Cluster → List (List Char × Nat)
  | [] => if used = 0 then [] else [(line, used)]
  | first :: rest =>
      if width < used + first.columns then
        (line, used) :: foldClusters width first.text first.columns rest
      else foldClusters width (line ++ first.text) (used + first.columns) rest

/-- A word folded over lines of some width, each with the columns that it takes. -/
def foldWord (width : Nat) (word : List Char) : List (List Char × Nat) :=
  foldClusters width [] 0 (Text.clusters word)

/-- Breaks words into lines, behind a line that has been started. -/
def breakWords (wide : WideWord) (width : Nat) (line : List Char) (used : Nat) :
    List (List Char) → List (List Char)
  | [] => [line]
  | word :: rest =>
      let needed := Text.columns (withoutTrailingBlanks word)
      let started := if line.isEmpty then [] else [line]
      if used + needed ≤ width then
        breakWords wide width (line ++ word) (used + Text.columns word) rest
      else if needed ≤ width || wide = .cut then
        started ++ breakWords wide width word (Text.columns word) rest
      else
        let folded := foldWord width word
        match folded.getLast? with
        | some (last, lastUsed) =>
            started ++ folded.dropLast.map Prod.fst ++ breakWords wide width last lastUsed rest
        | none => breakWords wide width line used rest

/-- A text with blanks at its end left out as far as it has more characters than the width. -/
def trimExcess (width : Nat) (text : List Char) : List Char :=
  let blanks := text.length - (withoutTrailingBlanks text).length
  text.take (text.length - min blanks (text.length - width))

def ellipsis : Char := '…'

def cropped (width : Nat) (line : List Char) : List Char :=
  if Text.columns line ≤ width then line else Text.cutToColumns width line

/-- A line cut to a width, with a sign that something is left out. -/
def shortened (width : Nat) (line : List Char) : List Char :=
  if Text.columns line ≤ width then line else Text.cutToColumns (width - 1) line ++ [ellipsis]

def wrapped (wide : WideWord) (width : Nat) (line : List Char) : List (List Char) :=
  let lines := if (words line).isEmpty then [line] else breakWords wide width [] 0 (words line)
  lines.map (trimExcess width)

end SchemaSignature.Terminal
