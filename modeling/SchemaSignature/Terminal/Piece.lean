import SchemaSignature.Terminal.Layout
import SchemaSignature.Terminal.Markup

/-!
What a command prints, as a list of pieces: lines of running text, and boxes of rows.
-/

namespace SchemaSignature.Terminal

inductive Piece where
  | lines (content : List String)
  | box (title : String) (rows : List (List String))
  deriving Repr

namespace Piece

/-- The piece that marked-up text prints. Faulty markup prints nothing. -/
def ofMarkup (markup : String) : Piece :=
  .lines ((shown? markup).elim [] textLines)

def gap : Piece :=
  .lines [""]

def header (title : String) : List Piece :=
  [gap, .lines [title, String.ofList (List.replicate title.length '=')], gap]

def separator : Piece :=
  .lines [String.ofList (List.replicate 70 '─')]

def success (markup : String) : Piece :=
  ofMarkup ("[green]✓[/green] " ++ markup)

def failure (markup : String) : Piece :=
  ofMarkup ("[red]✗[/red] " ++ markup)

def remark (markup : String) : Piece :=
  ofMarkup ("[blue]ℹ[/blue] " ++ markup)

/-- A box that shows source text, with long lines folded or cut off. -/
def panel (title : String) (wide : WideWord) (source : String) : Piece :=
  .box title ((panelRows wide source).map fun row => [row])

/-- A box with rows for each pair of texts, under two headings. -/
def table (title leftHeading rightHeading : String) (entries : List (String × String)) : Piece :=
  let widths := tableWidths leftHeading rightHeading entries
  .box title (entries.flatMap fun entry => entryRows widths entry.1 entry.2)

def textOf : Piece → List String
  | .lines content => content
  | .box _ _ => []

def rowsOf : Piece → List (List String)
  | .lines _ => []
  | .box _ rows => rows

end Piece

end SchemaSignature.Terminal
