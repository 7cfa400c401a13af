import SchemaSignature.Terminal.Wrapping
import SchemaSignature.Text.Pieces
import SchemaSignature.Text.Utf8

/-!
How text is laid out on the lines of a terminal: control characters that would move the cursor are
left out, tabs become blanks up to the next stop, and lines are fitted into the columns that there
are. Tab stops of running text and tables go by columns, those of source text by characters.
-/

namespace SchemaSignature.Terminal

/-- Control characters that would ring the bell or move the cursor. -/
def movesCursor (c : Char) : Bool :=
  [7, 8, 11, 12, 13].contains c.toNat

/-- A text without characters that would move the cursor. -/
def withoutControls (text : List Char) : List Char :=
  text.filter fun c => !movesCursor c

def terminalWidth : Nat := 6000

/-! ## Running text -/

/-- The distance of the tab stops of running text and tables. -/
def textTabs : Nat := 8

/-- The pieces of a line between its tabs put together from a column on, with each tab as a blank and
as many more as lead to the next stop. -/
def joinAtStops (column : Nat) : List (List Char) → List Char
  | [] => []
  | [last] => last
  | piece :: rest =>
      let start := piece ++ [' ']
      let reached := column + Text.columns start
      let padding := (textTabs - reached % textTabs) % textTabs
      start ++ List.replicate padding ' ' ++ joinAtStops (reached + padding) rest

def expandTabs (line : List Char) : List Char :=
  joinAtStops 0 (Text.pieces '\t' line)

def textLines (text : String) : List String :=
  (Text.pieces '\n' (withoutControls text.toList)).flatMap fun line =>
    (wrapped .folded terminalWidth (expandTabs line)).map fun fitting =>
      String.ofList (cropped terminalWidth fitting)

/-! ## Source text in panels -/

def panelTabs : Nat := 4

def panelWidth : Nat := terminalWidth - 4

/-- Source text with its tabs as blanks, from a column on. Every character counts as one column, and
a line end starts again. -/
def expandSourceTabs (column : Nat) : List Char → List Char
  | [] => []
  | c :: rest =>
      if c = '\t' then
        let blanks := panelTabs - column % panelTabs
        List.replicate blanks ' ' ++ expandSourceTabs (column + blanks) rest
      else c :: expandSourceTabs (if c = '\n' || c = '\r' then 0 else column + 1) rest

/-- A text without a byte order mark in front. -/
def withoutMark : List Char → List Char
  | '\ufeff' :: rest => rest
  | text => text

/-- Source text made ready for a panel. While it is, its last line has an end. -/
def preparedSource (source : List Char) : List Char :=
  let isClosed := source.getLast? = some '\n'
  let closed := if isClosed then source else source ++ ['\n']
  let prepared := Text.normalizeLineEnds (withoutMark (expandSourceTabs 0 closed))
  if isClosed then prepared else prepared.dropLast

/-- The rows of a panel that shows source text. Long lines are folded or cut off. -/
def panelRows (wide : WideWord) (source : String) : List String :=
  (Text.pieces '\n' (preparedSource source.toList)).flatMap fun line =>
    let shown := withoutControls line
    let rows :=
      match wide with
      | .folded => wrapped .folded panelWidth shown
      | .cut => [trimExcess panelWidth shown]
    rows.map fun row => String.ofList (cropped panelWidth row)

/-! ## Tables of two columns -/

/-- The ends of lines as far as the width of a text is concerned. -/
def endsMeasuredLine (c : Char) : Bool :=
  [10, 28, 29, 30, 0x85, 0x2028, 0x2029].contains c.toNat

/-- The lines of a text as far as its width is concerned. -/
def measuredLines (text : List Char) : List (List Char) :=
  Text.pieces '\n' (text.map fun c => if endsMeasuredLine c then '\n' else c)

/-- The columns that a text needs in a table. A tab counts as none. -/
def neededColumns (text : String) : Nat :=
  ((measuredLines (withoutControls text.toList)).map Text.columns).foldl max 0

/-- The widths of the columns of a table, apart from blanks and borders. -/
structure TableWidths where
  left : Nat
  right : Nat
  deriving Repr

/-- The columns that borders and blanks beside them take in a table. -/
def tableFrame : Nat := 7

/-- The widths for a table with the given headings and entries. The right column gives way if the
terminal is too narrow. -/
def tableWidths (leftHeading rightHeading : String) (entries : List (String × String)) :
    TableWidths :=
  let widest (texts : List String) : Nat := (texts.map neededColumns).foldl max 0
  let room := terminalWidth - tableFrame
  let left := min room (widest (leftHeading :: entries.map Prod.fst))
  { left := left
    right := min (room - left) (widest (rightHeading :: entries.map Prod.snd)) }

/-- The lines of a cell of a table, before they are fitted. -/
def cellLines (text : String) : List (List Char) :=
  (Text.pieces '\n' (withoutControls text.toList)).map expandTabs

/-- The lines of a cell of the left column, which is not broken between words. -/
def leftCell (width : Nat) (text : String) : List String :=
  (cellLines text).map fun line => String.ofList (shortened width (trimExcess width line))

/-- The lines of a cell of the right column. -/
def rightCell (width : Nat) (text : String) : List String :=
  (cellLines text).flatMap fun line =>
    (wrapped .cut width line).map fun fitting => String.ofList (shortened width fitting)

/-- The rows of a table entry, the cell with fewer lines filled up with empty ones. -/
def entryRows (widths : TableWidths) (left right : String) : List (List String) :=
  let leftLines := leftCell widths.left left
  let rightLines := rightCell widths.right right
  (List.range (max leftLines.length rightLines.length)).map fun index =>
    [leftLines.getD index "", rightLines.getD index ""]

end SchemaSignature.Terminal
