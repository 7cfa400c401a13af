import SchemaSignature.Json.Display
import SchemaSignature.Json.Encoding

/-!
Reports of what is wrong with a schema document: where, what, which check failed, what it expected
and what it found. A list of reports is put in order by place, then by check, then by message, and
last by what was expected and found.
-/

namespace SchemaSignature.Document

structure Report where
  path : List String
  message : String
  check : String
  expected : Json
  actual : Json
  deriving Repr

namespace Report

/-- The place of a report as a text: its steps with a dot before each. -/
def place (report : Report) : String :=
  if report.path.isEmpty then "root"
  else "." ++ ".".intercalate report.path

/-- The texts that the order of reports goes by, most significant first. -/
def sortKey (report : Report) : List String :=
  [report.place, report.check, report.message, report.expected.encode, report.actual.encode]

def precedes (left right : Report) : Bool :=
  !(right.sortKey < left.sortKey)

def sort (reports : List Report) : List Report :=
  reports.mergeSort precedes

/-- The lines on a report in a numbered list. -/
def lines (number : Nat) (report : Report) : List String :=
  ["\n  " ++ toString number ++ ". At " ++ report.place ++ ": " ++ report.message,
   "     Expected: " ++ report.expected.plain,
   "     Got: " ++ report.actual.plain]

/-- The lines on several reports, numbered from the given number on. -/
def numberedLines (number : Nat) : List Report → List String
  | [] => []
  | report :: rest => report.lines number ++ numberedLines (number + 1) rest

def listText (reports : List Report) : String :=
  if reports.isEmpty then "No validation errors"
  else
    "\n".intercalate <|
      ("Schema check failed with " ++ toString reports.length ++ " error(s):") ::
        numberedLines 1 reports

end Report

end SchemaSignature.Document
