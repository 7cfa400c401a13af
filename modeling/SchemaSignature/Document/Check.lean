import SchemaSignature.Document.MetaSchema
import SchemaSignature.Document.Support

/-!
The check of a schema document: its shape first, and if nothing is wrong with it, whether it is in
the supported subset.
-/

namespace SchemaSignature.Document

/-- The report that a document of the right shape is outside the supported subset. -/
def unsupportedReport (failure : Failure) : Report where
  path := []
  message := failure.message
  check := "supported"
  expected := .str "supported schema keywords"
  actual := .str "unsupported schema"

/-- What is wrong with a document, in the order in which it is found. Only an invalid value counts as
a report on the supported subset; any other failure of that check is a failure of the whole. -/
def check (document : Json) : Except Failure (List Report) :=
  let shape := shapeReports document
  if !shape.isEmpty then .ok shape
  else
    match checkSupported document document with
    | .ok () => .ok []
    | .error failure =>
        if failure.category = .invalidValue then .ok [unsupportedReport failure]
        else .error failure

end SchemaSignature.Document
