import SchemaSignature.Json.Encoding
import SchemaSignature.Signature.Node

/-!
The text of a signature. Every constructor but the primitives brings its own brackets, so that a
text can be read in one way only.
-/

namespace SchemaSignature

def Literal.text : Literal → String
  | .bool value => Json.encodeBool value
  | .int value => toString value
  | .float value => Json.encodeDouble value
  | .str text => Json.quote text

def Primitive.text : Primitive → String
  | .string => "string"
  | .number => "number"
  | .boolean => "boolean"
  | .null => "null"
  | .unknown => "unknown"
  | .never => "never"
  | .unknownArray => "Array<unknown>"
  | .unknownRecord => "Record<string, unknown>"

def Presence.opening : Presence → String
  | .required => "\x7b "
  | .optional => "Partial<\x7b "

def Presence.closing : Presence → String
  | .required => " \x7d"
  | .optional => " \x7d>"

def Container.opening : Container → String
  | .array => "Array<"
  | .record => "Record<string, "

def Grouping.opening : Grouping → String
  | .tuple => "["
  | .intersection | .sum | .union => "("

def Grouping.separator : Grouping → String
  | .tuple => ", "
  | .intersection => " & "
  | .sum | .union => " | "

def Grouping.closing : Grouping → String
  | .tuple => "]"
  | .intersection | .sum | .union => ")"

namespace Node

mutual

def text : Signature → String
  | .primitive kind => kind.text
  | .literals values => "(" ++ " | ".intercalate (values.map Literal.text) ++ ")"
  | .fields presence entries =>
      presence.opening ++ " ".intercalate (entryTexts entries) ++ presence.closing
  | .container kind element => kind.opening ++ text element ++ ">"
  | .group kind members =>
      kind.opening ++ kind.separator.intercalate (memberTexts members) ++ kind.closing
  | .lazy name => name
  | .made text => text
  | .watched name => name

def entryTexts : List (String × Signature) → List String
  | [] => []
  | (name, node) :: rest => (name ++ ": " ++ text node ++ ";") :: entryTexts rest

def memberTexts : List Signature → List String
  | [] => []
  | node :: rest => text node :: memberTexts rest

end

end Node

end SchemaSignature
