import SchemaSignature.Document.Report
import SchemaSignature.Json.Ordering

/-!
The shape of schemas, after Draft 7 of JSON Schema: what kind of value each keyword takes. A value is
checked against the rule of its keyword, and subschemas are checked in turn; keywords without a rule
take any value. Where a rule offers two shapes, a value that has neither is reported once. The
keywords of a schema are checked in the order of their rules, whatever their order in the schema.
-/

namespace SchemaSignature.Document

inductive Rule where
  | anything
  | text
  | boolean
  | number
  | positive
  | natural
  | list
  | names
  /-- The name of a type, or a non-empty array of different ones. -/
  | types
  | schema
  | schemas
  | schemaOrSchemas
  | schemaTable
  | schemaOrNames
  /-- An object of values that are schemas or arrays of different texts. -/
  | dependencyTable
  deriving DecidableEq, Repr

def keywordRules : List (String × Rule) :=
  [("$id", .text), ("$schema", .text), ("$ref", .text), ("$comment", .text), ("title", .text),
   ("description", .text), ("readOnly", .boolean), ("examples", .list), ("multipleOf", .positive),
   ("maximum", .number), ("exclusiveMaximum", .number), ("minimum", .number),
   ("exclusiveMinimum", .number), ("maxLength", .natural), ("minLength", .natural),
   ("pattern", .text), ("additionalItems", .schema), ("items", .schemaOrSchemas),
   ("maxItems", .natural), ("minItems", .natural), ("uniqueItems", .boolean),
   ("contains", .schema), ("maxProperties", .natural), ("minProperties", .natural),
   ("required", .names), ("additionalProperties", .schema), ("definitions", .schemaTable),
   ("properties", .schemaTable), ("patternProperties", .schemaTable),
   ("dependencies", .dependencyTable), ("propertyNames", .schema), ("enum", .list),
   ("type", .types), ("format", .text), ("contentMediaType", .text), ("contentEncoding", .text),
   ("if", .schema), ("then", .schema), ("else", .schema), ("allOf", .schemas),
   ("anyOf", .schemas), ("oneOf", .schemas), ("not", .schema)]

def ruleOf (keyword : String) : Rule :=
  (keywordRules.lookup keyword).getD .anything

def typeNames : List String :=
  ["array", "boolean", "integer", "null", "number", "object", "string"]

/-! ## What reports say was expected -/

def referenceTo (target : String) : Json :=
  .obj [("$ref", .str target)]

/-- The two shapes of a rule that offers a choice. -/
def expectedShapes : Rule → Json
  | .types =>
      .arr
        [referenceTo "#/definitions/simpleTypes",
         .obj [("type", .str "array"), ("items", referenceTo "#/definitions/simpleTypes"),
           ("minItems", .int 1), ("uniqueItems", .bool true)]]
  | .schemaOrSchemas => .arr [referenceTo "#", referenceTo "#/definitions/schemaArray"]
  | .schemaOrNames => .arr [referenceTo "#", referenceTo "#/definitions/stringArray"]
  | _ => .null

def typeReport (path : List String) (expected : Json) (names : List String) (value : Json) :
    Report :=
  { path := path
    message :=
      value.display ++ " is not of type " ++ ", ".intercalate (names.map Json.displayText)
    check := "type"
    expected := expected
    actual := value }

/-- A value that is not of the one type that is expected. -/
def wrongType (path : List String) (name : String) (value : Json) : List Report :=
  [typeReport path (.str name) [name] value]

/-- A value that has none of the shapes that its rule offers. -/
def noShape (path : List String) (rule : Rule) (value : Json) : List Report :=
  [{ path := path
     message := value.display ++ " is not valid under any of the given schemas"
     check := "anyOf"
     expected := expectedShapes rule
     actual := value }]

def belowMinimum (path : List String) (value : Json) : List Report :=
  [{ path := path
     message := value.display ++ " is less than the minimum of 0"
     check := "minimum"
     expected := .int 0
     actual := value }]

def notAboveMinimum (path : List String) (value : Json) : List Report :=
  [{ path := path
     message := value.display ++ " is less than or equal to the minimum of 0"
     check := "exclusiveMinimum"
     expected := .int 0
     actual := value }]

/-- An array that must list something and does not. -/
def emptyArray (path : List String) : List Report :=
  [{ path := path
     message := "[] should be non-empty"
     check := "minItems"
     expected := .int 1
     actual := .arr [] }]

def repeatedItems (path : List String) (value : Json) : List Report :=
  [{ path := path
     message := value.display ++ " has non-unique elements"
     check := "uniqueItems"
     expected := .bool true
     actual := value }]

/-! ## Values without subschemas -/

def isNumber : Json → Bool
  | .int _ | .float _ => true
  | _ => false

/-- A whole number, whether it is spelled with a decimal point or not. -/
def isInteger : Json → Bool
  | .int _ => true
  | .float value => value.isWhole
  | _ => false

def isBelowZero : Json → Bool
  | .int value => value < 0
  | .float value => value.isNegative
  | _ => false

def isZero : Json → Bool
  | .int value => value == 0
  | .float value => value.isZero
  | _ => false

def isText : Json → Bool
  | .str _ => true
  | _ => false

def isTypeName : Json → Bool
  | .str name => typeNames.contains name
  | _ => false

/-- The reports on the items of an array of texts, from the given place on. -/
def textItemReports (path : List String) (place : Nat) : List Json → List Report
  | [] => []
  | item :: rest =>
      (if isText item then [] else wrongType (path ++ [toString place]) "string" item) ++
        textItemReports path (place + 1) rest

/-- The reports on a value that has to be an array of different texts. -/
def nameReports (path : List String) (value : Json) : List Report :=
  match value with
  | .arr items =>
      textItemReports path 0 items ++
        if Json.allDistinct items then [] else repeatedItems path value
  | other => wrongType path "array" other

/-- A value names types: one of them, or several different ones in an array. -/
def namesTypes (value : Json) : Bool :=
  isTypeName value ||
    match value with
    | .arr items => !items.isEmpty && items.all isTypeName && Json.allDistinct items
    | _ => false

/-- The reports on a value that is not looked into: it is checked against a rule without subschemas,
or it does not have the type that a rule with subschemas asks for. -/
def plainReports (rule : Rule) (path : List String) (value : Json) : List Report :=
  match rule with
  | .anything => []
  | .text => if isText value then [] else wrongType path "string" value
  | .boolean => match value with
      | .bool _ => []
      | other => wrongType path "boolean" other
  | .number => if isNumber value then [] else wrongType path "number" value
  | .positive =>
      (if isNumber value then [] else wrongType path "number" value) ++
        if isBelowZero value || isZero value then notAboveMinimum path value else []
  | .natural =>
      (if isInteger value then [] else wrongType path "integer" value) ++
        if isBelowZero value then belowMinimum path value else []
  | .list => match value with
      | .arr _ => []
      | other => wrongType path "array" other
  | .names => nameReports path value
  | .types => if namesTypes value then [] else noShape path .types value
  | .schema => match value with
      | .bool _ => []
      | other =>
          [typeReport path (.arr [.str "object", .str "boolean"]) ["object", "boolean"] other]
  | .schemas => wrongType path "array" value
  | .schemaOrSchemas => match value with
      | .bool _ => []
      | other => noShape path .schemaOrSchemas other
  | .schemaTable => wrongType path "object" value
  | .schemaOrNames => match value with
      | .bool _ => []
      | other => if (nameReports path other).isEmpty then [] else noShape path .schemaOrNames other
  | .dependencyTable => wrongType path "object" value

/-! ## Values with subschemas -/

/-- The reports on several keywords, in the order of their rules. -/
def inRuleOrder (found : List (String × List Report)) : List Report :=
  keywordRules.flatMap fun entry => (found.lookup entry.1).getD []

mutual

/-- The reports on the value of a keyword with the given rule. -/
def reportsOn (rule : Rule) (path : List String) : Json → List Report
  | .obj members =>
      match rule with
      | .schema => inRuleOrder (keywordReports path members)
      | .schemaOrSchemas =>
          if (inRuleOrder (keywordReports path members)).isEmpty then []
          else noShape path .schemaOrSchemas (.obj members)
      | .schemaOrNames =>
          if (inRuleOrder (keywordReports path members)).isEmpty then []
          else noShape path .schemaOrNames (.obj members)
      | .schemaTable => entryReports .schema path members
      | .dependencyTable => entryReports .schemaOrNames path members
      | other => plainReports other path (.obj members)
  | .arr items =>
      match rule with
      | .schemas =>
          (if items.isEmpty then emptyArray path else []) ++ schemaItemReports path 0 items
      | .schemaOrSchemas =>
          if !items.isEmpty && (schemaItemReports path 0 items).isEmpty then []
          else noShape path .schemaOrSchemas (.arr items)
      | other => plainReports other path (.arr items)
  | value => plainReports rule path value

def keywordReports (path : List String) : List (String × Json) → List (String × List Report)
  | [] => []
  | (keyword, value) :: rest =>
      (keyword, reportsOn (ruleOf keyword) (path ++ [keyword]) value) :: keywordReports path rest

/-- The reports on the values of an object, all of which have the same rule. -/
def entryReports (rule : Rule) (path : List String) : List (String × Json) → List Report
  | [] => []
  | (key, value) :: rest =>
      reportsOn rule (path ++ [key]) value ++ entryReports rule path rest

/-- The reports on the items of an array of schemas, from the given place on. -/
def schemaItemReports (path : List String) (place : Nat) : List Json → List Report
  | [] => []
  | item :: rest =>
      reportsOn .schema (path ++ [toString place]) item ++
        schemaItemReports path (place + 1) rest

end

/-- The reports on a document that has to be a schema. -/
def shapeReports (document : Json) : List Report :=
  reportsOn .schema [] document

end SchemaSignature.Document
