import SchemaSignature.Json.Decoding
import SchemaSignature.Json.Display
import SchemaSignature.Storage.Obstacle
import SchemaSignature.Text.Utf8

/-!
Why an operation fails. A failure is a cause with the data that its message shows; the wording is
in one place. A `Misuse` is a failure of an elementary operation on a value that does not support
it, such as taking the elements of a number.
-/

namespace SchemaSignature

/-- An elementary operation met a value that it does not apply to. -/
inductive Misuse where
  /-- The elements of a value without elements were asked for. -/
  | notIterable (found : Json.Kind)
  /-- The length of a value without length was asked for. -/
  | notSized (found : Json.Kind)
  /-- A value that cannot be a key was used as one. -/
  | notAKey (found : Json.Kind)
  /-- The first element of a value without positions was asked for. -/
  | notIndexed (found : Json.Kind)
  | notRenderable (found : Json.Kind)
  | notOrdered
  /-- An interpreter was given an option that it does not take. -/
  | unexpectedOption
  /-- A log level is neither a number nor a name. -/
  | notALevel
  | missingOperation
  | missingPosition
  /-- A text of digits is not a decimal numeral. -/
  | notANumeral (text : String)
  | tooManyDigits (count : Nat)
  | numberTooLong
  /-- A log level has a name that does not exist. -/
  | unknownLevel (name : String)
  | notUtf8 (error : Text.Utf8Error)
  | refused (refusal : Storage.Refusal)
  deriving Repr

inductive Failure where
  /-- A schema is neither an object nor a truth value. -/
  | notASchema (found : Json.Kind)
  | notLocal (reference : Json)
  | unresolvable (reference : String)
  | noChoices
  | noParts
  | noAlternatives
  | noValues
  | unsupportedEnumValue (value : Json)
  | noTypes
  | unsupportedType (type : Json)
  | unsupportedKeyword (keyword : String)
  | invalidType (name : String)
  /-- An entry of a list of types is outside the supported subset. -/
  | invalidListedType (type : Json)
  /-- A type is neither a name nor a list. -/
  | typeNotNameOrList (found : Json.Kind)
  /-- A group has too few or too many members. -/
  | arity (combinator : String) (low high count : Nat)
  /-- A member of a combinator is not a node. -/
  | memberNotANode (combinator : String) (index : Nat) (value : Json)
  /-- The value of a field is not a node. -/
  | fieldNotANode (name : String) (value : Json)
  /-- The name of a field is not a text. -/
  | fieldNameNotText (name : Json)
  | noLiterals
  | unsupportedLiteral (value : Json)
  | noUnionMembers
  | noSumMembers (tag : Json)
  /-- The body of a lazy node cannot be built on demand. -/
  | bodyNotDeferred (found : Json.Kind)
  /-- The text of a node cannot be produced on demand. -/
  | textNotDeferred (found : Json.Kind)
  | negativeStart (start : Int)
  | missingUri
  /-- An identifier belongs to another interpreter. The standard one has no lasting description. -/
  | uriTaken (uri : Json) (holder : Option String)
  | notRegistered (uri : Json) (available : List String)
  | emptySequence
  | notAModel (name : String)
  | fileNotFound (path : String)
  | invalidJson (problem : Json.Problem) (position : Json.Position)
  | misuse (cause : Misuse)
  | undefined
  /-- Expansions or calls were nested deeper than allowed for. -/
  | outOfFuel
  deriving Repr

inductive Failure.Category where
  | invalidValue
  | wrongKind
  | missingOperation
  | missingKey
  | undecodable
  | obstructed (obstacle : Storage.Obstacle)
  | undefined
  | unbounded
  deriving DecidableEq, Repr

namespace Misuse

def category : Misuse → Failure.Category
  | .notIterable _ | .notSized _ | .notAKey _ | .notIndexed _ | .notRenderable _ | .notOrdered
  | .unexpectedOption | .notALevel => .wrongKind
  | .missingOperation => .missingOperation
  | .missingPosition => .missingKey
  | .notANumeral _ | .tooManyDigits _ | .numberTooLong | .unknownLevel _ => .invalidValue
  | .notUtf8 _ => .undecodable
  | .refused refusal =>
      match refusal.obstacle with
      | .unspeakable => .invalidValue
      | obstacle => .obstructed obstacle

def utf8Message (error : Text.Utf8Error) : String :=
  "'utf-8' codec can't decode " ++
    (if error.length = 1 then
      "byte 0x" ++ String.ofList (Json.hexText 2 error.firstByte) ++ " in position " ++
        toString error.start
    else
      "bytes in position " ++ toString error.start ++ "-" ++
        toString (error.start + error.length - 1)) ++
    ": " ++ error.problem.message

/-- How many characters of a text that is no numeral are shown, the quotes included. -/
def shownNumeralLength : Nat := 200

/-- The beginning of the sentences for numbers that are too long. -/
def digitLimitText : String :=
  "Exceeds the limit (" ++ toString Number.digitLimit ++ " digits) for integer string conversion"

/-- The end of the sentences for numbers that are too long. -/
def digitLimitAdvice : String :=
  "; use sys.set_int_max_str_digits() to increase the limit"

def message : Misuse → String
  | .notIterable found => "'" ++ found.name ++ "' object is not iterable"
  | .notSized found => "object of type '" ++ found.name ++ "' has no len()"
  | .notAKey found => "unhashable type: '" ++ found.name ++ "'"
  | .notIndexed found => "'" ++ found.name ++ "' object is not subscriptable"
  | .notRenderable found => "'" ++ found.name ++ "' object is not callable"
  | .notOrdered => "keys of different kinds have no order"
  | .unexpectedOption => "unexpected option"
  | .notALevel => "level not an integer or a valid string"
  | .missingOperation => "operation not supported"
  | .missingPosition => "0"
  | .notANumeral text =>
      "invalid literal for int() with base 10: " ++
        String.ofList ((Json.displayText text).toList.take shownNumeralLength)
  | .tooManyDigits count =>
      digitLimitText ++ ": value has " ++ toString count ++ " digits" ++ digitLimitAdvice
  | .numberTooLong => digitLimitText ++ digitLimitAdvice
  | .unknownLevel name => "Unknown level: " ++ Json.displayText name
  | .notUtf8 error => utf8Message error
  | .refused refusal => refusal.message

end Misuse

namespace Failure

def category : Failure → Category
  | .memberNotANode .. | .fieldNotANode .. | .fieldNameNotText _ | .unsupportedLiteral _
  | .bodyNotDeferred _ | .textNotDeferred _ => .wrongKind
  | .notRegistered .. => .missingKey
  | .misuse cause => cause.category
  | .undefined => .undefined
  | .outOfFuel => .unbounded
  | _ => .invalidValue

def message : Failure → String
  | .notASchema found => "Schema must be an object or boolean, got: " ++ found.name
  | .notLocal reference => "Only local references are supported, got: " ++ reference.display
  | .unresolvable reference => "Unresolvable reference: " ++ reference
  | .noChoices => "anyOf/oneOf must contain at least one schema"
  | .noParts => "allOf must contain at least one schema"
  | .noAlternatives => "oneOf must contain at least one schema"
  | .noValues => "enum must contain at least one value"
  | .unsupportedEnumValue value => "Unsupported enum value: " ++ value.display
  | .noTypes => "Type array must not be empty"
  | .unsupportedType type => "Unsupported schema type: " ++ type.plain
  | .unsupportedKeyword keyword => "Keyword '" ++ keyword ++ "' is not supported"
  | .invalidType name => "Invalid type: " ++ name
  | .invalidListedType type => "Invalid type in type array: " ++ type.plain
  | .typeNotNameOrList found => "Type must be string or array, got: <class '" ++ found.name ++ "'>"
  | .arity combinator low high count =>
      combinator ++ " supports " ++ toString low ++ " to " ++ toString high ++ " members, got " ++
        toString count
  | .memberNotANode combinator index value =>
      combinator ++ ": member " ++ toString index ++ " is not a signature node: " ++ value.display
  | .fieldNotANode name value =>
      "type: field '" ++ name ++ "' is not a signature node: " ++ value.display
  | .fieldNameNotText name => "type: field names must be strings, got: " ++ name.display
  | .noLiterals => "literals() requires at least one value"
  | .unsupportedLiteral value => "Unsupported literal value: " ++ value.display
  | .noUnionMembers => "union() requires at least one member"
  | .noSumMembers tag => "sum('" ++ tag.plain ++ "') requires at least one member"
  | .bodyNotDeferred found => "lazy() expects a callable, got: " ++ found.name
  | .textNotDeferred found => "Static producer must be callable, got: " ++ found.name
  | .negativeStart start => "Counter start must be non-negative, got: " ++ toString start
  | .missingUri => "Interpreter must define a non-empty URI"
  | .uriTaken uri holder =>
      "Interpreter URI '" ++ uri.plain ++ "' already registered to " ++
        holder.getD "the standard interpreter"
  | .notRegistered uri available =>
      "No interpreter registered for '" ++ uri.plain ++ "' (available: " ++
        (if available.isEmpty then "none" else ", ".intercalate available) ++ ")"
  | .emptySequence => "Expected a non-empty sequence"
  | .notAModel name => "Expected a Pydantic model class, got: <class '" ++ name ++ "'>"
  | .fileNotFound path => "Schema file not found: " ++ path
  | .invalidJson problem position =>
      "Invalid JSON in schema file: " ++ problem.message ++ ": line " ++ toString position.line ++
        " column " ++ toString position.column ++ " (char " ++ toString position.offset ++ ")"
  | .misuse cause => cause.message
  | .undefined => "undefined identifier"
  | .outOfFuel => "nested too deeply"

/-- The message is a lasting text of this library; a misuse is reported by its kind alone. -/
def isReported : Failure → Bool
  | .misuse _ | .undefined | .outOfFuel | .uriTaken _ none => false
  | _ => true

end Failure

end SchemaSignature
