import SchemaSignature.Failure
import SchemaSignature.Text.Digit
import SchemaSignature.Text.Pieces

/-!
Local references. A reference is `#` for the whole document, or `#` and a pointer: steps separated by
slashes, in which `~1` stands for a slash and `~0` for a tilde. A step is a key of an object or the
position of an item of an array. Slashes before the first step are ignored.
-/

namespace SchemaSignature.Pointer

/-- Replaces each occurrence of two characters in a row by one character, from left to right. -/
def replacePair (first second replacement : Char) : List Char → List Char
  | a :: b :: rest =>
      if a = first ∧ b = second then replacement :: replacePair first second replacement rest
      else a :: replacePair first second replacement (b :: rest)
  | short => short

/-- The step that a piece of a pointer stands for: `~1` is replaced before `~0`. -/
def unescape (piece : List Char) : List Char :=
  replacePair '~' '0' '~' (replacePair '~' '1' '/' piece)

def steps (pointer : List Char) : List String :=
  (Text.pieces '/' (pointer.dropWhile (· == '/'))).map fun piece => String.ofList (unescape piece)

/-- The number that a step of digits stands for. Digits without a decimal value are refused. -/
def position (step : String) : Except Failure Nat :=
  let decimals := step.toList.takeWhile fun c => (Text.decimalValue? c).isSome
  if Number.digitLimit < decimals.length then .error (.misuse (.tooManyDigits decimals.length))
  else
    match Text.decimalNumber? step.toList with
    | some number => .ok number
    | none => .error (.misuse (.notANumeral step))

/-- The value that one step leads to. `reference` is named in failures. -/
def follow (reference : String) (target : Json) (step : String) : Except Failure Json :=
  match target with
  | .obj members =>
      match Json.member? members step with
      | some value => .ok value
      | none => .error (.unresolvable reference)
  | .arr items =>
      if !step.isEmpty && step.toList.all Text.isDigit then do
        match items[← position step]? with
        | some value => pure value
        | none => throw (.unresolvable reference)
      else .error (.unresolvable reference)
  | _ => .error (.unresolvable reference)

/-- The value that a reference points to in a document. -/
def resolve (root : Json) (reference : String) : Except Failure Json :=
  match reference.toList with
  | '#' :: pointer =>
      if pointer.isEmpty then .ok root else (steps pointer).foldlM (follow reference) root
  | _ => .error (.notLocal (.str reference))

/-- As `resolve`, for a reference that may be any value. -/
def resolveValue (root reference : Json) : Except Failure Json :=
  match reference with
  | .str text => resolve root text
  | other => .error (.notLocal other)

end SchemaSignature.Pointer
