import SchemaSignature.Json.Value
import SchemaSignature.Number.Shortest
import SchemaSignature.Text.Printable

/-!
The text of a value in messages. A text is shown between single quotes, or between double quotes
if it holds a single quote and no double one; quotes of that kind, backslashes and characters that
are not printable are escaped. Messages that show a value plainly leave a text as it is.
-/

namespace SchemaSignature.Json

def hexDigit (value : Nat) : Char :=
  if value < 10 then Char.ofNat (48 + value) else Char.ofNat (87 + value)

/-- The lowest `width` digits of a number in base sixteen. -/
def hexText : Nat → Nat → List Char
  | 0, _ => []
  | width + 1, value => hexText width (value / 16) ++ [hexDigit (value % 16)]

/-- One character of a displayed text that stands between the given quotes. -/
def displayChar (quote c : Char) : List Char :=
  if c = quote ∨ c = '\\' then ['\\', c]
  else if c = '\n' then ['\\', 'n']
  else if c = '\r' then ['\\', 'r']
  else if c = '\t' then ['\\', 't']
  else if Text.isPrintable c then [c]
  else if c.toNat < 0x100 then '\\' :: 'x' :: hexText 2 c.toNat
  else if c.toNat < 0x10000 then '\\' :: 'u' :: hexText 4 c.toNat
  else '\\' :: 'U' :: hexText 8 c.toNat

def displayQuote (text : String) : Char :=
  if text.toList.contains '\'' && !text.toList.contains '"' then '"' else '\''

def displayText (text : String) : String :=
  let quote := displayQuote text
  String.ofList (quote :: text.toList.flatMap (displayChar quote) ++ [quote])

def displayDouble : Double → String
  | .finite negative significand exponent => Double.finiteText negative significand exponent
  | .infinite negative => if negative then "-inf" else "inf"
  | .notANumber => "nan"

mutual

/-- A value as messages show it, texts between quotes. -/
def display : Json → String
  | .null => "None"
  | .bool value => if value then "True" else "False"
  | .int value => toString value
  | .float value => displayDouble value
  | .str text => displayText text
  | .arr items => "[" ++ ", ".intercalate (displayItems items) ++ "]"
  | .obj members => "\x7b" ++ ", ".intercalate (displayMembers members) ++ "\x7d"

def displayItems : List Json → List String
  | [] => []
  | item :: rest => display item :: displayItems rest

def displayMembers : List (String × Json) → List String
  | [] => []
  | (key, value) :: rest => (displayText key ++ ": " ++ display value) :: displayMembers rest

end

/-- A value as messages show it, except that a text stands as it is. -/
def plain : Json → String
  | .str text => text
  | value => value.display

end SchemaSignature.Json
