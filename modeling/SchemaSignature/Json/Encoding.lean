import SchemaSignature.Json.Display

/-!
JSON text of values. In the plain form only the quote, the backslash and the control characters
below the space are escaped; the ASCII form escapes everything above `~` as well, as UTF-16 units.
-/

namespace SchemaSignature.Json

/-- One character of a JSON string, escaped only where JSON asks for it. -/
def quoteChar (c : Char) : List Char :=
  if c = '"' then ['\\', '"']
  else if c = '\\' then ['\\', '\\']
  else if c = '\n' then ['\\', 'n']
  else if c = '\r' then ['\\', 'r']
  else if c = '\t' then ['\\', 't']
  else if c.toNat = 8 then ['\\', 'b']
  else if c.toNat = 12 then ['\\', 'f']
  else if c.toNat < 32 then '\\' :: 'u' :: hexText 4 c.toNat
  else [c]

def quote (text : String) : String :=
  String.ofList ('"' :: text.toList.flatMap quoteChar ++ ['"'])

def quoteCharAscii (c : Char) : List Char :=
  if c.toNat < 127 then quoteChar c
  else if c.toNat < 0x10000 then '\\' :: 'u' :: hexText 4 c.toNat
  else
    let offset := c.toNat - 0x10000
    ('\\' :: 'u' :: hexText 4 (0xD800 + offset / 0x400)) ++
      ('\\' :: 'u' :: hexText 4 (0xDC00 + offset % 0x400))

def quoteAscii (text : String) : String :=
  String.ofList ('"' :: text.toList.flatMap quoteCharAscii ++ ['"'])

/-- A double as a JSON number, or as one of the three words for the values that JSON lacks. -/
def encodeDouble : Double → String
  | .finite negative significand exponent => Double.finiteText negative significand exponent
  | .infinite negative => if negative then "-Infinity" else "Infinity"
  | .notANumber => "NaN"

def encodeBool (value : Bool) : String :=
  if value then "true" else "false"

mutual

def encode : Json → String
  | .null => "null"
  | .bool value => encodeBool value
  | .int value => toString value
  | .float value => encodeDouble value
  | .str text => quote text
  | .arr items => "[" ++ ", ".intercalate (encodeItems items) ++ "]"
  | .obj members => "\x7b" ++ ", ".intercalate (encodeMembers members) ++ "\x7d"

def encodeItems : List Json → List String
  | [] => []
  | item :: rest => encode item :: encodeItems rest

def encodeMembers : List (String × Json) → List String
  | [] => []
  | (key, value) :: rest => (quote key ++ ": " ++ encode value) :: encodeMembers rest

end

/-- A line break and the indentation of a level, two spaces each. -/
def lineBreak (level : Nat) : String :=
  String.ofList ('\n' :: List.replicate (2 * level) ' ')

/-- The entries of an array or object one to a line between its brackets. -/
def bracketed (opening closing : String) (level : Nat) (entries : List String) : String :=
  if entries.isEmpty then opening ++ closing
  else
    opening ++ lineBreak (level + 1) ++ ("," ++ lineBreak (level + 1)).intercalate entries ++
      lineBreak level ++ closing

mutual

/-- JSON text in ASCII over several lines, indented from the given level on. -/
def encodeIndented (level : Nat) : Json → String
  | .null => "null"
  | .bool value => encodeBool value
  | .int value => toString value
  | .float value => encodeDouble value
  | .str text => quoteAscii text
  | .arr items => bracketed "[" "]" level (encodeItemsIndented (level + 1) items)
  | .obj members => bracketed "\x7b" "\x7d" level (encodeMembersIndented (level + 1) members)

def encodeItemsIndented (level : Nat) : List Json → List String
  | [] => []
  | item :: rest => encodeIndented level item :: encodeItemsIndented level rest

def encodeMembersIndented (level : Nat) : List (String × Json) → List String
  | [] => []
  | (key, value) :: rest =>
      (quoteAscii key ++ ": " ++ encodeIndented level value) :: encodeMembersIndented level rest

end

end SchemaSignature.Json
