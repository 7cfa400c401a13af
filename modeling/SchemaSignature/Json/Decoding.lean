import SchemaSignature.Json.Value
import SchemaSignature.Number.Length
import SchemaSignature.Table

/-!
Reading JSON text. The reader takes one value with blanks around it, accepts the words `NaN`,
`Infinity` and `-Infinity`, keeps the first place and the last value of a repeated key, and reports
the first fault with its position, counted in characters.
-/

namespace SchemaSignature.Json

/-- What is wrong with a text that is not JSON. -/
inductive Problem where
  | byteOrderMark
  | expectedValue
  | expectedKey
  | expectedColon
  | expectedComma
  | unterminatedString
  | controlCharacter
  | badEscape
  | badUnicodeEscape
  | extraData
  deriving DecidableEq, Repr

def Problem.message : Problem → String
  | .byteOrderMark => "Unexpected UTF-8 BOM (decode using utf-8-sig)"
  | .expectedValue => "Expecting value"
  | .expectedKey => "Expecting property name enclosed in double quotes"
  | .expectedColon => "Expecting ':' delimiter"
  | .expectedComma => "Expecting ',' delimiter"
  | .unterminatedString => "Unterminated string starting at"
  | .controlCharacter => "Invalid control character at"
  | .badEscape => "Invalid \\escape"
  | .badUnicodeEscape => "Invalid \\uXXXX escape"
  | .extraData => "Extra data"

/-- A place in a text: the line and the column, counted from one, and the number of characters
before it. -/
structure Position where
  line : Nat
  column : Nat
  offset : Nat
  deriving DecidableEq, Repr

/-- The place behind the given characters of a text. -/
def Position.behind (before : List Char) : Position where
  line := before.count '\n' + 1
  column := (before.reverse.takeWhile (· != '\n')).length + 1
  offset := before.length

inductive DecodeError where
  | malformed (problem : Problem) (position : Position)
  /-- A whole number has more digits than are accepted. -/
  | tooManyDigits (count : Nat)
  deriving DecidableEq, Repr

/-- A fault while reading: as `DecodeError`, with the number of characters that were left. -/
inductive Fault where
  | malformed (problem : Problem) (left : Nat)
  | tooManyDigits (count : Nat)

def faultAt {result : Type} (problem : Problem) (rest : List Char) : Except Fault (result × List Char) :=
  .error (.malformed problem rest.length)

def isBlank (c : Char) : Bool :=
  c == ' ' || c == '\t' || c == '\n' || c == '\r'

def skipBlanks (text : List Char) : List Char :=
  text.dropWhile isBlank

def hexValue? (c : Char) : Option Nat :=
  if '0' ≤ c ∧ c ≤ '9' then some (c.toNat - 48)
  else if 'a' ≤ c ∧ c ≤ 'f' then some (c.toNat - 87)
  else if 'A' ≤ c ∧ c ≤ 'F' then some (c.toNat - 55)
  else none

/-- The UTF-16 unit written by four digits of base sixteen. -/
def unitValue? (first second third fourth : Char) : Option Nat := do
  let first ← hexValue? first
  let second ← hexValue? second
  let third ← hexValue? third
  let fourth ← hexValue? fourth
  pure (((first * 16 + second) * 16 + third) * 16 + fourth)

def isHighSurrogate (unit : Nat) : Bool :=
  0xD800 ≤ unit && unit < 0xDC00

def isLowSurrogate (unit : Nat) : Bool :=
  0xDC00 ≤ unit && unit < 0xE000

/-- The character of a UTF-16 unit outside surrogate pairs; a lone surrogate is no character and
becomes the replacement character. -/
def unitChar (unit : Nat) : Char :=
  if isHighSurrogate unit || isLowSurrogate unit then Char.ofNat 0xFFFD else Char.ofNat unit

def pairChar (high low : Nat) : Char :=
  Char.ofNat (0x10000 + (high - 0xD800) * 0x400 + (low - 0xDC00))

/-- The character meant by a backslash and this letter. -/
def escapedChar? (c : Char) : Option Char :=
  if c = '"' ∨ c = '\\' ∨ c = '/' then some c
  else if c = 'b' then some (Char.ofNat 8)
  else if c = 'f' then some (Char.ofNat 12)
  else if c = 'n' then some '\n'
  else if c = 'r' then some '\r'
  else if c = 't' then some '\t'
  else none

/-- Reads the digits behind `\\u`: the character they mean and how many characters were used, six
more if a second escape completes a surrogate pair. A fault tells how many characters were left at
the letter of the faulty escape. At least one character has to follow the digits. -/
def readUnicodeEscape (digits : List Char) : Except Nat (Char × Nat) :=
  match digits with
  | first :: second :: third :: fourth :: next :: rest =>
      match unitValue? first second third fourth with
      | none => .error (digits.length + 1)
      | some unit =>
          match next, rest with
          | '\\', 'u' :: fifth :: sixth :: seventh :: eighth :: _ :: _ =>
              if isHighSurrogate unit then
                match unitValue? fifth sixth seventh eighth with
                | none => .error rest.length
                | some low =>
                    if isLowSurrogate low then .ok (pairChar unit low, 10)
                    else .ok (unitChar unit, 4)
              else .ok (unitChar unit, 4)
          | _, _ => .ok (unitChar unit, 4)
  | _ => .error (digits.length + 1)

/-- Reads the rest of a string behind its opening quote. `opening` is the number of characters left
at that quote, `collected` holds the characters read so far, last one first. -/
def readString (opening : Nat) (collected text : List Char) :
    Except Fault (String × List Char) :=
  match text with
  | [] => .error (.malformed .unterminatedString opening)
  | c :: rest =>
      if c = '"' then .ok (String.ofList collected.reverse, rest)
      else if c = '\\' then
        match rest with
        | [] => .error (.malformed .unterminatedString opening)
        | letter :: behind =>
            if letter = 'u' then
              match readUnicodeEscape behind with
              | .error left => .error (.malformed .badUnicodeEscape left)
              | .ok (meant, width) => readString opening (meant :: collected) (behind.drop width)
            else
              match escapedChar? letter with
              | some meant => readString opening (meant :: collected) behind
              | none => faultAt .badEscape text
      else if c.toNat < 32 then faultAt .controlCharacter text
      else readString opening (c :: collected) rest
termination_by text.length
decreasing_by
  all_goals simp_all only [List.length_cons, List.length_drop]
  all_goals omega

def isAsciiDigit (c : Char) : Bool :=
  '0' ≤ c && c ≤ '9'

def digitsValue (digits : List Char) : Nat :=
  digits.foldl (fun number c => number * 10 + (c.toNat - 48)) 0

/-- The digits of a fraction, if a point and a digit follow. -/
def readFraction (text : List Char) : List Char × List Char :=
  match text with
  | '.' :: rest => if (rest.takeWhile isAsciiDigit).isEmpty then ([], text)
      else (rest.takeWhile isAsciiDigit, rest.dropWhile isAsciiDigit)
  | _ => ([], text)

/-- The exponent, if one follows: the letter, an optional sign and at least one digit. -/
def readExponent (text : List Char) : Option Int × List Char :=
  match text with
  | letter :: rest =>
      if letter = 'e' ∨ letter = 'E' then
        let (negative, digits) := match rest with
          | '-' :: digits => (true, digits)
          | '+' :: digits => (false, digits)
          | digits => (false, digits)
        if (digits.takeWhile isAsciiDigit).isEmpty then (none, text)
        else
          let size : Int := digitsValue (digits.takeWhile isAsciiDigit)
          (some (if negative then -size else size), digits.dropWhile isAsciiDigit)
      else (none, text)
  | [] => (none, text)

/-- Reads what stands behind the whole part of a number. -/
def readNumberTail (negative : Bool) (whole rest : List Char) : Except Fault (Json × List Char) :=
  let (fraction, afterFraction) := readFraction rest
  let (exponent, afterExponent) := readExponent afterFraction
  if fraction.isEmpty && exponent.isNone then
    if Number.digitLimit < whole.length then .error (.tooManyDigits whole.length)
    else
      let magnitude : Int := digitsValue whole
      .ok (.int (if negative then -magnitude else magnitude), afterExponent)
  else
    let scale := exponent.getD 0 - (fraction.length : Int)
    .ok (.float (Double.ofDecimal negative (digitsValue (whole ++ fraction)) scale), afterExponent)

/-- Reads a number from its first digit on; `start` is the text from its sign on. -/
def readNumber (negative : Bool) (start : List Char) : List Char → Except Fault (Json × List Char)
  | [] => faultAt .expectedValue start
  | c :: rest =>
      if c = '0' then readNumberTail negative ['0'] rest
      else if isAsciiDigit c then
        readNumberTail negative (c :: rest.takeWhile isAsciiDigit) (rest.dropWhile isAsciiDigit)
      else faultAt .expectedValue start

/-- Reads the rest of a word that stands for a value. -/
def readWord (word : String) (value : Json) (text : List Char) : Option (Json × List Char) :=
  if word.toList.isPrefixOf text then some (value, text.drop word.length) else none

/-- Reads a value that is neither a string nor an array nor an object. -/
def readScalar (text : List Char) : Except Fault (Json × List Char) :=
  let word :=
    readWord "null" .null text <|> readWord "true" (.bool true) text <|>
    readWord "false" (.bool false) text <|> readWord "NaN" (.float .notANumber) text <|>
    readWord "Infinity" (.float (.infinite false)) text <|>
    readWord "-Infinity" (.float (.infinite true)) text
  match word with
  | some reading => .ok reading
  | none =>
      match text with
      | '-' :: rest => readNumber true text rest
      | _ => readNumber false text text

mutual

/-- Reads a value at the very start of the text. -/
def readValue : Nat → List Char → Except Fault (Json × List Char)
  | 0, text => faultAt .expectedValue text
  | fuel + 1, text =>
      match text with
      | '"' :: rest => do
          let (content, behind) ← readString text.length [] rest
          pure (.str content, behind)
      | '[' :: rest =>
          match skipBlanks rest with
          | ']' :: behind => .ok (.arr [], behind)
          | inside => readItems fuel [] inside
      | '{' :: rest =>
          match skipBlanks rest with
          | '}' :: behind => .ok (.obj [], behind)
          | inside => readMembers fuel [] inside
      | _ => readScalar text

/-- Reads the items of an array from the start of one of them, up to the closing bracket. -/
def readItems : Nat → List Json → List Char → Except Fault (Json × List Char)
  | 0, _, text => faultAt .expectedValue text
  | fuel + 1, collected, text => do
      let (item, behind) ← readValue fuel text
      match skipBlanks behind with
      | ']' :: rest => pure (.arr (item :: collected).reverse, rest)
      | ',' :: rest => readItems fuel (item :: collected) (skipBlanks rest)
      | other => faultAt .expectedComma other

/-- Reads the members of an object from the start of a key, up to the closing bracket. -/
def readMembers : Nat → List (String × Json) → List Char → Except Fault (Json × List Char)
  | 0, _, text => faultAt .expectedValue text
  | fuel + 1, collected, text =>
      match text with
      | '"' :: rest => do
          let (key, afterKey) ← readString text.length [] rest
          match skipBlanks afterKey with
          | ':' :: afterColon => do
              let (value, behind) ← readValue fuel (skipBlanks afterColon)
              let members := Table.set (· == ·) key value collected
              match skipBlanks behind with
              | '}' :: rest => pure (.obj members, rest)
              | ',' :: rest => readMembers fuel members (skipBlanks rest)
              | other => faultAt .expectedComma other
          | other => faultAt .expectedColon other
      | other => faultAt .expectedKey other

end

def readText (text : List Char) : Except Fault Json :=
  match text with
  | '\ufeff' :: _ => .error (.malformed .byteOrderMark text.length)
  | _ => do
      let (value, behind) ← readValue (2 * text.length + 2) (skipBlanks text)
      match skipBlanks behind with
      | [] => pure value
      | other => .error (.malformed .extraData other.length)

def decode (text : String) : Except DecodeError Json :=
  match readText text.toList with
  | .ok value => .ok value
  | .error (.tooManyDigits count) => .error (.tooManyDigits count)
  | .error (.malformed problem left) =>
      .error (.malformed problem (.behind (text.toList.take (text.toList.length - left))))

end SchemaSignature.Json
