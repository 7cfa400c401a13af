import SchemaSignature.Terminal.Picture.Code
import SchemaSignature.Terminal.Style
import SchemaSignature.Text.Numeral

/-!
Marked-up text of a terminal: tags between square brackets set styles and are not shown. A tag
starts with a small letter or one of `#`, `/`, `@`, and holds no brackets. Backslashes before a tag
escape it: two of them stand for one, and one that is left over makes the tag plain text. Other
backslashes stand for themselves, except that one before an opening bracket is not shown. Picture
codes are shown as pictures, but only within one part of the text: tags, escaped or not, part it.
-/

namespace SchemaSignature.Terminal

/-- A piece of marked-up text: backslashes with the plain character behind them, if any, or with a
tag. -/
inductive Segment where
  | plain (slashes : Nat) (c : Option Char)
  | tag (slashes : Nat) (body : List Char)
  deriving DecidableEq, Repr

def isTagStart (c : Char) : Bool :=
  (97 ≤ c.toNat && c.toNat ≤ 122) || c == '#' || c == '/' || c == '@'

/-- The inside of the tag at the start of a text behind an opening bracket. -/
def tagBody? (text : List Char) : Option (List Char) :=
  match text with
  | c :: rest =>
      let isInside (c : Char) : Bool := c != '[' && c != ']'
      if isTagStart c && (rest.dropWhile isInside).head? == some ']' then
        some (c :: rest.takeWhile isInside)
      else none
  | [] => none

/-- The segments of a text, where `skip` more characters belong to the last tag and `slashes`
backslashes have been read. -/
def segmentsFrom (skip slashes : Nat) : List Char → List Segment
  | [] => if slashes = 0 then [] else [.plain slashes none]
  | c :: rest =>
      match skip with
      | skip + 1 => segmentsFrom skip slashes rest
      | 0 =>
          if c = '\\' then segmentsFrom 0 (slashes + 1) rest
          else if c = '[' then
            match tagBody? rest with
            | some body => .tag slashes body :: segmentsFrom (body.length + 1) 0 rest
            | none => .plain slashes (some c) :: segmentsFrom 0 0 rest
          else .plain slashes (some c) :: segmentsFrom 0 0 rest

def segments (text : List Char) : List Segment :=
  segmentsFrom 0 0 text

def backslashes (count : Nat) : List Char :=
  List.replicate count '\\'

def tagText (body : List Char) : List Char :=
  '[' :: body ++ [']']

namespace Segment

/-- The marked-up text that shows a segment as plain text. -/
def escaped : Segment → List Char
  | .plain slashes c => backslashes slashes ++ c.toList
  | .tag slashes body => backslashes (2 * slashes + 1) ++ tagText body

end Segment

/-- Marked-up text that shows the given text. A single backslash at the end is written twice, so
that it cannot escape what follows. -/
def escape (text : String) : String :=
  let marked := (segments text.toList).flatMap Segment.escaped
  match marked.reverse with
  | '\\' :: '\\' :: _ => String.ofList marked
  | '\\' :: _ => String.ofList (marked ++ ['\\'])
  | _ => String.ofList marked

/-- The name of a style in a tag, which may be empty. -/
def styleName (body : List Char) : List Char :=
  let name := Text.trim Text.isSpace (body.takeWhile (· != '='))
  if name.isEmpty then [] else canonicalStyle name

/-- Removes a style from the open ones, innermost first. An empty name stands for the innermost. -/
def closeStyle (name : List Char) : List (List Char) → Option (List (List Char))
  | [] => none
  | innermost :: outer =>
      if name.isEmpty || name == innermost then some outer
      else (closeStyle name outer).map (innermost :: ·)

/-- A part of marked-up text: plain text, or the inside of a tag. -/
inductive Part where
  | text (content : List Char)
  | tag (body : List Char)
  deriving DecidableEq, Repr

def plainText (slashes : Nat) (c : Option Char) : List Char :=
  backslashes (if c = some '[' then slashes - 1 else slashes) ++ c.toList

/-- The plain text that segments start with, and the parts behind it. -/
def splitParts : List Segment → List Char × List Part
  | [] => ([], [])
  | .plain slashes c :: rest =>
      let (content, later) := splitParts rest
      (plainText slashes c ++ content, later)
  | .tag slashes body :: rest =>
      let (content, later) := splitParts rest
      let part := if slashes % 2 = 1 then .text (tagText body) else .tag body
      ([], .text (backslashes (slashes / 2)) :: part :: .text content :: later)

def parts (markup : List Char) : List Part :=
  let (content, later) := splitParts (segments markup)
  .text content :: later

/-- What is shown of parts, innermost open style first. Nothing can be shown if a tag closes a style
that is not open. -/
def shownParts (opened : List (List Char)) : List Part → Option (List Char)
  | [] => some []
  | .text content :: rest => do
      return Picture.expand content ++ (← shownParts opened rest)
  | .tag body :: rest =>
      match body with
      | '/' :: name => do shownParts (← closeStyle (styleName name) opened) rest
      | _ => shownParts (styleName body :: opened) rest

def shown? (markup : String) : Option String :=
  (shownParts [] (parts markup.toList)).map String.ofList

end SchemaSignature.Terminal
