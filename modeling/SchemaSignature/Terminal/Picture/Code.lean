import SchemaSignature.Terminal.Picture.NamesAB
import SchemaSignature.Terminal.Picture.NamesCE
import SchemaSignature.Terminal.Picture.NamesF
import SchemaSignature.Terminal.Picture.NamesGL
import SchemaSignature.Terminal.Picture.NamesM
import SchemaSignature.Terminal.Picture.NamesNP
import SchemaSignature.Terminal.Picture.NamesQT
import SchemaSignature.Terminal.Picture.NamesUZ
import SchemaSignature.Text.Digit

/-!
Picture codes in text: the name of a picture between two colons, without blanks. A name may end in a
mark that asks for the picture in color or in the style of text. Codes are read from left to right;
one whose name is unknown stands for itself.
-/

namespace SchemaSignature.Terminal.Picture

def named : List (String × String) :=
  namedAB ++ namedCE ++ namedF ++ namedGL ++ namedM ++ namedNP ++ namedQT ++ namedUZ

/-- The small letter of a capital one, as far as letters of names are concerned. The signs for
kelvin and angstrom are capitals of letters. -/
def small (c : Char) : Char :=
  let code := c.toNat
  if code = 0x212A then 'k'
  else if code = 0x212B then 'å'
  else if (0xC0 ≤ code && code ≤ 0xDE && code != 0xD7) then Char.ofNat (code + 32)
  else c.toLower

/-- The endings of names that ask for a style, each with the character that selects it. -/
def styles : List (List Char × Char) :=
  [("-emoji".toList, '\ufe0f'), ("-text".toList, '\ufe0e')]

/-- The inside of a code as a name and the character that selects a style, if a style is asked for. -/
def splitStyle (inside : List Char) : List Char × List Char :=
  match styles.find? fun style => style.1.isSuffixOf inside with
  | some (ending, selector) => (inside.take (inside.length - ending.length), [selector])
  | none => (inside, [])

/-- What is shown of a code, given without its colons. -/
def shown (inside : List Char) : List Char :=
  let (name, selector) := splitStyle inside
  match named.lookup (String.ofList (name.map small)) with
  | some picture => picture.toList ++ selector
  | none => ':' :: inside ++ [':']

/-- The inside of the code at the start of a text behind a colon. -/
def inside? : List Char → Option (List Char)
  | [] => none
  | c :: rest =>
      if c = ':' then some []
      else if Text.isSpace c then none
      else (inside? rest).map (c :: ·)

/-- A text with pictures in place of their codes, where `skip` more characters belong to the last
code. -/
def expandFrom (skip : Nat) : List Char → List Char
  | [] => []
  | c :: rest =>
      match skip with
      | skip + 1 => expandFrom skip rest
      | 0 =>
          if c = ':' then
            match inside? rest with
            | some inside => shown inside ++ expandFrom (inside.length + 1) rest
            | none => c :: expandFrom 0 rest
          else c :: expandFrom 0 rest

/-- A text with pictures in place of their codes. -/
def expand (text : List Char) : List Char :=
  expandFrom 0 text

end SchemaSignature.Terminal.Picture
