import SchemaSignature.Text.Digit
import SchemaSignature.Text.Pieces

/-!
Names of text styles. A style is written as words: attributes, each of which may be denied, a color,
a color behind `on` for the background, and an address behind `link`. Two names that write the same
style count as equal, and so do names that write no style if they differ in case alone.
-/

namespace SchemaSignature.Terminal

def colorNames : List String :=
  ["aquamarine1", "aquamarine3", "black", "blue", "blue1", "blue3", "blue_violet", "bright_black",
   "bright_blue", "bright_cyan", "bright_green", "bright_magenta", "bright_red", "bright_white",
   "bright_yellow", "cadet_blue", "chartreuse1", "chartreuse2", "chartreuse3", "chartreuse4",
   "cornflower_blue", "cornsilk1", "cyan", "cyan1", "cyan2", "cyan3", "dark_blue", "dark_cyan",
   "dark_goldenrod", "dark_green", "dark_khaki", "dark_magenta", "dark_olive_green1",
   "dark_olive_green2", "dark_olive_green3", "dark_orange", "dark_orange3", "dark_red",
   "dark_sea_green", "dark_sea_green1", "dark_sea_green2", "dark_sea_green3", "dark_sea_green4",
   "dark_slate_gray1", "dark_slate_gray2", "dark_slate_gray3", "dark_turquoise", "dark_violet",
   "deep_pink1", "deep_pink2", "deep_pink3", "deep_pink4", "deep_sky_blue1", "deep_sky_blue2",
   "deep_sky_blue3", "deep_sky_blue4", "dodger_blue1", "dodger_blue2", "dodger_blue3", "gold1",
   "gold3", "gray0", "gray100", "gray11", "gray15", "gray19", "gray23", "gray27", "gray3",
   "gray30", "gray35", "gray37", "gray39", "gray42", "gray46", "gray50", "gray53", "gray54",
   "gray58", "gray62", "gray63", "gray66", "gray69", "gray7", "gray70", "gray74", "gray78",
   "gray82", "gray84", "gray85", "gray89", "gray93", "green", "green1", "green3", "green4",
   "green_yellow", "grey0", "grey100", "grey11", "grey15", "grey19", "grey23", "grey27", "grey3",
   "grey30", "grey35", "grey37", "grey39", "grey42", "grey46", "grey50", "grey53", "grey54",
   "grey58", "grey62", "grey63", "grey66", "grey69", "grey7", "grey70", "grey74", "grey78",
   "grey82", "grey84", "grey85", "grey89", "grey93", "honeydew2", "hot_pink", "hot_pink2",
   "hot_pink3", "indian_red", "indian_red1", "khaki1", "khaki3", "light_coral", "light_cyan1",
   "light_cyan3", "light_goldenrod1", "light_goldenrod2", "light_goldenrod3", "light_green",
   "light_pink1", "light_pink3", "light_pink4", "light_salmon1", "light_salmon3",
   "light_sea_green", "light_sky_blue1", "light_sky_blue3", "light_slate_blue",
   "light_slate_gray", "light_slate_grey", "light_steel_blue", "light_steel_blue1",
   "light_steel_blue3", "light_yellow3", "magenta", "magenta1", "magenta2", "magenta3",
   "medium_orchid", "medium_orchid1", "medium_orchid3", "medium_purple", "medium_purple1",
   "medium_purple2", "medium_purple3", "medium_purple4", "medium_spring_green",
   "medium_turquoise", "medium_violet_red", "misty_rose1", "misty_rose3", "navajo_white1",
   "navajo_white3", "navy_blue", "orange1", "orange3", "orange4", "orange_red1", "orchid",
   "orchid1", "orchid2", "pale_green1", "pale_green3", "pale_turquoise1", "pale_turquoise4",
   "pale_violet_red1", "pink1", "pink3", "plum1", "plum2", "plum3", "plum4", "purple", "purple3",
   "purple4", "red", "red1", "red3", "rosy_brown", "royal_blue1", "salmon1", "sandy_brown",
   "sea_green1", "sea_green2", "sea_green3", "sky_blue1", "sky_blue2", "sky_blue3", "slate_blue1",
   "slate_blue3", "spring_green1", "spring_green2", "spring_green3", "spring_green4",
   "steel_blue", "steel_blue1", "steel_blue3", "tan", "thistle1", "thistle3", "turquoise2",
   "turquoise4", "violet", "wheat1", "wheat4", "white", "yellow", "yellow1", "yellow2", "yellow3",
   "yellow4"]

/-- The attributes of text, in the order in which they are written. -/
def attributeNames : List String :=
  ["bold", "dim", "italic", "underline", "blink", "blink2", "reverse", "conceal", "strike",
   "underline2", "frame", "encircle", "overline"]

def attributeShortNames : List (String × String) :=
  [("b", "bold"), ("d", "dim"), ("i", "italic"), ("u", "underline"), ("r", "reverse"),
   ("c", "conceal"), ("s", "strike"), ("uu", "underline2"), ("o", "overline")]

def attributeOf? (word : String) : Option String :=
  if attributeNames.contains word then some word else attributeShortNames.lookup word

def lowered (text : String) : String :=
  text.map Char.toLower

/-- The text between the given start and a closing parenthesis. -/
def argument? (start text : List Char) : Option (List Char) :=
  if start.isPrefixOf text && text.getLast? == some ')' then
    some ((text.drop start.length).dropLast)
  else none

def isByte (digits : List Char) : Bool :=
  !digits.isEmpty &&
    match Text.decimalNumber? digits with
    | some number => number ≤ 255
    | none => false

def isHexDigit (c : Char) : Bool :=
  ('0' ≤ c && c ≤ '9') || ('a' ≤ c && c ≤ 'f')

/-- A small-lettered word stands for a color: by name, by number, or by its parts. -/
def isColor (word : String) : Bool :=
  word == "default" || colorNames.contains word ||
    match word.toList with
    | '#' :: digits => digits.length == 6 && digits.all isHexDigit
    | text =>
        match argument? "color(".toList text, argument? "rgb(".toList text with
        | some digits, _ => digits.length ≤ 3 && isByte digits
        | none, some parts =>
            let numbers := Text.pieces ',' parts
            numbers.length == 3 && numbers.all isByte
        | none, none => false

/-- A style: the attributes that are set or denied, the colors, and the address. -/
structure Style where
  attributes : List (String × Bool) := []
  color : Option String := none
  background : Option String := none
  link : Option String := none
  deriving DecidableEq, Repr

namespace Style

def setAttribute (style : Style) (name : String) (isSet : Bool) : Style :=
  { style with attributes := (name, isSet) :: style.attributes }

/-- Reads the words of a style, to be added to what has been read. -/
def readWords (style : Style) : List String → Option Style
  | [] => some style
  | word :: rest =>
      match lowered word, rest with
      | "on", color :: rest =>
          if isColor (lowered color) then
            readWords { style with background := some (lowered color) } rest
          else none
      | "not", name :: rest =>
          match attributeOf? name with
          | some known => readWords (style.setAttribute known false) rest
          | none => none
      | "link", address :: rest => readWords { style with link := some address } rest
      | small, rest =>
          match attributeOf? small with
          | some known => readWords (style.setAttribute known true) rest
          | none => if isColor small then readWords { style with color := some small } rest else none

def wordsOf (text : List Char) : List String :=
  let blanked := text.map fun c => if Text.isSpace c then ' ' else c
  ((Text.pieces ' ' blanked).filter fun word => !word.isEmpty).map String.ofList

def read? (text : List Char) : Option Style :=
  match wordsOf text with
  | ["none"] => some {}
  | words => readWords {} words

def words (style : Style) : List String :=
  let attributes := attributeNames.filterMap fun name =>
    (style.attributes.lookup name).map fun isSet => if isSet then name else "not " ++ name
  attributes ++ style.color.toList ++
    (style.background.toList.flatMap fun color => ["on", color]) ++
    (style.link.toList.flatMap fun address => ["link", address])

def text (style : Style) : String :=
  if style.words.isEmpty then "none" else " ".intercalate style.words

end Style

/-- The text by which the names of styles are compared. -/
def canonicalStyle (name : List Char) : List Char :=
  match Style.read? name with
  | some style => style.text.toList
  | none => name.map Char.toLower

end SchemaSignature.Terminal
