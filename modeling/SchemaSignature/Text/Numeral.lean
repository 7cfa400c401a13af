import SchemaSignature.Json.Decoding
import SchemaSignature.Text.Digit
import SchemaSignature.Text.Pieces

/-!
Whole numbers as people type them: blanks around the number, one sign, zeros in front, single
underscores between the digits, and a point with zeros alone behind it, one at least. Digits are
those of ASCII. `unpointedNumber?_append_zeros` says that such a point changes nothing.
-/

namespace SchemaSignature.Text

/-- Blanks that may stand around a number. The separators of ASCII are none. -/
def isNumeralBlank (c : Char) : Bool :=
  isSpace c && !(28 ≤ c.toNat && c.toNat ≤ 31)

/-- A text without the characters at its end that pass a test. -/
def dropTrailing (test : Char → Bool) (text : List Char) : List Char :=
  (text.reverse.dropWhile test).reverse

/-- A text without the characters at both ends that pass a test. -/
def trim (test : Char → Bool) (text : List Char) : List Char :=
  dropTrailing test (text.dropWhile test)

/-- The number written by digits with single underscores between them. -/
def separatedNumber? (digits : List Char) : Option Nat :=
  let groups := pieces '_' digits
  let joined := groups.flatten
  if groups.any List.isEmpty || Number.digitLimit < joined.length then none
  else if joined.all Char.isDigit then decimalNumber? joined
  else none

/-- The number written by digits that may have zeros in front, which do not count as digits. Behind
the first zero any number of underscores may stand among them. -/
def paddedNumber? (digits : List Char) : Option Nat :=
  let isPadding (c : Char) : Bool := c == '0' || c == '_'
  match digits with
  | '0' :: rest =>
      let significant := rest.dropWhile isPadding
      if significant.isEmpty then
        if digits.getLast? == some '0' then some 0 else none
      else separatedNumber? significant
  | _ => separatedNumber? digits

/-- The number in front of a point, if there is one, with zeros alone behind it. A point with
nothing behind it is refused. -/
def unpointedNumber? (text : List Char) : Option Nat :=
  let isBeforePoint (c : Char) : Bool := c != '.'
  match text.dropWhile isBeforePoint with
  | [] => paddedNumber? text
  | _ :: fraction =>
      if !fraction.isEmpty && fraction.all (· == '0') then
        paddedNumber? (text.takeWhile isBeforePoint)
      else none

def wholeNumber? (text : String) : Option Int :=
  match trim isNumeralBlank text.toList with
  | '-' :: digits => (unpointedNumber? digits).map fun number => -(number : Int)
  | '+' :: digits => (unpointedNumber? digits).map Int.ofNat
  | digits => (unpointedNumber? digits).map Int.ofNat

theorem unpointedNumber?_append_zeros
    (digits : List Char) (withoutPoint : '.' ∉ digits) (zeros : Nat) :
    unpointedNumber? (digits ++ '.' :: List.replicate (zeros + 1) '0') =
      unpointedNumber? digits := by
  have beforePoint : ∀ c ∈ digits, (c != '.') = true := by
    intro c member
    have notPoint : c ≠ '.' := fun same => withoutPoint (same ▸ member)
    simpa using notPoint
  have dropped : (digits ++ []).dropWhile (· != '.') = [].dropWhile (· != '.') :=
    List.dropWhile_append_of_pos beforePoint
  simp only [List.append_nil, List.dropWhile_nil] at dropped
  simp [unpointedNumber?, List.takeWhile_append_of_pos beforePoint,
    List.dropWhile_append_of_pos beforePoint, dropped, List.replicate_succ]

end SchemaSignature.Text
