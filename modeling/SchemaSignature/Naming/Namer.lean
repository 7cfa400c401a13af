import SchemaSignature.Failure
import SchemaSignature.Signature.Printing
import SchemaSignature.Table

/-!
Namers mint reference names from a counter that only grows, and keep what each name stands for. A
recorded declaration never changes. A counter that is too long to be written still grows.
-/

namespace SchemaSignature

/-- A source of reference names: the stem of every name, the number of the last name, and the
signature that each declared name stands for, in the order of declaration. -/
structure Namer where
  stem : String
  count : Nat
  declarations : List (String × Signature) := []
  deriving Repr

namespace Namer

/-- The stem of names that is used unless another is chosen. -/
def defaultStem : String := "$Ref"

/-- The namer that is used unless another is chosen. -/
def standard : Namer := { stem := defaultStem, count := 0 }

/-- A namer whose first name has the number after `start`. -/
def create (stem : String) (start : Int) : Except Failure Namer :=
  if start < 0 then .error (.negativeStart start)
  else .ok { stem := stem, count := start.toNat }

/-- The text of a count, unless it is too long to be written. -/
def countText (count : Nat) : Except Failure String :=
  match Number.numeral? count with
  | some text => .ok text
  | none => .error (.misuse .numberTooLong)

def nameOf (namer : Namer) (number : Nat) : Except Failure String :=
  (countText number).map fun text => namer.stem ++ text

def advance (namer : Namer) : Namer :=
  { namer with count := namer.count + 1 }

def mint (namer : Namer) : Except Failure String × Namer :=
  (namer.nameOf (namer.count + 1), namer.advance)

/-- Records what a name stands for, unless it has been recorded before. -/
def declare (namer : Namer) (name : String) (expansion : Signature) : Namer :=
  { namer with declarations := Table.setIfAbsent (· == ·) name expansion namer.declarations }

/-- The declared names with the texts that they stand for. -/
def declaredTexts (namer : Namer) : List (String × String) :=
  namer.declarations.map fun entry => (entry.1, entry.2.text)

def describe (namer : Namer) : Except Failure String :=
  (countText namer.count).map fun count =>
    "RefNamer(prefix=" ++ Json.displayText namer.stem ++ ", count=" ++ count ++ ")"

end Namer

end SchemaSignature
