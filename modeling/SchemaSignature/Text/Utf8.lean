/-!
Strict UTF-8. A character is a first byte and the continuation bytes that it asks for; each first
byte narrows the range of the byte behind it, so that no character has two spellings and no
surrogate is spelled at all.
-/

namespace SchemaSignature.Text

/-- What is wrong with bytes that are not UTF-8. -/
inductive Utf8Problem where
  | invalidStart
  | invalidContinuation
  | unexpectedEnd
  deriving DecidableEq, Repr

def Utf8Problem.message : Utf8Problem → String
  | .invalidStart => "invalid start byte"
  | .invalidContinuation => "invalid continuation byte"
  | .unexpectedEnd => "unexpected end of data"

/-- The first undecodable stretch: its first byte, where it starts, how many bytes it has and what
is wrong with it. -/
structure Utf8Error where
  firstByte : Nat
  start : Nat
  length : Nat
  problem : Utf8Problem
  deriving DecidableEq, Repr

/-- The ranges of the continuation bytes that a first byte asks for; none if it starts no
character. -/
def continuationRanges? (first : Nat) : Option (List (Nat × Nat)) :=
  let anyByte := (0x80, 0xBF)
  if first < 0x80 then some []
  else if first < 0xC2 then none
  else if first < 0xE0 then some [anyByte]
  else if first = 0xE0 then some [(0xA0, 0xBF), anyByte]
  else if first = 0xED then some [(0x80, 0x9F), anyByte]
  else if first < 0xF0 then some [anyByte, anyByte]
  else if first = 0xF0 then some [(0x90, 0xBF), anyByte, anyByte]
  else if first < 0xF4 then some [anyByte, anyByte, anyByte]
  else if first = 0xF4 then some [(0x80, 0x8F), anyByte, anyByte]
  else none

/-- Checks continuation bytes against their ranges. A failure tells how many were good. -/
def checkContinuation : List (Nat × Nat) → List Nat → Nat → Except (Nat × Utf8Problem) Unit
  | [], _, _ => .ok ()
  | _ :: _, [], good => .error (good, .unexpectedEnd)
  | range :: ranges, byte :: bytes, good =>
      if range.1 ≤ byte ∧ byte ≤ range.2 then checkContinuation ranges bytes (good + 1)
      else .error (good, .invalidContinuation)

/-- The payload of a first byte that is followed by `count` others. -/
def firstPayload (first count : Nat) : Nat :=
  if count = 0 then first else first % Nat.pow 2 (6 - count)

/-- The character of a first byte and its continuation bytes. -/
def joinBytes (first : Nat) (continuation : List Nat) : Char :=
  Char.ofNat <|
    continuation.foldl (fun code byte => code * 64 + byte % 64)
      (firstPayload first continuation.length)

/-- Decodes bytes from position `start` of the data on. -/
def decodeUtf8From (start : Nat) (collected : List Char) (bytes : List Nat) :
    Except Utf8Error (List Char) :=
  match bytes with
  | [] => .ok collected.reverse
  | first :: rest =>
      match continuationRanges? first with
      | none => .error ⟨first, start, 1, .invalidStart⟩
      | some ranges =>
          match checkContinuation ranges rest 0 with
          | .error (good, problem) => .error ⟨first, start, good + 1, problem⟩
          | .ok () =>
              decodeUtf8From (start + 1 + ranges.length)
                (joinBytes first (rest.take ranges.length) :: collected)
                (rest.drop ranges.length)
termination_by bytes.length
decreasing_by
  simp only [List.length_cons, List.length_drop]
  omega

def decodeUtf8 (bytes : List Nat) : Except Utf8Error String :=
  (decodeUtf8From 0 [] bytes).map String.ofList

def normalizeLineEnds : List Char → List Char
  | [] => []
  | '\r' :: '\n' :: rest => '\n' :: normalizeLineEnds rest
  | '\r' :: rest => '\n' :: normalizeLineEnds rest
  | c :: rest => c :: normalizeLineEnds rest

end SchemaSignature.Text
