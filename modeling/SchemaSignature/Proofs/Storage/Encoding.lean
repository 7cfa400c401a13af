import Mathlib.Data.List.Forall2
import SchemaSignature.Storage.Folder
import SchemaSignature.Text.Utf8

/-!
The bytes of a text that is written to a file. They are the UTF-8 encodings of its characters, and
decoding them gives the text back.
-/

namespace SchemaSignature

namespace Text

/-- The bytes of a character. -/
def encodedChar (c : Char) : List Nat :=
  (String.utf8EncodeChar c).map UInt8.toNat

/-- A continuation byte lies in the range that is asked for. -/
def IsWithin (range : Nat × Nat) (byte : Nat) : Prop :=
  range.1 ≤ byte ∧ byte ≤ range.2

theorem checkContinuation_of_within
    {ranges : List (Nat × Nat)} {continuation : List Nat}
    (within : List.Forall₂ IsWithin ranges continuation) (rest : List Nat) (good : Nat) :
    checkContinuation ranges (continuation ++ rest) good = .ok () := by
  induction within generalizing good with
  | nil => rfl
  | cons isWithin _ inductionHypothesis =>
      rw [List.cons_append, checkContinuation]
      exact (if_pos isWithin).trans (inductionHypothesis (good + 1))

/-- A first byte with the continuation that it asks for is decoded to one character. -/
theorem decodeUtf8From_append
    {first : Nat} {ranges : List (Nat × Nat)} {continuation : List Nat}
    (isFirst : continuationRanges? first = some ranges)
    (within : List.Forall₂ IsWithin ranges continuation)
    (start : Nat) (collected : List Char) (rest : List Nat) :
    decodeUtf8From start collected (first :: continuation ++ rest) =
      decodeUtf8From (start + 1 + ranges.length) (joinBytes first continuation :: collected) rest := by
  rw [List.cons_append, decodeUtf8From]
  simp only [isFirst, checkContinuation_of_within within, within.length_eq, List.take_left,
    List.drop_left]

theorem continuationRanges?_two {first : Nat} (low : 0xC2 ≤ first) (high : first < 0xE0) :
    continuationRanges? first = some [(0x80, 0xBF)] := by
  simp only [continuationRanges?]
  rw [if_neg (by omega), if_neg (by omega), if_pos high]

/-- The byte behind the first of three must not spell a shorter character, nor a surrogate. -/
theorem continuationRanges?_three {first : Nat} (low : 0xE0 ≤ first) (high : first < 0xF0) :
    continuationRanges? first =
      some [if first = 0xE0 then (0xA0, 0xBF) else if first = 0xED then (0x80, 0x9F) else (0x80, 0xBF),
        (0x80, 0xBF)] := by
  simp only [continuationRanges?]
  rw [if_neg (by omega), if_neg (by omega), if_neg (by omega), if_pos high]
  split
  · rfl
  · split <;> rfl

/-- The byte behind the first of four must not spell a shorter character, nor one that is too
large. -/
theorem continuationRanges?_four {first : Nat} (low : 0xF0 ≤ first) (high : first ≤ 0xF4) :
    continuationRanges? first =
      some [if first = 0xF0 then (0x90, 0xBF) else if first = 0xF4 then (0x80, 0x8F) else (0x80, 0xBF),
        (0x80, 0xBF), (0x80, 0xBF)] := by
  simp only [continuationRanges?]
  rw [if_neg (by omega), if_neg (by omega), if_neg (by omega), if_neg (by omega),
    if_neg (by omega), if_neg (by omega)]
  split
  · rfl
  · split
    · next below => rw [if_neg (Nat.ne_of_lt below)]
    · rw [if_pos (by omega), if_pos (by omega)]

/-- The bytes of a character are a first byte and the continuation that it asks for. -/
theorem exists_encodedChar (c : Char) :
    ∃ first ranges continuation, encodedChar c = first :: continuation ∧
      continuationRanges? first = some ranges ∧ List.Forall₂ IsWithin ranges continuation ∧
      joinBytes first continuation = c := by
  have isScalar : c.toNat < 0xD800 ∨ 0xDFFF < c.toNat ∧ c.toNat < 0x110000 := c.valid
  have byteOf {number : Nat} (small : number < 256) : (UInt8.ofNat number).toNat = number :=
    Nat.mod_eq_of_lt small
  have joined {number : Nat} (same : number = c.toNat) : Char.ofNat number = c := by
    rw [same, Char.ofNat_toNat]
  have anyByte (number : Nat) : IsWithin (0x80, 0xBF) (number % 64 + 128) := by
    unfold IsWithin
    omega
  have code : c.val.toNat = c.toNat := rfl
  unfold encodedChar String.utf8EncodeChar
  simp only [code]
  generalize c.toNat = number at *
  -- One to four bytes, as many as the number of the character asks for.
  split
  · rw [List.map_singleton, byteOf (by omega)]
    refine ⟨number, [], [], rfl, ?_, .nil, joined rfl⟩
    rw [continuationRanges?, if_pos (by omega)]
  split
  · rw [List.map_cons, List.map_singleton, byteOf (by omega), byteOf (by omega)]
    refine ⟨_, _, [_], rfl, continuationRanges?_two (by omega) (by omega),
      .cons (anyByte _) .nil, joined ?_⟩
    change (number / 64 % 32 + 192) % 32 * 64 + (number % 64 + 128) % 64 = number
    omega
  split
  · rw [List.map_cons, List.map_cons, List.map_singleton, byteOf (by omega), byteOf (by omega),
      byteOf (by omega)]
    refine ⟨_, _, [_, _], rfl, continuationRanges?_three (by omega) (by omega),
      .cons ?_ (.cons (anyByte _) .nil), joined ?_⟩
    · unfold IsWithin
      split <;> [skip; split] <;> dsimp only <;> omega
    · change ((number / 4096 % 16 + 224) % 16 * 64 + (number / 64 % 64 + 128) % 64) * 64 +
        (number % 64 + 128) % 64 = number
      omega
  · rw [List.map_cons, List.map_cons, List.map_cons, List.map_singleton, byteOf (by omega),
      byteOf (by omega), byteOf (by omega), byteOf (by omega)]
    refine ⟨_, _, [_, _, _], rfl, continuationRanges?_four (by omega) (by omega),
      .cons ?_ (.cons (anyByte _) (.cons (anyByte _) .nil)), joined ?_⟩
    · unfold IsWithin
      split <;> [skip; split] <;> dsimp only <;> omega
    · change (((number / 262144 % 8 + 240) % 8 * 64 + (number / 4096 % 64 + 128) % 64) * 64 +
        (number / 64 % 64 + 128) % 64) * 64 + (number % 64 + 128) % 64 = number
      omega

theorem decodeUtf8From_encoded (text : List Char) (start : Nat) (collected : List Char) :
    decodeUtf8From start collected (text.flatMap encodedChar) = .ok (collected.reverse ++ text) := by
  induction text generalizing start collected with
  | nil => rw [List.flatMap_nil, decodeUtf8From, List.append_nil]
  | cons c rest inductionHypothesis =>
      obtain ⟨first, ranges, continuation, written, isFirst, within, read⟩ := exists_encodedChar c
      rw [List.flatMap_cons, written, decodeUtf8From_append isFirst within, inductionHypothesis,
        read, List.reverse_cons, List.append_assoc, List.singleton_append]

end Text

namespace Storage.Folder

theorem loop_toList (bytes : ByteArray) (index : Nat) (collected : List UInt8) :
    ByteArray.toList.loop bytes index collected =
      collected.reverse ++ bytes.data.toList.drop index := by
  fun_induction ByteArray.toList.loop bytes index collected with
  | case1 index collected inside inductionHypothesis =>
      have isByte : index < bytes.data.toList.length := inside
      have found : bytes.get! index = bytes.data.toList[index] := by
        rw [ByteArray.get!, Array.getElem_toList]
        exact getElem!_pos bytes.data index inside
      rw [inductionHypothesis, List.drop_eq_getElem_cons isByte, List.reverse_cons, found,
        List.append_assoc, List.singleton_append]
  | case2 index collected outside =>
      have atEnd : bytes.data.toList.length ≤ index := Nat.le_of_not_lt outside
      rw [List.drop_eq_nil_of_le atEnd, List.append_nil]

theorem bytesOf_eq (text : String) : bytesOf text = text.toList.flatMap Text.encodedChar := by
  have listed : text.toUTF8.toList = text.toList.flatMap String.utf8EncodeChar := by
    rw [String.toUTF8_eq_toByteArray, ← String.utf8Encode_toList, ByteArray.toList, loop_toList,
      List.utf8Encode, List.data_toByteArray]
    rfl
  rw [bytesOf, listed, List.map_flatMap]
  rfl

/-- What is written to a file is read as the same text. -/
theorem decodeUtf8_bytesOf (text : String) : Text.decodeUtf8 (bytesOf text) = .ok text := by
  rw [Text.decodeUtf8, bytesOf_eq, Text.decodeUtf8From_encoded]
  exact congrArg Except.ok String.ofList_toList

end Storage.Folder

end SchemaSignature
