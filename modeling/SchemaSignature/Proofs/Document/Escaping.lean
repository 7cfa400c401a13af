import Mathlib.Algebra.Group.Nat.Defs
import SchemaSignature.Proofs.Document.Pointers
import SchemaSignature.Proofs.Text.Reading

/-!
How the steps of a pointer are written. Escaping a key, with `~0` for a tilde and `~1` for a slash,
gives one piece of a pointer, from which the key is read again; and a position is read again from the
number that it is. Pieces with a slash in front of each are the steps of the pointer that they form,
unless an empty one stands in front.
-/

namespace SchemaSignature.Pointer

/-! ## Escaping -/

def escapeChar (c : Char) : List Char :=
  if c = '~' then ['~', '0'] else if c = '/' then ['~', '1'] else [c]

/-- The piece of a pointer that stands for a key. -/
def escape (key : List Char) : List Char :=
  key.flatMap escapeChar

/-- A key without tildes and slashes is its own piece. -/
theorem escape_of_not_mem {key : List Char} (noTilde : '~' ∉ key) (noSlash : '/' ∉ key) :
    escape key = key := by
  induction key with
  | nil => rfl
  | cons c rest inductionHypothesis =>
      have notTilde : c ≠ '~' := fun same => noTilde (same ▸ List.mem_cons_self)
      have notSlash : c ≠ '/' := fun same => noSlash (same ▸ List.mem_cons_self)
      have restEscaped := inductionHypothesis
        (fun isTilde => noTilde (List.mem_cons_of_mem _ isTilde))
        (fun isSlash => noSlash (List.mem_cons_of_mem _ isSlash))
      rw [escape] at restEscaped ⊢
      rw [List.flatMap_cons, restEscaped, escapeChar, if_neg notTilde, if_neg notSlash]
      rfl

/-- A character that begins no pair stays in its place. -/
theorem replacePair_cons_of_head
    {first second c : Char} {rest : List Char} (noPair : c = first → ∀ d ∈ rest.head?, d ≠ second)
    (replacement : Char) :
    replacePair first second replacement (c :: rest) =
      c :: replacePair first second replacement rest := by
  cases rest with
  | nil => simp [replacePair]
  | cons d others =>
      rw [replacePair, if_neg]
      rintro ⟨isFirst, isSecond⟩
      exact noPair isFirst d rfl isSecond

theorem replacePair_cons_of_ne
    {first c : Char} (different : c ≠ first) (second replacement : Char) (rest : List Char) :
    replacePair first second replacement (c :: rest) =
      c :: replacePair first second replacement rest :=
  replacePair_cons_of_head (fun same => absurd same different) replacement

theorem replacePair_of_not_mem
    {first : Char} {text : List Char} (absent : first ∉ text) (second replacement : Char) :
    replacePair first second replacement text = text := by
  induction text with
  | nil => simp [replacePair]
  | cons c rest inductionHypothesis =>
      have different : c ≠ first := fun same => absent (same ▸ List.mem_cons_self)
      have restAbsent : first ∉ rest := fun present => absent (List.mem_cons_of_mem _ present)
      rw [replacePair_cons_of_ne different, inductionHypothesis restAbsent]

theorem replacePair_ne_nil
    {text : List Char} (notEmpty : text ≠ []) (first second replacement : Char) :
    replacePair first second replacement text ≠ [] := by
  cases text with
  | nil => exact absurd rfl notEmpty
  | cons c rest =>
      cases rest with
      | nil => simp [replacePair]
      | cons next others =>
          rw [replacePair]
          split <;> simp

theorem unescape_of_not_mem {piece : List Char} (absent : '~' ∉ piece) : unescape piece = piece := by
  rw [unescape, replacePair_of_not_mem absent, replacePair_of_not_mem absent]

theorem unescape_ne_nil {piece : List Char} (notEmpty : piece ≠ []) : unescape piece ≠ [] := by
  have replaced := replacePair_ne_nil notEmpty '~' '1' '/'
  exact replacePair_ne_nil replaced '~' '0' '~'

/-- A key with only its tildes escaped. -/
def escapeTildes (key : List Char) : List Char :=
  key.flatMap fun c => if c = '~' then ['~', '0'] else [c]

theorem replaceSlashes_escape (key : List Char) :
    replacePair '~' '1' '/' (escape key) = escapeTildes key := by
  induction key with
  | nil => simp [escape, escapeTildes, replacePair]
  | cons c rest inductionHypothesis =>
      have zero : '0' ≠ '~' := by decide
      simp only [escape, escapeTildes, List.flatMap_cons] at inductionHypothesis ⊢
      by_cases isTilde : c = '~'
      · simp [escapeChar, isTilde, replacePair, replacePair_cons_of_ne zero, inductionHypothesis]
      · by_cases isSlash : c = '/'
        · simp [escapeChar, isSlash, replacePair, inductionHypothesis]
        · simp [escapeChar, isTilde, isSlash, replacePair_cons_of_ne isTilde, inductionHypothesis]

theorem replaceTildes_escapeTildes (key : List Char) :
    replacePair '~' '0' '~' (escapeTildes key) = key := by
  induction key with
  | nil => simp [escapeTildes, replacePair]
  | cons c rest inductionHypothesis =>
      simp only [escapeTildes, List.flatMap_cons] at inductionHypothesis ⊢
      by_cases isTilde : c = '~'
      · simp [isTilde, replacePair, inductionHypothesis]
      · simp [isTilde, replacePair_cons_of_ne isTilde, inductionHypothesis]

@[simp]
theorem unescape_escape (key : List Char) : unescape (escape key) = key := by
  rw [unescape, replaceSlashes_escape, replaceTildes_escapeTildes]

theorem slash_not_mem_escape (key : List Char) : '/' ∉ escape key := by
  intro present
  obtain ⟨c, _, isInside⟩ := List.mem_flatMap.mp present
  unfold escapeChar at isInside
  split at isInside
  · simp at isInside
  · split at isInside
    · simp at isInside
    · next isOther =>
        rw [List.mem_singleton] at isInside
        exact isOther isInside.symm

theorem escape_ne_nil {key : List Char} (notEmpty : key ≠ []) : escape key ≠ [] := by
  intro empty
  rw [← unescape_escape key, empty] at notEmpty
  exact notEmpty rfl

/-! ## The steps of a spelled pointer -/

/-- Pieces without slashes, with a slash in front of each. -/
def join (pieces : List (List Char)) : List Char :=
  pieces.flatMap ('/' :: ·)

theorem pieces_join
    {first : List Char} {others : List (List Char)} (firstPiece : '/' ∉ first)
    (otherPieces : ∀ piece ∈ others, '/' ∉ piece) :
    Text.pieces '/' (first ++ join others) = first :: others := by
  induction others generalizing first with
  | nil => rw [join, List.flatMap_nil, List.append_nil, Text.pieces_of_not_mem firstPiece]
  | cons second rest inductionHypothesis =>
      have secondPiece := otherPieces second List.mem_cons_self
      have restPieces : ∀ piece ∈ rest, '/' ∉ piece :=
        fun piece later => otherPieces piece (List.mem_cons_of_mem _ later)
      have unfolded : join (second :: rest) = '/' :: (second ++ join rest) := by
        simp [join, List.flatMap_cons]
      rw [unfolded, Text.pieces_append firstPiece, inductionHypothesis secondPiece restPieces]

/-- Slashes in front of the first piece are lost, however many they are, so it must not be empty unless
it is the only one. -/
theorem steps_slashes
    {first : List Char} {others : List (List Char)}
    (onePieces : ∀ piece ∈ first :: others, '/' ∉ piece) (begins : first ≠ [] ∨ others = [])
    (slashes : Nat) :
    steps (List.replicate slashes '/' ++ (first ++ join others)) =
      (first :: others).map fun piece => String.ofList (unescape piece) := by
  have firstPiece := onePieces first List.mem_cons_self
  have otherPieces : ∀ piece ∈ others, '/' ∉ piece :=
    fun piece later => onePieces piece (List.mem_cons_of_mem _ later)
  have dropped : (List.replicate slashes '/' ++ (first ++ join others)).dropWhile (· == '/') =
      first ++ join others := by
    rw [List.dropWhile_append_of_pos fun c isSlash => beq_iff_eq.mpr (List.eq_of_mem_replicate isSlash)]
    cases first with
    | nil =>
        have noOthers : others = [] := begins.resolve_left fun notEmpty => notEmpty rfl
        rw [noOthers]
        rfl
    | cons c rest =>
        have isOther : c ≠ '/' := by
          rintro rfl
          exact firstPiece List.mem_cons_self
        simp [isOther]
  rw [steps, dropped, pieces_join firstPiece otherPieces]

theorem steps_join
    {first : List Char} {others : List (List Char)}
    (onePieces : ∀ piece ∈ first :: others, '/' ∉ piece) (begins : first ≠ [] ∨ others = []) :
    steps (join (first :: others)) =
      (first :: others).map fun piece => String.ofList (unescape piece) := by
  have unfolded : join (first :: others) = List.replicate 1 '/' ++ (first ++ join others) := by
    simp [join, List.flatMap_cons]
  rw [unfolded, steps_slashes onePieces begins]

/-- The first of several steps of a pointer is not empty. -/
theorem steps_begin {pointer : List Char} {first second : String} {rest : List String}
    (taken : steps pointer = first :: second :: rest) : first.toList ≠ [] := by
  unfold steps at taken
  have notSlash : ∀ c ∈ (pointer.dropWhile (· == '/')).head?, c ≠ '/' := by
    intro c isFirst isSlash
    have passed := List.head?_dropWhile_not (· == '/') pointer
    rw [Option.mem_def.mp isFirst] at passed
    simp [isSlash] at passed
  cases remaining : pointer.dropWhile (· == '/') with
  | nil =>
      rw [remaining] at taken
      cases taken
  | cons c others =>
      rw [remaining] at taken notSlash
      have isOther : c ≠ '/' := notSlash c rfl
      rw [Text.pieces, if_neg isOther] at taken
      cases listed : Text.pieces '/' others with
      | nil => exact absurd listed (Text.pieces_ne_nil '/' others)
      | cons piece more =>
          rw [listed, Text.prependToFirst, List.map_cons] at taken
          have sameFirst := (List.cons.inj taken).1
          rw [← sameFirst, String.toList_ofList]
          exact unescape_ne_nil (List.cons_ne_nil _ _)

/-! ## Numerals -/

theorem decimalValue?_of_isDigit {c : Char} (isDigit : c.isDigit = true) :
    Text.isDigit c = true ∧ Text.decimalValue? c = some (c.toNat - '0'.toNat) := by
  have bounds := Char.isDigit_iff_toNat.mp isDigit
  have small : c.toNat < 128 := Nat.lt_of_le_of_lt bounds.2 (by decide)
  simp [Text.isDigit, Text.decimalValue?, small, isDigit]

theorem decimalValue?_lt {c : Char} {value : Nat} (valued : Text.decimalValue? c = some value) :
    value < 10 := by
  unfold Text.decimalValue? at valued
  split at valued
  · split at valued
    · next isDigit =>
        have bounds := Char.isDigit_iff_toNat.mp isDigit
        have greatest : '9'.toNat = 57 := by decide
        have same := Option.some.inj valued
        omega
    · cases valued
  · obtain ⟨base, found, rfl⟩ := Option.map_eq_some_iff.mp valued
    have inRun := List.find?_some found
    simp only [Bool.and_eq_true, decide_eq_true_eq] at inRun
    omega

/-- Decimals are read as the number that they write. -/
theorem decimalNumber?_of_digits
    {digits : List Char} (areDigits : ∀ c ∈ digits, c.isDigit = true) :
    Text.decimalNumber? digits = some (Nat.ofDigitChars 10 digits 0) := by
  have readOn : ∀ start, digits.foldlM
      (fun number c => (Text.decimalValue? c).map (number * 10 + ·)) start =
        some (Nat.ofDigitChars 10 digits start) := by
    induction digits with
    | nil => simp
    | cons c rest inductionHypothesis =>
        intro start
        have valued := (decimalValue?_of_isDigit (areDigits c List.mem_cons_self)).2
        have restRead := inductionHypothesis
          (fun other later => areDigits other (List.mem_cons_of_mem _ later))
        rw [List.foldlM_cons, valued, Nat.ofDigitChars_cons, Nat.mul_comm 10 start]
        exact restRead _
  exact readOn 0

/-- What is read as a number consists of decimals, and is bounded by how many they are. -/
theorem of_foldlM_decimals {digits : List Char} {start number : Nat}
    (read : digits.foldlM (fun number c => (Text.decimalValue? c).map (number * 10 + ·)) start =
      some number) :
    (∀ c ∈ digits, (Text.decimalValue? c).isSome = true) ∧
      number < (start + 1) * 10 ^ digits.length := by
  induction digits generalizing start with
  | nil =>
      cases read
      simp
  | cons c rest inductionHypothesis =>
      rw [List.foldlM_cons] at read
      obtain ⟨next, stepped, readRest⟩ := Option.bind_eq_some_iff.mp read
      obtain ⟨value, valued, rfl⟩ := Option.map_eq_some_iff.mp stepped
      obtain ⟨restValued, bounded⟩ := inductionHypothesis readRest
      have small := decimalValue?_lt valued
      refine ⟨?_, ?_⟩
      · intro other isListed
        rcases List.mem_cons.mp isListed with rfl | later
        · rw [valued]
          rfl
        · exact restValued other later
      · calc
          number < (start * 10 + value + 1) * 10 ^ rest.length := bounded
          _ ≤ ((start + 1) * 10) * 10 ^ rest.length := Nat.mul_le_mul_right _ (by omega)
          _ = (start + 1) * 10 ^ (c :: rest).length := by
            rw [List.length_cons, Nat.pow_succ', Nat.mul_assoc]

/-- The digits of a number are read as that number. -/
theorem decimalNumber?_toString (place : Nat) :
    Text.decimalNumber? (toString place).toList = some place := by
  have areDigits : ∀ c ∈ Nat.toDigits 10 place, c.isDigit = true :=
    fun c isDigit => Nat.isDigit_of_mem_toDigits (by decide) (by decide) isDigit
  rw [Nat.toString_eq_repr, Nat.toList_repr, decimalNumber?_of_digits areDigits,
    Nat.ofDigitChars_ten_toDigits]

theorem length_toString_le_iff {place : Nat} :
    (toString place).toList.length ≤ Number.digitLimit ↔ place < 10 ^ Number.digitLimit := by
  rw [Nat.toString_eq_repr, Nat.toList_repr]
  exact Nat.length_toDigits_le_iff (by decide) (by decide)

theorem decimals_of_decimalNumber?
    {piece : List Char} {place : Nat} (counts : Text.decimalNumber? piece = some place) :
    ∀ c ∈ piece, (Text.decimalValue? c).isSome = true :=
  (of_foldlM_decimals counts).1

/-- A position is read from decimals that are not too many. -/
theorem position_eq_ok_iff {piece : List Char} {place : Nat} :
    position (String.ofList piece) = .ok place ↔
      Text.decimalNumber? piece = some place ∧ piece.length ≤ Number.digitLimit := by
  unfold position
  simp only [String.toList_ofList]
  cases counts : Text.decimalNumber? piece with
  | none => split <;> simp
  | some number =>
      have decimals := decimals_of_decimalNumber? counts
      rw [List.takeWhile_eq_self_iff.mpr decimals]
      by_cases long : Number.digitLimit < piece.length
      · simp [long]
      · simp [long, Nat.not_lt.mp long]

/-- A position that has been read can be written as a number and read again. -/
theorem position_toString {piece : String} {place : Nat} (read : position piece = .ok place) :
    position (toString place) = .ok place := by
  rw [← String.ofList_toList (s := piece), position_eq_ok_iff] at read
  obtain ⟨counts, short⟩ := read
  have bounded : place < 10 ^ Number.digitLimit := by
    have below := (of_foldlM_decimals counts).2
    rw [Nat.zero_add, Nat.one_mul] at below
    exact Nat.lt_of_lt_of_le below (Nat.pow_le_pow_right (by decide) short)
  rw [← String.ofList_toList (s := toString place), position_eq_ok_iff]
  exact ⟨decimalNumber?_toString place, length_toString_le_iff.mpr bounded⟩

end SchemaSignature.Pointer
