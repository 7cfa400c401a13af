import SchemaSignature.Proofs.Document.Locations

/-!
What a piece of a pointer can stand for. A piece is read as a key by an unambiguous grammar, in which
a tilde in front of anything but `0` and `1` stands for itself; and as a position if it consists of
decimals of any script. Each step has one standard piece, in which every tilde escapes something, and
a number has ASCII digits and no needless zero in front.
-/

namespace SchemaSignature.Pointer

/-! ## Keys -/

/-- A piece is read as a key: `~1` as a slash, `~0` as a tilde, and all else as it stands. -/
inductive Reads : List Char → List Char → Prop where
  | done : Reads [] []
  | slash {piece key : List Char} (later : Reads piece key) :
      Reads ('~' :: '1' :: piece) ('/' :: key)
  | tilde {piece key : List Char} (later : Reads piece key) :
      Reads ('~' :: '0' :: piece) ('~' :: key)
  | plain {c : Char} {piece key : List Char}
      (escapesNothing : c = '~' → ∀ d ∈ piece.head?, d ≠ '0' ∧ d ≠ '1')
      (later : Reads piece key) : Reads (c :: piece) (c :: key)

theorem exists_reads : (piece : List Char) → ∃ key, Reads piece key
  | [] => ⟨[], .done⟩
  | [c] => ⟨[c], .plain (fun _ _ impossible => by cases impossible) .done⟩
  | c :: d :: rest => by
      by_cases escapes : c = '~' ∧ (d = '0' ∨ d = '1')
      · obtain ⟨key, reads⟩ := exists_reads rest
        obtain ⟨rfl, rfl | rfl⟩ := escapes
        · exact ⟨_, .tilde reads⟩
        · exact ⟨_, .slash reads⟩
      · obtain ⟨key, reads⟩ := exists_reads (d :: rest)
        refine ⟨c :: key, .plain (fun isTilde next isNext => ?_) reads⟩
        cases isNext
        exact ⟨fun isZero => escapes ⟨isTilde, Or.inl isZero⟩,
          fun isOne => escapes ⟨isTilde, Or.inr isOne⟩⟩

theorem head_replacePair
    {first second replacement : Char} {text : List Char} {c : Char}
    (isHead : c ∈ (replacePair first second replacement text).head?) :
    c = replacement ∨ c ∈ text.head? := by
  match text with
  | [] => simp [replacePair] at isHead
  | [_] => exact Or.inr (by simpa [replacePair] using isHead)
  | _ :: _ :: _ =>
      rw [replacePair] at isHead
      split at isHead
      · cases isHead
        exact Or.inl rfl
      · exact Or.inr isHead

/-- Replacing one escape after the other reads a piece from left to right. -/
theorem Reads.eq_unescape {piece key : List Char} (reads : Reads piece key) :
    key = unescape piece := by
  induction reads with
  | done => simp [unescape, replacePair]
  | slash _ inductionHypothesis =>
      rw [inductionHypothesis, unescape, unescape, replacePair, if_pos ⟨rfl, rfl⟩,
        replacePair_cons_of_ne (by decide)]
  | @tilde piece key _ inductionHypothesis =>
      have firstPass : replacePair '~' '1' '/' ('~' :: '0' :: piece) =
          '~' :: '0' :: replacePair '~' '1' '/' piece := by
        rw [replacePair, if_neg (by decide), replacePair_cons_of_ne (by decide)]
      rw [inductionHypothesis, unescape, unescape, firstPass, replacePair, if_pos ⟨rfl, rfl⟩]
  | @plain c piece key escapesNothing _ inductionHypothesis =>
      have firstPass : replacePair '~' '1' '/' (c :: piece) =
          c :: replacePair '~' '1' '/' piece :=
        replacePair_cons_of_head (fun isTilde d isNext => (escapesNothing isTilde d isNext).2) _
      -- The first pass puts no `0` behind a tilde that had none.
      have noZero : c = '~' → ∀ d ∈ (replacePair '~' '1' '/' piece).head?, d ≠ '0' := by
        intro isTilde d isNext
        rcases head_replacePair isNext with rfl | isNext
        · decide
        · exact (escapesNothing isTilde d isNext).1
      rw [inductionHypothesis, unescape, unescape, firstPass, replacePair_cons_of_head noZero]

theorem reads_iff {piece key : List Char} : Reads piece key ↔ unescape piece = key := by
  constructor
  · intro reads
    exact reads.eq_unescape.symm
  · rintro rfl
    obtain ⟨key, reads⟩ := exists_reads piece
    exact reads.eq_unescape ▸ reads

/-- Every tilde in a piece is followed by `0` or by `1`. -/
def isEscaped : List Char → Bool
  | [] => true
  | c :: rest =>
      (c != '~' || rest.head? == some '0' || rest.head? == some '1') && isEscaped rest

/-- The escaped key is the only piece read as the key in which every tilde escapes something. -/
theorem Reads.eq_escape_iff
    {piece key : List Char} (reads : Reads piece key) (onePiece : '/' ∉ piece) :
    piece = escape key ↔ isEscaped piece = true := by
  induction reads with
  | done => simp [escape, isEscaped]
  | @slash piece key _ inductionHypothesis =>
      have restPiece : '/' ∉ piece := fun present =>
        onePiece (List.mem_cons_of_mem _ (List.mem_cons_of_mem _ present))
      rw [escape, List.flatMap_cons]
      simpa [escapeChar, isEscaped, escape] using inductionHypothesis restPiece
  | @tilde piece key _ inductionHypothesis =>
      have restPiece : '/' ∉ piece := fun present =>
        onePiece (List.mem_cons_of_mem _ (List.mem_cons_of_mem _ present))
      rw [escape, List.flatMap_cons]
      simpa [escapeChar, isEscaped, escape] using inductionHypothesis restPiece
  | @plain c piece key escapesNothing _ inductionHypothesis =>
      have restPiece : '/' ∉ piece := fun present => onePiece (List.mem_cons_of_mem _ present)
      have notSlash : c ≠ '/' := by
        rintro rfl
        exact onePiece List.mem_cons_self
      rw [escape, List.flatMap_cons]
      by_cases isTilde : c = '~'
      · -- A tilde that escapes nothing is not in the escaped key.
        have noZero : piece.head? ≠ some '0' := fun isZero => (escapesNothing isTilde _ isZero).1 rfl
        have noOne : piece.head? ≠ some '1' := fun isOne => (escapesNothing isTilde _ isOne).2 rfl
        have different : c :: piece ≠ escapeChar c ++ key.flatMap escapeChar := by
          rw [isTilde]
          intro same
          have rest : piece = '0' :: key.flatMap escapeChar := (List.cons.inj same).2
          exact noZero (by rw [rest]; rfl)
        simp [isEscaped, isTilde, noZero, noOne, isTilde ▸ different]
      · simpa [escapeChar, isEscaped, isTilde, notSlash, escape] using
          inductionHypothesis restPiece

/-! ## Positions -/

/-- Decimals are digits. -/
theorem isDigit_of_decimalValue? {c : Char} (valued : (Text.decimalValue? c).isSome = true) :
    Text.isDigit c = true := by
  have runs : ∀ base ∈ Text.decimalZeros, ∃ range ∈ Text.digitRanges,
      range.1 ≤ base ∧ base + 9 ≤ range.2 := by decide +kernel
  unfold Text.decimalValue? at valued
  unfold Text.isDigit
  split at valued
  · next ascii =>
      rw [if_pos ascii]
      split at valued
      · next isDigit => exact isDigit
      · cases valued
  · next wide =>
      rw [if_neg wide, Text.inRanges_eq_true_iff]
      rw [Option.isSome_map] at valued
      obtain ⟨base, found⟩ := Option.isSome_iff_exists.mp valued
      have inRun := List.find?_some found
      simp only [Bool.and_eq_true, decide_eq_true_eq] at inRun
      obtain ⟨range, isRange, lower, upper⟩ := runs base (List.mem_of_find?_eq_some found)
      exact ⟨range, isRange, by omega, by omega⟩

theorem exists_foldlM_decimals
    {digits : List Char} (valued : ∀ c ∈ digits, (Text.decimalValue? c).isSome = true)
    (start : Nat) :
    ∃ number, digits.foldlM (fun number c => (Text.decimalValue? c).map (number * 10 + ·)) start =
      some number := by
  induction digits generalizing start with
  | nil => exact ⟨start, rfl⟩
  | cons c rest inductionHypothesis =>
      obtain ⟨value, isValue⟩ := Option.isSome_iff_exists.mp (valued c List.mem_cons_self)
      obtain ⟨number, read⟩ := inductionHypothesis
        (fun other later => valued other (List.mem_cons_of_mem _ later)) (start * 10 + value)
      exact ⟨number, by rw [List.foldlM_cons, isValue]; exact read⟩

theorem decimalNumber?_eq_none_iff {piece : List Char} :
    Text.decimalNumber? piece = none ↔ ∃ c ∈ piece, Text.decimalValue? c = none := by
  constructor
  · intro unread
    by_contra allValued
    have valued : ∀ c ∈ piece, (Text.decimalValue? c).isSome = true := fun c isListed =>
      Option.isSome_iff_ne_none.mpr fun noValue => allValued ⟨c, isListed, noValue⟩
    obtain ⟨number, read⟩ := exists_foldlM_decimals valued 0
    cases unread.symm.trans read
  · rintro ⟨c, isListed, noValue⟩
    cases counts : Text.decimalNumber? piece with
    | none => rfl
    | some number =>
        have valued := decimals_of_decimalNumber? counts c isListed
        rw [noValue] at valued
        cases valued

/-- The decimals at the beginning of a piece. -/
def decimals (piece : List Char) : List Char :=
  piece.takeWhile fun c => (Text.decimalValue? c).isSome

/-- How a piece is refused as a position: it begins with too many decimals, or not all of its
characters are decimals. -/
inductive Miscounts (piece : List Char) : Failure → Prop where
  | tooMany (long : Number.digitLimit < (decimals piece).length) :
      Miscounts piece (.misuse (.tooManyDigits (decimals piece).length))
  | notAllDecimals (short : (decimals piece).length ≤ Number.digitLimit) {c : Char}
      (isListed : c ∈ piece) (noDecimal : Text.decimalValue? c = none) :
      Miscounts piece (.misuse (.notANumeral (String.ofList piece)))

theorem position_eq_error_iff {piece : List Char} {failure : Failure} :
    position (String.ofList piece) = .error failure ↔ Miscounts piece failure := by
  unfold position
  simp only [String.toList_ofList]
  change (if Number.digitLimit < (decimals piece).length then _ else _) = _ ↔ _
  constructor
  · intro refused
    split at refused
    · next long =>
        cases refused
        exact .tooMany long
    · next short =>
        split at refused
        · cases refused
        · next unread =>
            cases refused
            obtain ⟨c, isListed, noDecimal⟩ := decimalNumber?_eq_none_iff.mp unread
            exact .notAllDecimals (Nat.not_lt.mp short) isListed noDecimal
  · rintro (long | ⟨short, isListed, noDecimal⟩)
    · rw [if_pos long]
      rfl
    · rw [if_neg (Nat.not_lt.mpr short),
        decimalNumber?_eq_none_iff.mpr ⟨_, isListed, noDecimal⟩]

theorem toDigits_of_isDigit {c : Char} (isDigit : c.isDigit = true) :
    c.toNat - '0'.toNat < 10 ∧ Nat.toDigits 10 (c.toNat - '0'.toNat) = [c] := by
  have bounds := Char.isDigit_iff_toNat.mp isDigit
  have least : '0'.toNat = 48 := by decide
  have greatest : '9'.toNat = 57 := by decide
  have small : c.toNat - '0'.toNat < 10 := by omega
  refine ⟨small, ?_⟩
  rw [Nat.toDigits_of_lt_base small, List.singleton_inj]
  apply Char.toNat_inj.mp
  rw [Nat.toNat_digitChar_of_lt_ten small]
  omega

/-- Digits behind the text of a positive number extend it to the text of a longer number. -/
theorem toDigits_append
    {digits : List Char} (areDigits : ∀ c ∈ digits, c.isDigit = true) {start : Nat}
    (positive : 0 < start) :
    Nat.toDigits 10 start ++ digits = Nat.toDigits 10 (Nat.ofDigitChars 10 digits start) := by
  induction digits generalizing start with
  | nil => rw [List.append_nil, Nat.ofDigitChars_nil]
  | cons c rest inductionHypothesis =>
      obtain ⟨small, single⟩ := toDigits_of_isDigit (areDigits c List.mem_cons_self)
      have longer := inductionHypothesis
        (fun other later => areDigits other (List.mem_cons_of_mem _ later))
        (show 0 < 10 * start + (c.toNat - '0'.toNat) by omega)
      calc
        Nat.toDigits 10 start ++ c :: rest = (Nat.toDigits 10 start ++ [c]) ++ rest := by simp
        _ = Nat.toDigits 10 (10 * start + (c.toNat - '0'.toNat)) ++ rest := by
          rw [← single, Nat.toDigits_append_toDigits (by decide) positive small]
        _ = Nat.toDigits 10 (Nat.ofDigitChars 10 (c :: rest) start) := by
          rw [longer, Nat.ofDigitChars_cons]

/-- A piece is a number as it is written: ASCII digits, without a needless zero in front. -/
def isNumeral (piece : List Char) : Bool :=
  piece.all Char.isDigit && (piece.head? != some '0' || piece == ['0'])

theorem eq_toString_iff
    {piece : List Char} {place : Nat} (present : piece ≠ [])
    (counts : Text.decimalNumber? piece = some place) :
    piece = (toString place).toList ↔ isNumeral piece = true := by
  obtain ⟨first, rest, rfl⟩ := List.exists_cons_of_ne_nil present
  rw [Nat.toString_eq_repr, Nat.toList_repr, isNumeral, Bool.and_eq_true, List.all_eq_true]
  simp only [List.head?_cons, Bool.or_eq_true, bne_iff_ne, beq_iff_eq, ne_eq, Option.some.injEq,
    List.cons.injEq]
  constructor
  · intro written
    have areDigits : ∀ c ∈ first :: rest, c.isDigit = true := fun c isDigit =>
      Nat.isDigit_of_mem_toDigits (by decide) (by decide) (written ▸ isDigit)
    refine ⟨areDigits, ?_⟩
    by_cases isZero : first = '0'
    · -- The other digits alone bound the number, so that its text is shorter.
      have zero : Text.decimalValue? '0' = some 0 := by decide
      rw [isZero, Text.decimalNumber?, List.foldlM_cons, zero] at counts
      obtain ⟨_, bounded⟩ := of_foldlM_decimals counts
      rw [Nat.zero_mul, Nat.zero_add, Nat.one_mul] at bounded
      cases rest with
      | nil => exact Or.inr ⟨isZero, rfl⟩
      | cons second others =>
          have shorter := (Nat.length_toDigits_le_iff (show 1 < 10 by decide)
            (Nat.succ_pos others.length)).mpr bounded
          rw [← written, List.length_cons, List.length_cons] at shorter
          omega
    · exact Or.inl isZero
  · rintro ⟨areDigits, begins⟩
    obtain ⟨_, single⟩ := toDigits_of_isDigit (areDigits first List.mem_cons_self)
    rw [decimalNumber?_of_digits areDigits, Option.some.injEq, Nat.ofDigitChars_cons,
      Nat.mul_zero, Nat.zero_add] at counts
    rcases begins with notZero | ⟨rfl, rfl⟩
    · have positive : 0 < first.toNat - '0'.toNat := by
        rw [Nat.pos_iff_ne_zero]
        intro isZero
        rw [isZero, Nat.toDigits_zero] at single
        exact notZero (List.cons.inj single).1.symm
      have restDigits := fun c later => areDigits c (List.mem_cons_of_mem first later)
      rw [← counts, ← toDigits_append restDigits positive, single]
      rfl
    · rw [← counts]
      rfl

/-! ## Steps -/

/-- A piece takes a step: to a key that it is read as, or to the position that its decimals write. -/
inductive Takes (piece : List Char) : Step → Prop where
  | key {name : String} (reads : Reads piece name.toList) : Takes piece (.key name)
  | index {place : Nat} (present : piece ≠ [])
      (counts : Text.decimalNumber? piece = some place)
      (short : piece.length ≤ Number.digitLimit) : Takes piece (.index place)

/-- A piece is written by the standard of pointers, for a step to a key or to a position. -/
def Step.isStandard : Step → List Char → Bool
  | .key _, piece => isEscaped piece
  | .index _, piece => isNumeral piece

/-- Of the pieces that take a step, its own is the one that is written by the standard. -/
theorem Takes.eq_piece_iff
    {piece : List Char} {step : Step} (takes : Takes piece step) (onePiece : '/' ∉ piece) :
    piece = step.piece ↔ step.isStandard piece = true := by
  cases takes with
  | key reads => exact reads.eq_escape_iff onePiece
  | index present counts _ => exact eq_toString_iff present counts

/-- The text that a piece is read as. -/
def stepText (piece : List Char) : String :=
  String.ofList (unescape piece)

theorem stepText_of_digits
    {piece : List Char} (digits : ∀ c ∈ piece, Text.isDigit c = true) :
    stepText piece = String.ofList piece := by
  have noTilde : '~' ∉ piece := by
    intro present
    have isDigit := digits '~' present
    cases isDigit
  rw [stepText, unescape_of_not_mem noTilde]

/-- Only a piece without escapes is read as digits. -/
theorem unescape_of_digits
    {piece : List Char} (digits : ∀ c ∈ unescape piece, Text.isDigit c = true) :
    unescape piece = piece := by
  have reads : Reads piece (unescape piece) := reads_iff.mpr rfl
  generalize unescape piece = key at reads digits
  induction reads with
  | done => rfl
  | slash _ _ =>
      have isDigit := digits '/' List.mem_cons_self
      cases isDigit
  | tilde _ _ =>
      have isDigit := digits '~' List.mem_cons_self
      cases isDigit
  | plain _ _ inductionHypothesis =>
      rw [inductionHypothesis fun c later => digits c (List.mem_cons_of_mem _ later)]

/-- A piece consists of digits of any kind. -/
def IsDigits (piece : List Char) : Prop :=
  piece ≠ [] ∧ ∀ c ∈ piece, Text.isDigit c = true

theorem isDigits_iff {piece : List Char} :
    (!(stepText piece).isEmpty && (stepText piece).toList.all Text.isDigit) = true ↔
      IsDigits piece := by
  rw [IsDigits]
  constructor
  · intro areDigits
    simp only [stepText, String.toList_ofList, Bool.and_eq_true, Bool.not_eq_true',
      List.all_eq_true] at areDigits
    rw [unescape_of_digits areDigits.2] at areDigits
    refine ⟨?_, areDigits.2⟩
    rintro rfl
    simp at areDigits
  · rintro ⟨present, digits⟩
    rw [stepText_of_digits digits, String.toList_ofList, List.all_eq_true.mpr digits]
    simp [present]

theorem Takes.isDigits {piece : List Char} {place : Nat} (takes : Takes piece (.index place)) :
    IsDigits piece := by
  cases takes with
  | index present counts _ =>
      exact ⟨present, fun c isDecimal =>
        isDigit_of_decimalValue? (decimals_of_decimalNumber? counts c isDecimal)⟩

/-- In a value, a piece is followed by the steps that it takes. -/
theorem stepIn?_stepText_iff
    {target next : Json} {piece : List Char} {step : Step}
    (entered : step.enter? target = some next) :
    stepIn? target (stepText piece) = some step ↔ Takes piece step := by
  cases step with
  | key name =>
      cases target with
      | obj members =>
          rw [stepIn?, Option.some.injEq, Step.key.injEq, stepText]
          constructor
          · rintro rfl
            exact .key (by rw [String.toList_ofList]; exact reads_iff.mpr rfl)
          · rintro (reads | _)
            rw [reads_iff.mp reads, String.ofList_toList]
      | _ => cases entered
  | index place =>
      cases target with
      | arr items =>
          rw [stepIn?]
          constructor
          · intro isStep
            split at isStep
            · next areDigits =>
                obtain ⟨present, digits⟩ := isDigits_iff.mp areDigits
                obtain ⟨number, read, same⟩ := Option.map_eq_some_iff.mp isStep
                cases same
                rw [stepText_of_digits digits] at read
                cases outcome : position (String.ofList piece) with
                | error failure => simp [outcome, Except.toOption] at read
                | ok other =>
                    obtain ⟨counts, short⟩ := position_eq_ok_iff.mp outcome
                    simp only [outcome, Except.toOption, Option.some.injEq] at read
                    exact .index present (read ▸ counts) short
            · cases isStep
          · intro takes
            rw [if_pos (isDigits_iff.mpr takes.isDigits), stepText_of_digits takes.isDigits.2]
            cases takes with
            | index present counts short =>
                rw [position_eq_ok_iff.mpr ⟨counts, short⟩]
                rfl
      | _ => cases entered

/-- Following a piece fails because of its digits, or because there is nothing to enter. -/
theorem follow_stepText_error
    {reference : String} {target : Json} {piece : List Char} {failure : Failure}
    (failed : follow reference target (stepText piece) = .error failure) :
    (∃ items, target = .arr items ∧ IsDigits piece ∧ Miscounts piece failure) ∨
      failure = .unresolvable reference := by
  cases target with
  | obj members =>
      unfold follow at failed
      simp only at failed
      split at failed
      · cases failed
      · cases failed
        exact Or.inr rfl
  | arr items =>
      unfold follow at failed
      simp only at failed
      split at failed
      · next areDigits =>
          have isDigits := isDigits_iff.mp areDigits
          rw [stepText_of_digits isDigits.2] at failed
          rcases Outcome.bind_eq_error_iff.mp failed with refused | ⟨place, _, failed⟩
          · exact Or.inl ⟨items, rfl, isDigits, position_eq_error_iff.mp refused⟩
          · split at failed
            · cases failed
            · cases failed
              exact Or.inr rfl
      · cases failed
        exact Or.inr rfl
  | _ =>
      cases failed
      exact Or.inr rfl

theorem follow_miscounted
    {reference : String} {items : List Json} {piece : List Char} {failure : Failure}
    (isDigits : IsDigits piece) (miscounts : Miscounts piece failure) :
    follow reference (.arr items) (stepText piece) = .error failure := by
  unfold follow
  simp only
  rw [if_pos (isDigits_iff.mpr isDigits), stepText_of_digits isDigits.2,
    position_eq_error_iff.mpr miscounts]
  rfl

end SchemaSignature.Pointer
