import SchemaSignature.Json.Decoding
import SchemaSignature.Proofs.Json.Quoting

/-!
Reading JSON tokens back. Strings, truth values and whole numbers of any length are read off the front
of a text: a written character is read as that character, so a written string is read up to its closing
quotation mark, and a whole number ends where no digit follows.
-/

namespace SchemaSignature.Json

open Text (EndsNumber toList_toString_negSucc exists_digit)

/-! ## Strings -/

/-- The digits of a control character are read as that character. -/
theorem readUnicodeEscape_hexText
    {number : Nat} (control : number < 32) {behind : List Char} (present : behind ≠ []) :
    readUnicodeEscape (hexText 4 number ++ behind) = .ok (Char.ofNat number, 4) := by
  obtain ⟨next, rest, rfl⟩ := List.exists_cons_of_ne_nil present
  have unit : ∀ number < 32, unitValue? '0' '0' (hexDigit (number / 16)) (hexDigit (number % 16)) =
      some number := by decide
  have digits : ∀ number < 32, hexText 4 number =
      ['0', '0', hexDigit (number / 16), hexDigit (number % 16)] := by decide
  have noSurrogate : isHighSurrogate number = false ∧ isLowSurrogate number = false := by
    constructor
    · simp only [isHighSurrogate, Bool.and_eq_false_iff, decide_eq_false_iff_not]
      omega
    · simp only [isLowSurrogate, Bool.and_eq_false_iff, decide_eq_false_iff_not]
      omega
  have meant : unitChar number = Char.ofNat number := by
    rw [unitChar, noSurrogate.1, noSurrogate.2]
    rfl
  rw [digits number control]
  simp only [List.cons_append, List.nil_append, readUnicodeEscape, unit number control,
    noSurrogate.1, Bool.false_eq_true, if_false, meant]
  split <;> rfl

/-- A backslash and a letter that stands for a character are read as that character. -/
theorem readString_escaped
    (opening : Nat) (collected : List Char) {letter meant : Char}
    (stands : escapedChar? letter = some meant) (behind : List Char) :
    readString opening collected ('\\' :: letter :: behind) =
      readString opening (meant :: collected) behind := by
  have noCode : letter ≠ 'u' := by
    rintro rfl
    cases stands
  have noQuotation : '\\' ≠ '"' := by decide
  rw [readString, if_neg noQuotation, if_pos rfl]
  simp only [if_neg noCode, stands]

/-- A written character is read as that character, wherever it stands in a string. -/
theorem readString_quoteChar
    (opening : Nat) (collected : List Char) (c : Char) {behind : List Char} (present : behind ≠ []) :
    readString opening collected (quoteChar c ++ behind) =
      readString opening (c :: collected) behind := by
  have ofCode {number : Nat} (code : c.toNat = number) : Char.ofNat number = c := by
    rw [← code, Char.ofNat_toNat]
  unfold quoteChar
  split_ifs with quotation backslash newline carriageReturn tab backspace formFeed control
  · subst quotation
    exact readString_escaped opening collected rfl behind
  · subst backslash
    exact readString_escaped opening collected rfl behind
  · subst newline
    exact readString_escaped opening collected rfl behind
  · subst carriageReturn
    exact readString_escaped opening collected rfl behind
  · subst tab
    exact readString_escaped opening collected rfl behind
  · rw [← ofCode backspace]
    exact readString_escaped opening collected rfl behind
  · rw [← ofCode formFeed]
    exact readString_escaped opening collected rfl behind
  · have noQuotation : '\\' ≠ '"' := by decide
    have fourDigits : (hexText 4 c.toNat).length = 4 := rfl
    rw [List.cons_append, List.cons_append, readString, if_neg noQuotation, if_pos rfl]
    simp only [if_true, readUnicodeEscape_hexText control present, Char.ofNat_toNat]
    rw [List.drop_left' fourDigits]
  · rw [List.singleton_append, readString.eq_def]
    simp only [if_neg quotation, if_neg backslash, if_neg control]

/-- A written text is read up to its closing quotation mark. -/
theorem readString_quoted
    (opening : Nat) (collected text rest : List Char) :
    readString opening collected (text.flatMap quoteChar ++ '"' :: rest) =
      .ok (String.ofList (collected.reverse ++ text), rest) := by
  induction text generalizing collected with
  | nil =>
      rw [List.flatMap_nil, List.nil_append, List.append_nil, readString.eq_def]
      simp only [if_true]
  | cons c more inductionHypothesis =>
      have present : more.flatMap quoteChar ++ '"' :: rest ≠ [] :=
        List.append_ne_nil_of_right_ne_nil _ (List.cons_ne_nil _ _)
      rw [List.flatMap_cons, List.append_assoc, readString_quoteChar opening collected c present,
        inductionHypothesis, List.reverse_cons, List.append_assoc, List.singleton_append]

/-! ## Whole numbers -/

/-- The whole number at the front of a text: zero, or digits of which the first one is not zero. -/
def readNatural? : List Char → Option (Nat × List Char)
  | [] => none
  | c :: rest =>
      if c = '0' then some (0, rest)
      else if isAsciiDigit c then
        some (digitsValue (c :: rest.takeWhile isAsciiDigit), rest.dropWhile isAsciiDigit)
      else none

theorem isAsciiDigit_eq (c : Char) : isAsciiDigit c = c.isDigit := by
  rw [isAsciiDigit, Char.isDigit]
  rfl

theorem digitsValue_eq (digits : List Char) : digitsValue digits = Nat.ofDigitChars 10 digits 0 := by
  rw [Nat.ofDigitChars_eq_foldl, digitsValue]
  congr 1
  funext number c
  rw [Nat.mul_comm]
  rfl

/-- The digits of a positive number do not begin with zero. -/
theorem head_toDigits_ne_zero {number : Nat} (positive : 0 < number) :
    (Nat.toDigits 10 number).head? ≠ some '0' := by
  induction number using Nat.base_induction 10 (by decide) with
  | single number small =>
      have checked : ∀ number < 10, 0 < number → (Nat.toDigits 10 number).head? ≠ some '0' := by
        decide
      exact checked number small positive
  | digit number last isDigit morePositive inductionHypothesis =>
      have present : (Nat.toDigits 10 number).head?.isSome = true :=
        List.isSome_head?.mpr Nat.toDigits_ne_nil
      rw [← Nat.toDigits_append_toDigits (by decide) morePositive isDigit, List.head?_append,
        Option.or_of_isSome present]
      exact inductionHypothesis morePositive

/-- A whole number is read up to where no digit follows. -/
theorem readNatural?_toString (number : Nat) {rest : List Char} (ends : EndsNumber rest) :
    readNatural? ((toString number).toList ++ rest) = some (number, rest) := by
  have stops : ∀ c ∈ rest.head?, isAsciiDigit c = false := fun c isFirst =>
    (isAsciiDigit_eq c).trans (ends c isFirst)
  have areDigits : ∀ c ∈ (toString number).toList, isAsciiDigit c = true := fun c isDigit =>
    (isAsciiDigit_eq c).trans (Text.isDigit_of_mem_toString isDigit)
  have written : (toString number).toList = Nat.toDigits 10 number := by
    rw [Nat.toString_eq_repr, Nat.toList_repr]
  rw [written] at areDigits ⊢
  cases digits : Nat.toDigits 10 number with
  | nil => exact absurd digits Nat.toDigits_ne_nil
  | cons c more =>
      rw [digits] at areDigits
      rcases Nat.eq_zero_or_pos number with rfl | positive
      · cases digits
        rfl
      · have noZero : c ≠ '0' := by
          rintro rfl
          exact head_toDigits_ne_zero positive (by rw [digits]; rfl)
        have moreDigits := fun other later => areDigits other (List.mem_cons_of_mem _ later)
        have value : digitsValue (c :: more) = number := by
          rw [digitsValue_eq, ← digits, Nat.ofDigitChars_ten_toDigits]
        rw [List.cons_append, readNatural?, if_neg noZero, if_pos (areDigits c List.mem_cons_self),
          Text.takeWhile_append_of_stops moreDigits stops,
          Text.dropWhile_append_of_stops moreDigits stops, value]

/-! ## Tokens -/

/-- The token at the front of a text, if it is a string, a truth value or a whole number. -/
def readToken? (text : List Char) : Option (Json × List Char) :=
  match text with
  | '"' :: rest =>
      match readString text.length [] rest with
      | .ok (content, behind) => some (.str content, behind)
      | .error _ => none
  | '-' :: rest => (readNatural? rest).map fun reading => (.int (-reading.1), reading.2)
  | _ =>
      ((readNatural? text).map fun reading => (.int reading.1, reading.2)) <|>
        readWord "true" (.bool true) text <|> readWord "false" (.bool false) text

/-- Values that are written as one token: texts, whole numbers and truth values. -/
def IsToken : Json → Prop
  | .str _ | .int _ | .bool _ => True
  | _ => False

/-- A written token is read as that value, up to where no digit follows. -/
theorem readToken?_encode {value : Json} (isToken : value.IsToken) {rest : List Char}
    (ends : EndsNumber rest) :
    readToken? (value.encode.toList ++ rest) = some (value, rest) := by
  cases value with
  | str text =>
      rw [encode, toList_quote, List.cons_append, List.append_assoc, List.singleton_append]
      simp only [readToken?, readString_quoted, List.reverse_nil, List.nil_append,
        String.ofList_toList]
  | bool value => cases value <;> rfl
  | int value =>
      rw [encode]
      cases value with
      | ofNat number =>
          obtain ⟨c, more, digits, isDigit⟩ := exists_digit number
          have noQuotation : c ≠ '"' := by
            rintro rfl
            cases isDigit
          have noMinus : c ≠ '-' := by
            rintro rfl
            cases isDigit
          have written : (toString (Int.ofNat number)).toList = c :: more := digits
          have read := readNatural?_toString number ends
          rw [digits, List.cons_append] at read
          rw [written, List.cons_append, readToken?]
          · rw [read]
            rfl
          · exact fun _ same => noQuotation (List.cons.inj same).1
          · exact fun _ same => noMinus (List.cons.inj same).1
      | negSucc number =>
          rw [toList_toString_negSucc, List.cons_append]
          simp only [readToken?, readNatural?_toString _ ends]
          rfl
  | _ => cases isToken

end SchemaSignature.Json
