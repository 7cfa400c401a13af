import Mathlib.Data.List.TakeWhile

/-!
Reading a text from left to right. A value can be read off the front of a longer text if no other
value is written so that the rest makes up for the difference. What is read last may be a number, so
the rest must not begin with a digit. A row of values with separators between them and a sign behind
them can be read if its values can and its signs are no beginnings of values.
-/

namespace SchemaSignature.Text

/-- Texts that go on as the same text are equal if neither can be the beginning of the other. -/
theorem append_inj_of_begins
    {text other rest otherRest : List Char}
    (apart : text <+: other → text = other) (otherApart : other <+: text → other = text)
    (same : text ++ rest = other ++ otherRest) :
    text = other ∧ rest = otherRest := by
  have begins : text <+: text ++ rest := List.prefix_append _ _
  have otherBegins : other <+: text ++ rest := by
    rw [same]
    exact List.prefix_append _ _
  have sameText : text = other := by
    rcases List.prefix_or_prefix_of_prefix begins otherBegins with before | after
    · exact apart before
    · exact (otherApart after).symm
  subst sameText
  exact ⟨rfl, List.append_cancel_left same⟩

theorem takeWhile_append_of_stops
    {test : Char → Bool} {text rest : List Char} (passes : ∀ c ∈ text, test c = true)
    (stops : ∀ c ∈ rest.head?, test c = false) :
    (text ++ rest).takeWhile test = text := by
  have restStops : rest.takeWhile test = [] := by
    cases rest with
    | nil => rfl
    | cons c more => exact List.takeWhile_cons_of_neg (by simp [stops c rfl])
  rw [List.takeWhile_append_of_pos passes, restStops, List.append_nil]

theorem dropWhile_append_of_stops
    {test : Char → Bool} {text rest : List Char} (passes : ∀ c ∈ text, test c = true)
    (stops : ∀ c ∈ rest.head?, test c = false) :
    (text ++ rest).dropWhile test = rest := by
  have whole : (text ++ rest).takeWhile test ++ (text ++ rest).dropWhile test = text ++ rest :=
    List.takeWhile_append_dropWhile
  rw [takeWhile_append_of_stops passes stops] at whole
  exact List.append_cancel_left whole

/-- A text whose characters pass a test can be split off in front of one that does not begin with
such a character. -/
theorem append_inj_of_stops
    {test : Char → Bool} {text other rest otherRest : List Char}
    (passes : ∀ c ∈ text, test c = true) (otherPasses : ∀ c ∈ other, test c = true)
    (stops : ∀ c ∈ rest.head?, test c = false) (otherStops : ∀ c ∈ otherRest.head?, test c = false)
    (same : text ++ rest = other ++ otherRest) :
    text = other ∧ rest = otherRest := by
  have sameText : text = other := by
    rw [← takeWhile_append_of_stops passes stops, same,
      takeWhile_append_of_stops otherPasses otherStops]
  subst sameText
  exact ⟨rfl, List.append_cancel_left same⟩

/-! ## Numbers -/

/-- A number in front of the text ends where the text begins. -/
def EndsNumber (text : List Char) : Prop :=
  ∀ c ∈ text.head?, c.isDigit = false

theorem endsNumber_nil : EndsNumber [] := by
  intro c impossible
  cases impossible

theorem isDigit_of_mem_toString {number : Nat} {c : Char} (isDigit : c ∈ (toString number).toList) :
    c.isDigit = true := by
  rw [Nat.toString_eq_repr, Nat.toList_repr] at isDigit
  exact Nat.isDigit_of_mem_toDigits (by decide) (by decide) isDigit

theorem exists_digit (number : Nat) :
    ∃ c rest, (toString number).toList = c :: rest ∧ c.isDigit = true := by
  cases digits : (toString number).toList with
  | nil =>
      rw [Nat.toString_eq_repr, Nat.toList_repr] at digits
      exact absurd digits Nat.toDigits_ne_nil
  | cons c rest => exact ⟨c, rest, rfl, isDigit_of_mem_toString (digits ▸ List.mem_cons_self)⟩

theorem digits_append_inj
    {number other : Nat} {rest otherRest : List Char}
    (ends : EndsNumber rest) (otherEnds : EndsNumber otherRest)
    (same : (toString number).toList ++ rest = (toString other).toList ++ otherRest) :
    number = other ∧ rest = otherRest := by
  obtain ⟨sameDigits, sameRest⟩ := append_inj_of_stops
    (fun _ isDigit => isDigit_of_mem_toString isDigit)
    (fun _ isDigit => isDigit_of_mem_toString isDigit) ends otherEnds same
  refine ⟨?_, sameRest⟩
  rw [Nat.toString_eq_repr, Nat.toString_eq_repr, Nat.toList_repr, Nat.toList_repr] at sameDigits
  calc
    number = Nat.ofDigitChars 10 (Nat.toDigits 10 number) 0 := Nat.ofDigitChars_ten_toDigits.symm
    _ = Nat.ofDigitChars 10 (Nat.toDigits 10 other) 0 := by rw [sameDigits]
    _ = other := Nat.ofDigitChars_ten_toDigits

theorem toList_toString_negSucc (number : Nat) :
    (toString (Int.negSucc number)).toList = '-' :: (toString (number + 1)).toList := by
  change ("-" ++ toString (number + 1)).toList = _
  rw [String.toList_append]
  rfl

/-! ## Values and rows -/

section Rows

variable {value : Type}

/-- Among the allowed values, one can be read off the front of a text. -/
def ReadsBack (code : value → String) (allowed : value → Prop) (written : value) : Prop :=
  ∀ other, allowed other → ∀ rest otherRest, EndsNumber rest → EndsNumber otherRest →
    (code written).toList ++ rest = (code other).toList ++ otherRest →
    written = other ∧ rest = otherRest

/-- The blank and the brackets that close a row. -/
def rowSigns : List Char :=
  [' ', ')', ']', '\x7d']

/-- A text begins with something inside a row. -/
def BeginsInside (text : List Char) : Prop :=
  ∃ c rest, text = c :: rest ∧ c ∉ rowSigns

theorem beginsInside_of_test
    {test : Char → Bool} (noSign : (rowSigns.all fun sign => !test sign) = true)
    {c : Char} (passes : test c = true) (rest : List Char) : BeginsInside (c :: rest) := by
  refine ⟨c, rest, rfl, fun isSign => ?_⟩
  have fails := List.all_eq_true.mp noSign c isSign
  rw [passes] at fails
  cases fails

theorem BeginsInside.append {text : List Char} (inside : BeginsInside text) (rest : List Char) :
    BeginsInside (text ++ rest) := by
  obtain ⟨c, more, rfl, notSign⟩ := inside
  exact ⟨c, more ++ rest, rfl, notSign⟩

/-- What stands between the values of a row, and what stands behind them. -/
structure Row where
  separator : String
  closing : String

namespace Row

def text (row : Row) (texts : List String) : String :=
  row.separator.intercalate texts ++ row.closing

/-- The values of a row that are left, the first one behind the given sign, and what closes the
row. -/
def remainder (row : Row) (sign : List Char) : List String → List Char
  | [] => row.closing.toList
  | text :: texts => sign ++ (text.toList ++ row.remainder row.separator.toList texts)

theorem toList_text (row : Row) (texts : List String) :
    (row.text texts).toList = row.remainder [] texts := by
  rw [Row.text, String.toList_append, String.toList_intercalate]
  cases texts with
  | nil => rfl
  | cons text texts =>
      rw [remainder, List.nil_append]
      induction texts generalizing text with
      | nil => rw [List.map_singleton, List.intercalate_singleton, remainder]
      | cons next rest inductionHypothesis =>
          have further := inductionHypothesis next
          rw [List.map_cons] at further
          rw [List.map_cons, List.map_cons, List.intercalate_cons_cons, remainder,
            List.append_assoc, List.append_assoc, further]

theorem toList_text_cons (row : Row) (text : String) (texts : List String) :
    (row.text (text :: texts)).toList =
      text.toList ++ row.remainder row.separator.toList texts := by
  rw [toList_text, remainder, List.nil_append]

/-- A sign before a value is told apart from what closes the row. -/
def TellsApart (row : Row) (sign : List Char) : Prop :=
  ∀ text, BeginsInside text → ∀ rest, sign ++ text ≠ row.closing.toList ++ rest

/-- The signs of a row are told apart, and numbers end before them. -/
structure Clear (row : Row) : Prop where
  separatorEnds : ∀ rest, EndsNumber (row.separator.toList ++ rest)
  closingEnds : ∀ rest, EndsNumber (row.closing.toList ++ rest)
  first : row.TellsApart []
  later : row.TellsApart row.separator.toList

section Clear

variable {row : Row} (clear : row.Clear)

include clear

theorem Clear.remainderEnds (texts : List String) (rest : List Char) :
    EndsNumber (row.remainder row.separator.toList texts ++ rest) := by
  cases texts with
  | nil => exact clear.closingEnds rest
  | cons text texts =>
      rw [Row.remainder, List.append_assoc]
      exact clear.separatorEnds _

variable {code : value → String} {allowed : value → Prop}
  (inside : ∀ written, allowed written → BeginsInside (code written).toList)

include inside

theorem remainder_inj
    {sign : List Char} (apart : row.TellsApart sign)
    {written others : List value} (reads : ∀ one ∈ written, ReadsBack code allowed one)
    (writtenAllowed : ∀ one ∈ written, allowed one) (othersAllowed : ∀ other ∈ others, allowed other)
    {rest otherRest : List Char}
    (same : row.remainder sign (written.map code) ++ rest =
      row.remainder sign (others.map code) ++ otherRest) :
    written = others ∧ rest = otherRest := by
  -- The sign is generalized: behind the first value every other one follows the separator.
  induction written generalizing sign others with
  | nil =>
      cases others with
      | nil => exact ⟨rfl, List.append_cancel_left same⟩
      | cons other others =>
          have otherInside := inside other (othersAllowed other List.mem_cons_self)
          rw [List.map_nil, List.map_cons, remainder, remainder, List.append_assoc,
            List.append_assoc] at same
          exact absurd same.symm (apart _ (otherInside.append _) _)
  | cons one written inductionHypothesis =>
      have oneInside := inside one (writtenAllowed one List.mem_cons_self)
      cases others with
      | nil =>
          rw [List.map_nil, List.map_cons, remainder, remainder, List.append_assoc,
            List.append_assoc] at same
          exact absurd same (apart _ (oneInside.append _) _)
      | cons other others =>
          rw [List.map_cons, List.map_cons, remainder, remainder, List.append_assoc,
            List.append_assoc, List.append_assoc, List.append_assoc] at same
          obtain ⟨rfl, sameRest⟩ := reads one List.mem_cons_self other
            (othersAllowed other List.mem_cons_self) _ _ (clear.remainderEnds _ _)
            (clear.remainderEnds _ _) (List.append_cancel_left same)
          obtain ⟨rfl, sameEnd⟩ := inductionHypothesis clear.later
            (fun another later => reads another (List.mem_cons_of_mem _ later))
            (fun another later => writtenAllowed another (List.mem_cons_of_mem _ later))
            (fun another later => othersAllowed another (List.mem_cons_of_mem _ later)) sameRest
          exact ⟨rfl, sameEnd⟩

/-- A row can be read off the front of a text, whatever follows it, if its values can. -/
theorem text_inj
    {written others : List value} (reads : ∀ one ∈ written, ReadsBack code allowed one)
    (writtenAllowed : ∀ one ∈ written, allowed one) (othersAllowed : ∀ other ∈ others, allowed other)
    {rest otherRest : List Char}
    (same : (row.text (written.map code)).toList ++ rest =
      (row.text (others.map code)).toList ++ otherRest) :
    written = others ∧ rest = otherRest := by
  rw [toList_text, toList_text] at same
  exact remainder_inj clear inside clear.first reads writtenAllowed othersAllowed same

end Clear

end Row

end Rows

end SchemaSignature.Text
