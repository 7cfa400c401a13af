import SchemaSignature.Naming.Namer
import SchemaSignature.Proofs.Json.Quoting
import SchemaSignature.Signature.Printing

/-!
How literals and signatures begin and go on. The first character of a literal tells its kind, and no
signature begins with such a character. The openings of signatures are told apart by their first
characters too. Behind an opening stands a row, or an element with its closing bracket.
-/

namespace SchemaSignature

open Text

/-! ## Literals -/

/-- A literal is not a float. -/
def Literal.NotFloat : Literal → Prop
  | .float _ => False
  | _ => True

def Literal.kind : Literal → Json.Kind
  | .bool _ => .bool
  | .int _ => .int
  | .float _ => .float
  | .str _ => .str

/-- The kind of the literals that begin with a character. -/
def Literal.kindOfFirst (c : Char) : Option Json.Kind :=
  if c.isDigit || c == '-' then some .int
  else if c == '"' then some .str
  else if c == 't' || c == 'f' then some .bool
  else none

theorem Literal.exists_first {literal : Literal} (notFloat : literal.NotFloat) :
    ∃ c rest, literal.text.toList = c :: rest ∧ kindOfFirst c = some literal.kind := by
  cases literal with
  | bool value => cases value <;> exact ⟨_, _, rfl, rfl⟩
  | int value =>
      cases value with
      | ofNat number =>
          obtain ⟨c, rest, digits, isDigit⟩ := exists_digit number
          exact ⟨c, rest, digits, by rw [kindOfFirst, isDigit, Bool.true_or, if_pos rfl, kind]⟩
      | negSucc number => exact ⟨'-', _, toList_toString_negSucc number, rfl⟩
  | float value => cases notFloat
  | str text => exact ⟨'"', _, Json.toList_quote text, rfl⟩

theorem Literal.beginsInside {literal : Literal} (notFloat : literal.NotFloat) :
    BeginsInside literal.text.toList := by
  obtain ⟨c, rest, written, ofFirst⟩ := exists_first notFloat
  have noSign : (rowSigns.all fun sign => !(kindOfFirst sign).isSome) = true := by decide
  rw [written]
  exact beginsInside_of_test noSign (Option.isSome_of_eq_some ofFirst) rest

theorem int_append_inj
    {value other : Int} {rest otherRest : List Char}
    (ends : EndsNumber rest) (otherEnds : EndsNumber otherRest)
    (same : (toString value).toList ++ rest = (toString other).toList ++ otherRest) :
    value = other ∧ rest = otherRest := by
  have noSign (number : Nat) (more sign : List Char) :
      (toString number).toList ++ more ≠ '-' :: sign := by
    obtain ⟨c, digits, written, isDigit⟩ := exists_digit number
    rw [written]
    intro isSign
    have isMinus : c = '-' := (List.cons.inj isSign).1
    rw [isMinus] at isDigit
    cases isDigit
  cases value with
  | ofNat number =>
      cases other with
      | ofNat otherNumber =>
          obtain ⟨rfl, sameRest⟩ := digits_append_inj ends otherEnds same
          exact ⟨rfl, sameRest⟩
      | negSucc otherNumber =>
          rw [toList_toString_negSucc] at same
          exact absurd same (noSign number _ _)
  | negSucc number =>
      cases other with
      | ofNat otherNumber =>
          rw [toList_toString_negSucc] at same
          exact absurd same.symm (noSign otherNumber _ _)
      | negSucc otherNumber =>
          rw [toList_toString_negSucc, toList_toString_negSucc] at same
          obtain ⟨sameNumber, sameRest⟩ :=
            digits_append_inj ends otherEnds (List.cons.inj same).2
          cases sameNumber
          exact ⟨rfl, sameRest⟩

theorem Literal.readsBack {literal : Literal} (notFloat : literal.NotFloat) :
    ReadsBack Literal.text Literal.NotFloat literal := by
  intro other otherNotFloat rest otherRest ends otherEnds same
  obtain ⟨c, more, written, ofFirst⟩ := exists_first notFloat
  obtain ⟨otherC, otherMore, otherWritten, ofOtherFirst⟩ := exists_first otherNotFloat
  have sameKind : literal.kind = other.kind := by
    rw [written, otherWritten] at same
    rw [(List.cons.inj same).1] at ofFirst
    exact Option.some.inj (ofFirst.symm.trans ofOtherFirst)
  cases literal with
  | bool value =>
      cases other with
      | bool otherValue =>
          have sameValue : value = otherValue := by
            cases value <;> cases otherValue <;> first | rfl | cases (List.cons.inj same).1
          subst sameValue
          exact ⟨rfl, List.append_cancel_left same⟩
      | _ => cases sameKind
  | int value =>
      cases other with
      | int otherValue =>
          obtain ⟨rfl, sameRest⟩ := int_append_inj ends otherEnds same
          exact ⟨rfl, sameRest⟩
      | _ => cases sameKind
  | float value => cases notFloat
  | str text =>
      cases other with
      | str otherText =>
          obtain ⟨rfl, sameRest⟩ := Json.quote_append_inj same
          exact ⟨rfl, sameRest⟩
      | _ => cases sameKind

/-! ## Openings -/

/-- How the text of a signature begins. -/
inductive Opening where
  | word (kind : Primitive)
  | fields (presence : Presence)
  | container (kind : Container)
  | square
  | round
  | reference
  deriving DecidableEq

namespace Opening

def text : Opening → String
  | word kind => kind.text
  | fields presence => presence.opening
  | container kind => kind.opening
  | square => Grouping.tuple.opening
  | round => Grouping.union.opening
  | reference => Namer.defaultStem

/-- The openings of signatures in canonical form. -/
def all : List Opening :=
  [word .string, word .number, word .boolean, word .null, word .unknown, word .never,
    fields .required, fields .optional, container .array, container .record, square, round,
    reference]

/-- No opening is the beginning of another one. -/
theorem eq_of_begins
    {opening other : Opening} (isOpening : opening ∈ all) (otherIsOpening : other ∈ all)
    (begins : opening.text.toList <+: other.text.toList) :
    opening = other := by
  have checked : ∀ one ∈ all, ∀ another ∈ all,
      one.text.toList.isPrefixOf another.text.toList = true → one = another := by
    decide +kernel
  exact checked opening isOpening other otherIsOpening (List.isPrefixOf_iff_prefix.mpr begins)

theorem append_inj
    {opening other : Opening} (isOpening : opening ∈ all) (otherIsOpening : other ∈ all)
    {rest otherRest : List Char}
    (same : opening.text.toList ++ rest = other.text.toList ++ otherRest) :
    opening = other ∧ rest = otherRest := by
  obtain ⟨sameText, sameRest⟩ := append_inj_of_begins
    (fun begins => congrArg (fun one => one.text.toList)
      (eq_of_begins isOpening otherIsOpening begins))
    (fun begins => congrArg (fun one => one.text.toList)
      (eq_of_begins otherIsOpening isOpening begins)) same
  exact ⟨eq_of_begins isOpening otherIsOpening (sameText ▸ List.prefix_rfl), sameRest⟩

/-- An opening begins neither as a literal nor as what closes a row. -/
theorem exists_first {opening : Opening} (isOpening : opening ∈ all) :
    ∃ c rest, opening.text.toList = c :: rest ∧ c ∉ rowSigns ∧ Literal.kindOfFirst c = none := by
  have checked : ∀ one ∈ all, (one.text.toList.head?.any fun c =>
      c ∉ rowSigns ∧ Literal.kindOfFirst c = none) = true := by
    decide +kernel
  have isClear := checked opening isOpening
  cases written : opening.text.toList with
  | nil =>
      rw [written] at isClear
      cases isClear
  | cons c rest =>
      rw [written] at isClear
      exact ⟨c, rest, rfl, of_decide_eq_true isClear⟩

end Opening

/-! ## Rows -/

namespace Node

def entryText (entry : String × Signature) : String :=
  entry.1 ++ ": " ++ entry.2.text ++ ";"

theorem entryTexts_eq_map (entries : List (String × Signature)) :
    entryTexts entries = entries.map entryText := by
  induction entries with
  | nil => rfl
  | cons first rest inductionHypothesis =>
      rw [entryTexts, inductionHypothesis, List.map_cons, entryText]

theorem memberTexts_eq_map (members : List Signature) : memberTexts members = members.map text := by
  induction members with
  | nil => rfl
  | cons first rest inductionHypothesis =>
      rw [memberTexts, inductionHypothesis, List.map_cons]

end Node

/-- The fields of a record as a row. -/
def Presence.row (presence : Presence) : Row :=
  { separator := " ", closing := presence.closing }

/-- The members of a combination as a row. -/
def Grouping.row (kind : Grouping) : Row :=
  { separator := kind.separator, closing := kind.closing }

theorem Presence.clear_row (presence : Presence) : presence.row.Clear := by
  have ends : ∀ rest, EndsNumber (' ' :: rest) := by
    rintro rest c ⟨⟩
    rfl
  cases presence <;> refine ⟨fun _ => ends _, fun _ => ends _, ?_, ?_⟩
  all_goals
    rintro _ ⟨c, more, rfl, notSign⟩ rest same
    simp [row, closing] at same
    simp [rowSigns, same] at notSign

theorem Grouping.clear_row (kind : Grouping) : kind.row.Clear := by
  have ends : ∀ c ∈ [' ', ',', ')', ']'], ∀ rest, EndsNumber (c :: rest) := by
    have noDigit : ([' ', ',', ')', ']'].all fun c => c.isDigit == false) = true := by decide
    rintro c isSign rest _ ⟨⟩
    exact beq_iff_eq.mp (List.all_eq_true.mp noDigit c isSign)
  cases kind <;>
    refine ⟨fun _ => ends _ (by decide) _, fun _ => ends _ (by decide) _, ?_, ?_⟩
  all_goals
    rintro _ ⟨c, more, rfl, notSign⟩ rest same
    simp [row, separator, closing] at same
  all_goals
    simp [rowSigns, same] at notSign

/-! ## Signatures -/

namespace Node

/-- The opening of a signature in canonical form. -/
def opening : Signature → Opening
  | .primitive kind => .word kind
  | .literals _ => .round
  | .fields presence _ => .fields presence
  | .container kind _ => .container kind
  | .group .tuple _ => .square
  | .group _ _ => .round
  | .lazy _ | .made _ | .watched _ => .reference

theorem toList_text_literals (values : List Literal) :
    (literals values : Signature).text.toList =
      Opening.round.text.toList ++ (Grouping.union.row.text (values.map Literal.text)).toList := by
  rw [text, Row.text, String.append_assoc, String.toList_append]
  rfl

theorem toList_text_fields (presence : Presence) (entries : List (String × Signature)) :
    (fields presence entries).text.toList =
      presence.opening.toList ++ (presence.row.text (entries.map entryText)).toList := by
  rw [text, entryTexts_eq_map, Row.text, String.append_assoc, String.toList_append]
  rfl

theorem toList_text_container (kind : Container) (element : Signature) :
    (container kind element).text.toList =
      kind.opening.toList ++ (element.text.toList ++ ['>']) := by
  rw [text, String.append_assoc, String.toList_append, String.toList_append]
  rfl

theorem toList_text_group (kind : Grouping) (members : List Signature) :
    (group kind members).text.toList =
      kind.opening.toList ++ (kind.row.text (members.map text)).toList := by
  rw [text, memberTexts_eq_map, Row.text, String.append_assoc, String.toList_append]
  rfl

end Node

end SchemaSignature
