import SchemaSignature.Proofs.Document.Readability
import SchemaSignature.Proofs.Text.Lines

/-!
Signatures are written on one line. Whatever the names of properties and the listed texts are, no
signature of a document has a line break in it, and neither has what a name is declared to stand for,
provided that there is none in the stem of names.
-/

namespace SchemaSignature

open Text (OneLine)

/-! ## Numbers and texts -/

theorem Text.oneLine_toString_nat (number : Nat) : OneLine (toString number) := by
  intro isBreak
  exact absurd (isDigit_of_mem_toString isBreak) (by decide)

theorem Text.oneLine_toString_int (number : Int) : OneLine (toString number) := by
  cases number with
  | ofNat number => exact oneLine_toString_nat number
  | negSucc number =>
      unfold OneLine
      rw [toList_toString_negSucc]
      exact List.not_mem_cons_of_ne_of_not_mem (by decide) (oneLine_toString_nat _)

namespace Double

theorem oneLine_layOut {digits : List Char} (isLine : '\n' ∉ digits) (point : Int) :
    OneLine (layOut digits point) := by
  have ofDigits {written : List Char} (among : written ⊆ '0' :: digits) :
      OneLine (String.ofList written) :=
    Text.oneLine_ofList fun isBreak => by
      rcases List.mem_cons.mp (among isBreak) with isZero | isDigit
      · cases isZero
      · exact isLine isDigit
  have zeros (count : Nat) : List.replicate count '0' ⊆ '0' :: digits := fun c isZero =>
    List.mem_cons.mpr (Or.inl (List.eq_of_mem_replicate isZero))
  have front (count : Nat) : digits.take count ⊆ '0' :: digits :=
    List.subset_cons_of_subset _ (List.take_subset count digits)
  have back (count : Nat) : digits.drop count ⊆ '0' :: digits :=
    List.subset_cons_of_subset _ (List.drop_subset count digits)
  unfold layOut
  dsimp only
  split
  · split
    · have behindPoint := ofDigits (List.append_subset.mpr
        ⟨zeros (-point).toNat, List.subset_cons_self _ _⟩)
      exact .append (by decide) behindPoint
    · refine .append (.append (ofDigits (List.append_subset.mpr ⟨front _, zeros _⟩)) (by decide)) ?_
      split
      · decide
      · exact ofDigits (back _)
  · refine .append (.append (.append (.append (ofDigits (front 1)) ?_) ?_) ?_)
      (Text.oneLine_toString_nat _)
    · split
      · decide
      · exact .append (by decide) (ofDigits (back 1))
    · split <;> decide
    · split <;> decide

theorem oneLine_finiteText (negative : Bool) (significand : Nat) (exponent : Int) :
    OneLine (finiteText negative significand exponent) := by
  unfold finiteText
  refine .append (by cases negative <;> decide) ?_
  split
  · decide
  · refine oneLine_layOut (fun isBreak => ?_) _
    have isDigit := List.dropWhile_subset _ (List.mem_reverse.mp isBreak)
    exact Text.oneLine_toString_nat _ (List.mem_reverse.mp isDigit)

end Double

namespace Json

theorem all_oneLine_quoteChar : (escapedChars.all fun c => !(quoteChar c).contains '\n') = true := by
  decide +kernel

theorem newline_not_mem_quoteChar (c : Char) : '\n' ∉ quoteChar c := by
  by_cases isEscaped : c ∈ escapedChars
  · simpa using List.all_eq_true.mp all_oneLine_quoteChar c isEscaped
  · rw [quoteChar_of_not_mem isEscaped, List.mem_singleton]
    rintro rfl
    exact isEscaped (by decide)

theorem oneLine_quote (text : String) : OneLine (quote text) := by
  unfold OneLine
  rw [toList_quote]
  refine List.not_mem_cons_of_ne_of_not_mem (by decide) (List.not_mem_append ?_ (by decide))
  intro isBreak
  obtain ⟨c, _, inside⟩ := List.mem_flatMap.mp isBreak
  exact newline_not_mem_quoteChar c inside

end Json

/-! ## Signatures -/

theorem oneLine_fieldName (property : String) : OneLine (fieldName property) := by
  unfold fieldName
  split
  · next isIdentifier => exact Text.not_mem_of_isIdentifier isIdentifier (by decide) (by decide)
  · exact Json.oneLine_quote property

theorem Literal.oneLine : (literal : Literal) → OneLine literal.text
  | .bool value => by cases value <;> decide
  | .int value => Text.oneLine_toString_int value
  | .float (.finite negative significand exponent) =>
      Double.oneLine_finiteText negative significand exponent
  | .float (.infinite negative) => by cases negative <;> decide
  | .float .notANumber => by decide
  | .str text => Json.oneLine_quote text

theorem Namer.IsNumbered.oneLine
    {stem : String} (isLine : OneLine stem) {name : String} (isNumbered : IsNumbered stem name) :
    OneLine name := by
  obtain ⟨number, rfl⟩ := isNumbered
  exact isLine.append (Text.oneLine_toString_nat number)

/-- A formed signature is written on one line if the names in it are. -/
theorem Node.Formed.oneLine
    {named : String → Prop} {listed : Literal → Prop} (lines : ∀ name, named name → OneLine name)
    {signature : Signature} (formed : signature.Formed named listed) : OneLine signature.text := by
  induction formed with
  | primitive kind => cases kind <;> decide
  | @literals values =>
      refine .append (.append (by decide) (.intercalate (by decide) ?_)) (by decide)
      intro text isText
      obtain ⟨literal, _, rfl⟩ := List.mem_map.mp isText
      exact literal.oneLine
  | @fields presence entries properties _ inductionHypothesis =>
      have brackets : OneLine presence.opening ∧ OneLine presence.closing := by
        cases presence <;> decide
      rw [text, entryTexts_eq_map]
      refine .append (.append brackets.1 (.intercalate (by decide) ?_)) brackets.2
      intro text isText
      obtain ⟨entry, isEntry, rfl⟩ := List.mem_map.mp isText
      obtain ⟨property, isName⟩ := properties entry isEntry
      rw [entryText, isName]
      exact .append (.append (.append (oneLine_fieldName property) (by decide))
        (inductionHypothesis entry isEntry)) (by decide)
  | @container kind _ _ inductionHypothesis =>
      have opening : OneLine kind.opening := by cases kind <;> decide
      exact .append (.append opening inductionHypothesis) (by decide)
  | @group kind members _ _ inductionHypothesis =>
      have signs : OneLine kind.opening ∧ OneLine kind.separator ∧ OneLine kind.closing := by
        cases kind <;> decide
      rw [text, memberTexts_eq_map]
      refine .append (.append signs.1 (.intercalate signs.2.1 ?_)) signs.2.2
      intro text isText
      obtain ⟨member, isMember, rfl⟩ := List.mem_map.mp isText
      exact inductionHypothesis member isMember
  | lazy isNamed => exact lines _ isNamed

/-! ## Sessions -/

mutual

theorem Form.lists_any : (form : Form) → form.Lists fun _ => True
  | .values _ _ => fun _ _ _ _ => trivial
  | .alternatives forms => allList_any forms
  | .rejected _ | .primitive _ | .reference _ | .choice _ | .discriminated _ _ _
  | .intersection _ | .object _ _ | .array _ | .tuple _ => trivial

theorem Form.allList_any : (forms : List Form) → AllList (fun _ => True) forms
  | [] => trivial
  | form :: rest => ⟨lists_any form, allList_any rest⟩

end

namespace Document

/-- All signatures of a session with a fresh namer are written on one line, and all that its namer
has declared are names with a number, and signatures on one line. -/
theorem oneLine_of_renderings
    {root : Json} {namer : Namer} (isLine : OneLine namer.stem) (fresh : namer.declarations = [])
    {bind : Bool} {count : Nat} {outcomes : List (Except Failure Signature)}
    (rendered : (session root namer bind count).renderings = .ok outcomes) :
    (∀ signature, .ok signature ∈ outcomes → OneLine signature.text) ∧
      ∀ entry ∈ (session root namer bind count).namer.declaredTexts,
        Namer.IsNumbered namer.stem entry.1 ∧ OneLine entry.2 := by
  have lines (name : String) (isNumbered : Namer.IsNumbered namer.stem name) : OneLine name :=
    isNumbered.oneLine isLine
  have lists (schema : Json) (_ : Reached root schema) :
      (root.form schema).Lists fun _ => True := Form.lists_any _
  obtain ⟨formed, declares⟩ := formed_of_renderings lists rendered
  refine ⟨fun signature isOutcome => (formed signature isOutcome).oneLine lines, ?_⟩
  intro entry isEntry
  obtain ⟨declared, isDeclared, rfl⟩ := List.mem_map.mp isEntry
  obtain ⟨isNumbered, expansion⟩ := declares
    (fun old isOld => by rw [fresh] at isOld; cases isOld) declared isDeclared
  exact ⟨isNumbered, expansion.oneLine lines⟩

end Document

end SchemaSignature
