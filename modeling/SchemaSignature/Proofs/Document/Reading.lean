import SchemaSignature.Proofs.Document.FieldNames
import SchemaSignature.Proofs.Naming.Names
import SchemaSignature.Proofs.Signature.Beginnings

/-!
Reading a signature off the front of a text. How a signature begins tells which constructor it has,
except that values, a union and an intersection begin alike: values begin as no signature does, and
what follows the first member tells a union from an intersection. The parts are then read in turn.
-/

namespace SchemaSignature.Node

open Text

/-- A signature in canonical form, with a member in each row of members and literals, field names
that are names of properties, and names of references that have the standard stem and a number. -/
inductive Legible : Signature → Prop where
  | word {kind : Primitive} (isWord : Opening.word kind ∈ Opening.all) : Legible (.primitive kind)
  | literals {values : List Literal} (present : values ≠ [])
      (noFloats : ∀ value ∈ values, value.NotFloat) : Legible (.literals values)
  | fields {presence : Presence} {entries : List (String × Signature)}
      (named : ∀ entry ∈ entries, ∃ property, entry.1 = fieldName property)
      (each : ∀ entry ∈ entries, Legible entry.2) : Legible (.fields presence entries)
  | container {kind : Container} {element : Signature} (inner : Legible element) :
      Legible (.container kind element)
  | tuple {members : List Signature} (each : ∀ member ∈ members, Legible member) :
      Legible (.group .tuple members)
  | union {members : List Signature} (present : members ≠ [])
      (each : ∀ member ∈ members, Legible member) : Legible (.group .union members)
  | intersection {members : List Signature} (several : 2 ≤ members.length)
      (each : ∀ member ∈ members, Legible member) : Legible (.group .intersection members)
  | reference (number : Nat) : Legible (.lazy (Namer.numbered Namer.defaultStem number))

namespace Legible

variable {signature other : Signature}

theorem exists_opening (legible : signature.Legible) :
    signature.opening ∈ Opening.all ∧
      ∃ more, signature.text.toList = signature.opening.text.toList ++ more := by
  have round : Opening.round ∈ Opening.all := by decide
  cases legible with
  | word isWord => exact ⟨isWord, [], (List.append_nil _).symm⟩
  | literals => exact ⟨round, _, toList_text_literals _⟩
  | @fields presence =>
      have isOpening : Opening.fields presence ∈ Opening.all := by cases presence <;> decide
      exact ⟨isOpening, _, toList_text_fields _ _⟩
  | @container kind =>
      have isOpening : Opening.container kind ∈ Opening.all := by cases kind <;> decide
      exact ⟨isOpening, _, toList_text_container _ _⟩
  | tuple =>
      have isOpening : Opening.square ∈ Opening.all := by decide
      exact ⟨isOpening, _, toList_text_group _ _⟩
  | union => exact ⟨round, _, toList_text_group _ _⟩
  | intersection => exact ⟨round, _, toList_text_group _ _⟩
  | reference number =>
      have isOpening : Opening.reference ∈ Opening.all := by decide
      exact ⟨isOpening, (toString number).toList, String.toList_append⟩

theorem opening_eq
    (legible : signature.Legible) (otherLegible : other.Legible) {rest otherRest : List Char}
    (same : signature.text.toList ++ rest = other.text.toList ++ otherRest) :
    signature.opening = other.opening := by
  obtain ⟨isOpening, more, written⟩ := legible.exists_opening
  obtain ⟨otherIsOpening, otherMore, otherWritten⟩ := otherLegible.exists_opening
  rw [written, otherWritten, List.append_assoc, List.append_assoc] at same
  exact (Opening.append_inj isOpening otherIsOpening same).1

theorem exists_first (legible : signature.Legible) :
    ∃ c rest, signature.text.toList = c :: rest ∧ c ∉ rowSigns ∧ Literal.kindOfFirst c = none := by
  obtain ⟨isOpening, more, written⟩ := legible.exists_opening
  obtain ⟨c, rest, begins, notSign, noLiteral⟩ := Opening.exists_first isOpening
  exact ⟨c, rest ++ more, by rw [written, begins, List.cons_append], notSign, noLiteral⟩

theorem beginsInside (legible : signature.Legible) : BeginsInside signature.text.toList := by
  obtain ⟨c, rest, written, notSign, _⟩ := legible.exists_first
  exact ⟨c, rest, written, notSign⟩

/-- No literal begins as a signature does. -/
theorem literal_append_ne
    {literal : Literal} (notFloat : literal.NotFloat) (legible : signature.Legible)
    (rest otherRest : List Char) :
    literal.text.toList ++ rest ≠ signature.text.toList ++ otherRest := by
  intro same
  obtain ⟨c, more, written, ofFirst⟩ := Literal.exists_first notFloat
  obtain ⟨otherC, otherMore, otherWritten, _, noLiteral⟩ := legible.exists_first
  rw [written, otherWritten] at same
  have sameFirst : c = otherC := (List.cons.inj same).1
  rw [sameFirst, noLiteral] at ofFirst
  cases ofFirst

/-- A list of values is not written as a union or an intersection of signatures. -/
theorem literals_append_ne
    {values : List Literal} (present : values ≠ []) (noFloats : ∀ value ∈ values, value.NotFloat)
    {kind : Grouping} (isRound : kind.opening = Opening.round.text)
    {members : List Signature} (membersPresent : members ≠ [])
    (each : ∀ member ∈ members, Legible member) (rest otherRest : List Char) :
    (Node.literals values : Signature).text.toList ++ rest ≠
      (group kind members).text.toList ++ otherRest := by
  intro same
  obtain ⟨value, values, rfl⟩ := List.exists_cons_of_ne_nil present
  obtain ⟨member, members, rfl⟩ := List.exists_cons_of_ne_nil membersPresent
  simp only [toList_text_literals, toList_text_group, isRound, List.map_cons,
    Row.toList_text_cons, List.append_assoc] at same
  exact literal_append_ne (noFloats value List.mem_cons_self) (each member List.mem_cons_self) _ _
    (List.append_cancel_left same)

/-- What follows the first member of a union does not follow the first one of several members of an
intersection. -/
theorem remainder_append_ne
    (texts : List String) (next : String) (others : List String) (rest otherRest : List Char) :
    Grouping.union.row.remainder Grouping.union.separator.toList texts ++ rest ≠
      Grouping.intersection.row.remainder Grouping.intersection.separator.toList
        (next :: others) ++ otherRest := by
  intro same
  cases texts <;>
    simp [Row.remainder, Grouping.row, Grouping.separator, Grouping.closing] at same

/-- A union is not written as an intersection of several members, provided that their members can be
split off in front of the same text. -/
theorem union_append_ne
    {members others : List Signature} (present : members ≠ []) (several : 2 ≤ others.length)
    (splits : ∀ member ∈ members, ∀ other ∈ others, ∀ rest otherRest, EndsNumber rest →
      EndsNumber otherRest → member.text.toList ++ rest = other.text.toList ++ otherRest →
      rest = otherRest)
    (rest otherRest : List Char) :
    (group .union members).text.toList ++ rest ≠
      (group .intersection others).text.toList ++ otherRest := by
  intro same
  obtain ⟨member, members, rfl⟩ := List.exists_cons_of_ne_nil present
  match others, several with
  | other :: next :: others, _ =>
      simp only [toList_text_group, List.map_cons, Row.toList_text_cons, List.append_assoc] at same
      have sameRemainder := splits member List.mem_cons_self other List.mem_cons_self _ _
        (Grouping.union.clear_row.remainderEnds _ _)
        (Grouping.intersection.clear_row.remainderEnds _ _) (List.append_cancel_left same)
      exact remainder_append_ne _ _ _ _ _ sameRemainder

/-- An entry of a record: its name is the name of a property, and its node is legible. -/
def IsEntry (entry : String × Signature) : Prop :=
  (∃ property, entry.1 = fieldName property) ∧ entry.2.Legible

theorem IsEntry.beginsInside {entry : String × Signature} (isEntry : IsEntry entry) :
    BeginsInside (entryText entry).toList := by
  obtain ⟨⟨property, named⟩, _⟩ := isEntry
  rw [entryText, named, String.append_assoc, String.append_assoc, String.toList_append]
  exact (beginsInside_fieldName property).append _

theorem readsBack_entry
    {entry : String × Signature} (isEntry : IsEntry entry)
    (reads : ReadsBack text Legible entry.2) :
    ReadsBack entryText IsEntry entry := by
  rintro other ⟨⟨otherProperty, otherNamed⟩, otherLegible⟩ rest otherRest _ _ same
  obtain ⟨⟨property, named⟩, _⟩ := isEntry
  have endsAtSemicolon (more : List Char) : EndsNumber (";".toList ++ more) := by
    rintro c ⟨⟩
    rfl
  simp only [entryText, named, otherNamed, String.toList_append, List.append_assoc] at same
  obtain ⟨rfl, sameNodes⟩ := fieldName_append_inj same
  obtain ⟨sameNode, sameRest⟩ := reads other.2 otherLegible _ _ (endsAtSemicolon rest)
    (endsAtSemicolon otherRest) (List.cons.inj sameNodes).2
  exact ⟨Prod.ext (named.trans otherNamed.symm) sameNode, List.append_cancel_left sameRest⟩

/-- A row of signatures in brackets can be read off the front of a text if its members can. -/
theorem group_append_inj
    {kind : Grouping} {members others : List Signature}
    (reads : ∀ member ∈ members, ReadsBack text Legible member)
    (each : ∀ member ∈ members, Legible member) (otherEach : ∀ other ∈ others, Legible other)
    {rest otherRest : List Char}
    (same : (group kind members).text.toList ++ rest =
      (group kind others).text.toList ++ otherRest) :
    group kind members = group kind others ∧ rest = otherRest := by
  rw [toList_text_group, toList_text_group, List.append_assoc, List.append_assoc] at same
  obtain ⟨rfl, sameRest⟩ := Row.text_inj kind.clear_row (fun _ legible => legible.beginsInside)
    reads each otherEach (List.append_cancel_left same)
  exact ⟨rfl, sameRest⟩

theorem readsBack_word {kind : Primitive} (isWord : Opening.word kind ∈ Opening.all) :
    ReadsBack text Legible (.primitive kind) := by
  intro other otherLegible rest otherRest _ _ same
  have sameOpening := opening_eq (.word isWord) otherLegible same
  cases otherLegible with
  | word =>
      cases sameOpening
      exact ⟨rfl, List.append_cancel_left same⟩
  | _ => cases sameOpening

theorem readsBack_literals
    {values : List Literal} (present : values ≠ []) (noFloats : ∀ value ∈ values, value.NotFloat) :
    ReadsBack text Legible (.literals values) := by
  intro other otherLegible rest otherRest _ _ same
  have sameOpening := opening_eq (.literals present noFloats) otherLegible same
  cases otherLegible with
  | literals otherPresent otherNoFloats =>
      rw [toList_text_literals, toList_text_literals, List.append_assoc, List.append_assoc] at same
      obtain ⟨rfl, sameRest⟩ := Row.text_inj Grouping.union.clear_row
        (fun _ notFloat => Literal.beginsInside notFloat)
        (fun value isValue => Literal.readsBack (noFloats value isValue)) noFloats otherNoFloats
        (List.append_cancel_left same)
      exact ⟨rfl, sameRest⟩
  | union otherPresent otherEach =>
      exact absurd same (literals_append_ne present noFloats rfl otherPresent otherEach _ _)
  | intersection several otherEach =>
      have otherPresent := List.ne_nil_of_length_pos (Nat.lt_of_lt_of_le Nat.two_pos several)
      exact absurd same (literals_append_ne present noFloats rfl otherPresent otherEach _ _)
  | _ => cases sameOpening

theorem readsBack_fields
    {presence : Presence} {entries : List (String × Signature)}
    (named : ∀ entry ∈ entries, ∃ property, entry.1 = fieldName property)
    (each : ∀ entry ∈ entries, Legible entry.2)
    (reads : ∀ entry ∈ entries, ReadsBack text Legible entry.2) :
    ReadsBack text Legible (.fields presence entries) := by
  intro other otherLegible rest otherRest _ _ same
  have sameOpening := opening_eq (.fields named each) otherLegible same
  cases otherLegible with
  | fields otherNamed otherEach =>
      cases sameOpening
      have areEntries : ∀ entry ∈ entries, IsEntry entry := fun entry isEntry =>
        ⟨named entry isEntry, each entry isEntry⟩
      rw [toList_text_fields, toList_text_fields, List.append_assoc, List.append_assoc] at same
      obtain ⟨rfl, sameRest⟩ := Row.text_inj presence.clear_row
        (fun _ isEntry => isEntry.beginsInside)
        (fun entry isEntry => readsBack_entry (areEntries entry isEntry) (reads entry isEntry))
        areEntries (fun entry isEntry => ⟨otherNamed entry isEntry, otherEach entry isEntry⟩)
        (List.append_cancel_left same)
      exact ⟨rfl, sameRest⟩
  | _ => cases sameOpening

theorem readsBack_container
    {kind : Container} {element : Signature} (inner : element.Legible)
    (reads : ReadsBack text Legible element) :
    ReadsBack text Legible (.container kind element) := by
  intro other otherLegible rest otherRest _ _ same
  have sameOpening := opening_eq (.container inner) otherLegible same
  cases otherLegible with
  | container otherInner =>
      cases sameOpening
      have endsAtBracket (more : List Char) : EndsNumber (['>'] ++ more) := by
        rintro c ⟨⟩
        rfl
      simp only [toList_text_container, List.append_assoc] at same
      obtain ⟨rfl, sameRest⟩ := reads _ otherInner _ _ (endsAtBracket rest)
        (endsAtBracket otherRest) (List.append_cancel_left same)
      exact ⟨rfl, List.append_cancel_left sameRest⟩
  | _ => cases sameOpening

section Members

variable {members : List Signature} (each : ∀ member ∈ members, Legible member)
  (reads : ∀ member ∈ members, ReadsBack text Legible member)

include each reads

theorem readsBack_tuple : ReadsBack text Legible (.group .tuple members) := by
  intro other otherLegible rest otherRest _ _ same
  have sameOpening := opening_eq (.tuple each) otherLegible same
  cases otherLegible with
  | tuple otherEach => exact group_append_inj reads each otherEach same
  | _ => cases sameOpening

theorem readsBack_union (present : members ≠ []) :
    ReadsBack text Legible (.group .union members) := by
  intro other otherLegible rest otherRest _ _ same
  have sameOpening := opening_eq (.union present each) otherLegible same
  cases otherLegible with
  | literals otherPresent otherNoFloats =>
      exact absurd same.symm (literals_append_ne otherPresent otherNoFloats rfl present each _ _)
  | union _ otherEach => exact group_append_inj reads each otherEach same
  | intersection several otherEach =>
      -- Only the members of the union are known to be read, so they are the ones to be split off.
      refine absurd same (union_append_ne present several ?_ _ _)
      intro member isMember other isOther rest otherRest ends otherEnds sameInFront
      exact (reads member isMember other (otherEach other isOther) _ _ ends otherEnds
        sameInFront).2
  | _ => cases sameOpening

theorem readsBack_intersection (several : 2 ≤ members.length) :
    ReadsBack text Legible (.group .intersection members) := by
  intro other otherLegible rest otherRest _ _ same
  have sameOpening := opening_eq (.intersection several each) otherLegible same
  cases otherLegible with
  | literals otherPresent otherNoFloats =>
      have present := List.ne_nil_of_length_pos (Nat.lt_of_lt_of_le Nat.two_pos several)
      exact absurd same.symm (literals_append_ne otherPresent otherNoFloats rfl present each _ _)
  | union otherPresent otherEach =>
      refine absurd same.symm (union_append_ne otherPresent several ?_ _ _)
      intro other isOther member isMember otherRest rest otherEnds ends sameInFront
      exact (reads member isMember other (otherEach other isOther) _ _ ends otherEnds
        sameInFront.symm).2.symm
  | intersection _ otherEach => exact group_append_inj reads each otherEach same
  | _ => cases sameOpening

end Members

theorem readsBack_reference (number : Nat) :
    ReadsBack text Legible (.lazy (Namer.numbered Namer.defaultStem number)) := by
  intro other otherLegible rest otherRest ends otherEnds same
  have sameOpening := opening_eq (.reference number) otherLegible same
  cases otherLegible with
  | reference otherNumber =>
      simp only [text, Namer.numbered, String.toList_append, List.append_assoc] at same
      obtain ⟨rfl, sameRest⟩ := digits_append_inj ends otherEnds (List.append_cancel_left same)
      exact ⟨rfl, sameRest⟩
  | _ => cases sameOpening

/-- A legible signature can be read off the front of a text. -/
theorem readsBack (legible : signature.Legible) : ReadsBack text Legible signature := by
  induction legible with
  | word isWord => exact readsBack_word isWord
  | literals present noFloats => exact readsBack_literals present noFloats
  | fields named each reads => exact readsBack_fields named each reads
  | container inner reads => exact readsBack_container inner reads
  | tuple each reads => exact readsBack_tuple each reads
  | union present each reads => exact readsBack_union each reads present
  | intersection several each reads => exact readsBack_intersection each reads several
  | reference number => exact readsBack_reference number

/-- Legible signatures have different texts. -/
theorem eq_of_text_eq
    (legible : signature.Legible) (otherLegible : other.Legible)
    (same : signature.text = other.text) :
    signature = other :=
  (legible.readsBack other otherLegible [] [] endsNumber_nil endsNumber_nil (by rw [same])).1

end Legible

end SchemaSignature.Node
