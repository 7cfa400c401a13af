import SchemaSignature.Proofs.Document.Failures
import SchemaSignature.Proofs.Naming.Numbering

/-!
The stem and the first number of a namer only rename. Two sessions of one document with fresh namers
succeed and fail in the same renderings, and differ in the names only: where the one has the name of
its first reference, second reference, and so on, the other one has its own. This ends where a number
is too long to be written.
-/

namespace SchemaSignature.Document

/-- A session with a fresh namer shows renderings and leaves a pattern behind, with the names that
the namer makes of the places. -/
structure Follows (root : Json) (bind : Bool) (count : Nat)
    (renderings : Except Failure (List (Except Failure (Node Nat)))) (pattern : Pattern)
    (stem : String) (start : Nat) : Prop where
  renderings : (session root { stem := stem, count := start } bind count).renderings =
    renderings.map (List.map (Except.map (Node.withNames stem start)))
  left : ledgerAfter root { stem := stem, count := start } bind count = pattern.ledger stem start

/-- A session that has come to no number that is too long follows a pattern, and every other fresh
namer that has room for as many names follows it too. -/
theorem exists_follows
    {root : Json} {stem : String} {start : Nat} {bind : Bool} {count : Nat}
    (room : (session root { stem := stem, count := start } bind count).namer.count <
      Nat.pow 10 Number.digitLimit) :
    ∃ renderings pattern, Follows root bind count renderings pattern stem start ∧
      ∀ otherStem otherStart,
        otherStart + pattern.references.length < Nat.pow 10 Number.digitLimit →
          Follows root bind count renderings pattern otherStem otherStart := by
  cases drafted : (root.draft root).outcome with
  | error failure =>
      have follows (anyStem : String) (anyStart : Nat) :
          Follows root bind count (.error failure) {} anyStem anyStart := by
        obtain ⟨rendered, noNames⟩ :=
          session_of_draft_error drafted { stem := anyStem, count := anyStart } bind count
        refine ⟨rendered, ?_⟩
        rw [ledgerAfter, noNames, session_namer_of_draft_error drafted]
        rfl
      exact ⟨.error failure, {}, follows stem start, fun otherStem otherStart _ =>
        follows otherStem otherStart⟩
  | ok node =>
      obtain ⟨outcomes, after, renders, sameLength, rendered, shown⟩ :=
        renders_lastDesk drafted { stem := stem, count := start } bind count
      obtain rfl := ledgerAfter_of_shows shown
      have fromNothing : Renders (body root) node (Pattern.ledger {} stem start) outcomes _ :=
        renders
      obtain ⟨nodes, pattern, _, rfl, left, others⟩ := fromNothing.exists_pattern room
      refine ⟨.ok nodes, pattern, ⟨rendered, left⟩, fun otherStem otherStart short => ?_⟩
      obtain ⟨otherOutcomes, otherAfter, otherRenders, otherLength, otherRendered, otherShown⟩ :=
        renders_lastDesk drafted { stem := otherStem, count := otherStart } bind count
      obtain ⟨rfl, rfl⟩ := (others otherStem otherStart short).unique otherRenders (by
        rw [otherLength, ← sameLength, List.length_map, List.length_map])
      exact ⟨otherRendered, ledgerAfter_of_shows otherShown⟩

/-- A session whose names have another stem and start from another number shows what the standard one
shows and leaves behind what that leaves behind, with its own name of each reference in the place of
the name that the reference has there, as long as none of the numbers is too long. -/
theorem session_renumbered
    (root : Json) (stem : String) (start : Nat) (bind : Bool) (count : Nat)
    (room : start + (session root Namer.standard bind count).namer.count <
      Nat.pow 10 Number.digitLimit) :
    ∃ renderings pattern,
      Follows root bind count renderings pattern Namer.defaultStem 0 ∧
      Follows root bind count renderings pattern stem start := by
  have standardRoom : (session root { stem := Namer.defaultStem, count := 0 } bind count).namer.count <
      Nat.pow 10 Number.digitLimit :=
    Nat.lt_of_le_of_lt (Nat.le_add_left _ start) room
  obtain ⟨renderings, pattern, standard, others⟩ := exists_follows standardRoom
  have sameCount : (session root Namer.standard bind count).namer.count =
      pattern.references.length := by
    have isCount := congrArg (fun ledger => ledger.namer.count) standard.left
    exact isCount.trans (Nat.zero_add _)
  exact ⟨renderings, pattern, standard, others stem start (sameCount ▸ room)⟩

/-- A document with two fields, of which the second one has a type that does not exist. -/
def misspelledField : Json :=
  .obj [("type", .str "object"),
    ("properties", .obj [
      ("name", .obj [("$ref", .str "#/$defs/Name")]),
      ("size", .obj [("$ref", .str "#/$defs/Size")])]),
    ("$defs", .obj [
      ("Name", .obj [("type", .str "string")]),
      ("Size", .obj [("type", .str "bogus")])])]

theorem session_renumbered_misspelledField :
    7 + (session misspelledField Namer.standard true 2).namer.count <
        Nat.pow 10 Number.digitLimit ∧
    ∃ renderings pattern,
      Follows misspelledField true 2 renderings pattern Namer.defaultStem 0 ∧
      Follows misspelledField true 2 renderings pattern "Type" 7 := by
  have two : (session misspelledField Namer.standard true 2).namer.count = 2 := rfl
  have room : 7 + (session misspelledField Namer.standard true 2).namer.count <
      Nat.pow 10 Number.digitLimit := by
    have below (number : Nat) : number < Nat.pow 10 number := Nat.lt_pow_self (by decide)
    rw [two]
    exact Nat.lt_trans (by decide) (below Number.digitLimit)
  exact ⟨room, session_renumbered misspelledField "Type" 7 true 2 room⟩

/-- Two namers that only differ in the number they start from. The rendering succeeds with the one, and
fails with the other one, whose next number is too long. -/
theorem session_starting_from_longest :
    (session referredWord Namer.standard true 1).renderings = .ok [.ok (.primitive .string)] ∧
    (session referredWord { Namer.standard with count := Nat.pow 10 Number.digitLimit - 1 }
        true 1).renderings = .ok [.error (.misuse .numberTooLong)] :=
  ⟨rfl, (session_referredWord_exhausted true 1).1⟩

end SchemaSignature.Document
