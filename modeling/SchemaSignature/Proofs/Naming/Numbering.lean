import SchemaSignature.Proofs.Naming.Renaming

/-!
The stem and the first number of the names do not matter. Rendering never looks at the text of a name,
so that what it comes to is a pattern: references in the order in which they get their names, and
nodes with places in that order for the names. A stem and a number to start from make names of the
places, and all namers make the same of a pattern, as long as none of their numbers is too long.
-/

namespace SchemaSignature

/-- The name of a place, for a namer with a stem and a number to start from. -/
def Namer.nameOfPlace (stem : String) (start place : Nat) : String :=
  numbered stem (start + place)

theorem Namer.nameOfPlace_injective (stem : String) (start : Nat) :
    Function.Injective (nameOfPlace stem start) :=
  fun _ _ same => Nat.add_left_cancel (numbered_injective stem same)

/-- The signature that a node with places stands for. -/
def Node.withNames (stem : String) (start : Nat) (node : Node Nat) : Signature :=
  node.map (Namer.nameOfPlace stem start)

open Namer (nameOfPlace)

/-- The references that have a name, in the order in which they got it, and what has been declared,
with places in that order for the names. The first place is one. -/
structure Pattern where
  references : List String := []
  declarations : List (Nat × Node Nat) := []

namespace Pattern

def placeOf? (pattern : Pattern) (reference : String) : Option Nat :=
  (pattern.references.zipIdx 1).lookup reference

/-- The place of the next reference that gets a name. -/
def next (pattern : Pattern) : Nat :=
  pattern.references.length + 1

def claim (pattern : Pattern) (reference : String) : Pattern :=
  { pattern with references := pattern.references ++ [reference] }

def declare (pattern : Pattern) (place : Nat) (expansion : Node Nat) : Pattern :=
  { pattern with
    declarations := Table.setIfAbsent (· == ·) place expansion pattern.declarations }

/-- The names of a pattern, for a namer with a stem and a number to start from. -/
def ledger (pattern : Pattern) (stem : String) (start : Nat) : Ledger where
  names := (pattern.references.zipIdx 1).map (Prod.map id (nameOfPlace stem start))
  namer :=
    { stem := stem
      count := start + pattern.references.length
      declarations :=
        pattern.declarations.map (Prod.map (nameOfPlace stem start) (Node.withNames stem start)) }

variable (pattern : Pattern) (stem : String) (start : Nat)

theorem nameOf?_ledger (reference : String) :
    (pattern.ledger stem start).nameOf? reference =
      (pattern.placeOf? reference).map (nameOfPlace stem start) := by
  unfold Ledger.nameOf? ledger placeOf?
  simp only
  generalize pattern.references.zipIdx 1 = entries
  induction entries with
  | nil => rfl
  | cons entry rest inductionHypothesis =>
      obtain ⟨other, place⟩ := entry
      rw [List.map_cons, Prod.map_apply, List.lookup_cons, List.lookup_cons, id]
      cases reference == other with
      | true => rfl
      | false => exact inductionHypothesis

theorem ledger_claim (reference : String) :
    (pattern.claim reference).ledger stem start =
      (pattern.ledger stem start).claim reference (nameOfPlace stem start pattern.next) := by
  have listed : (pattern.references ++ [reference]).zipIdx 1 =
      pattern.references.zipIdx 1 ++ [(reference, pattern.next)] := by
    rw [List.zipIdx_append, Nat.add_comm, List.zipIdx_singleton]
    rfl
  unfold ledger claim Ledger.claim Namer.advance
  simp only [listed, List.map_append, List.length_append, List.length_singleton, Nat.add_assoc]
  rfl

theorem ledger_declare (place : Nat) (expansion : Node Nat) :
    (pattern.declare place expansion).ledger stem start =
      (pattern.ledger stem start).declare (nameOfPlace stem start place)
        (expansion.withNames stem start) := by
  unfold ledger declare Ledger.declare Namer.declare
  simp only [Table.setIfAbsent_map (Namer.nameOfPlace_injective stem start)]

/-- The next name is that of the next place, unless its number is too long. -/
theorem nextName_ledger :
    (pattern.ledger stem start).nextName =
      if start + pattern.next < Nat.pow 10 Number.digitLimit then
        .ok (nameOfPlace stem start pattern.next)
      else .error (.misuse .numberTooLong) := by
  rw [Ledger.nextName, Namer.nameOf_eq]
  rfl

variable {pattern stem start}

theorem nextName_of_lt
    (short : start + pattern.next < Nat.pow 10 Number.digitLimit) :
    (pattern.ledger stem start).nextName = .ok (nameOfPlace stem start pattern.next) := by
  rw [nextName_ledger, if_pos short]

theorem eq_of_nextName {name : String} (minted : (pattern.ledger stem start).nextName = .ok name) :
    name = nameOfPlace stem start pattern.next := by
  rw [nextName_ledger] at minted
  split at minted
  · exact (Except.ok.inj minted).symm
  · cases minted

/-- Which references have a name does not depend on the namer. -/
theorem unnamed_of_unnamed
    {reference : String} (unnamed : (pattern.ledger stem start).nameOf? reference = none)
    (otherStem : String) (otherStart : Nat) :
    (pattern.ledger otherStem otherStart).nameOf? reference = none := by
  rw [nameOf?_ledger, Option.map_eq_none_iff] at unnamed ⊢
  exact unnamed

theorem named_of_named
    {reference name : String} (named : (pattern.ledger stem start).nameOf? reference = some name) :
    ∃ place, name = nameOfPlace stem start place ∧ ∀ otherStem otherStart,
      (pattern.ledger otherStem otherStart).nameOf? reference =
        some (nameOfPlace otherStem otherStart place) := by
  rw [nameOf?_ledger] at named
  obtain ⟨place, found, rfl⟩ := Option.map_eq_some_iff.mp named
  refine ⟨place, rfl, fun otherStem otherStart => ?_⟩
  rw [nameOf?_ledger, found]
  rfl

end Pattern

theorem Node.withNames_fill
    (node : Node String) (parts : List (Node Nat)) (stem : String) (start : Nat) :
    (node.fill parts).withNames stem start = node.fill (parts.map (withNames stem start)) :=
  map_fill _ node parts

section Patterns

variable {body : String → Except Failure (Node String)} {references : List String}
  {pattern : Pattern} {stem : String} {start : Nat}

/-- What visiting references comes to is a pattern, of which every namer makes its own names. -/
theorem Visits.exists_pattern
    {after : Ledger} {signatures : List Signature}
    (visited : Visits body (pattern.ledger stem start) references signatures after) :
    ∃ (nodes : List (Node Nat)) (last : Pattern), pattern.references <+: last.references ∧
      signatures = nodes.map (Node.withNames stem start) ∧ after = last.ledger stem start ∧
      ∀ otherStem otherStart,
        otherStart + last.references.length < Nat.pow 10 Number.digitLimit →
        Visits body (pattern.ledger otherStem otherStart) references
          (nodes.map (Node.withNames otherStem otherStart)) (last.ledger otherStem otherStart) := by
  generalize isStart : pattern.ledger stem start = ledger at visited
  induction visited generalizing pattern with
  | done =>
      subst isStart
      exact ⟨[], pattern, List.prefix_rfl, rfl, rfl, fun _ _ _ => .done _⟩
  | @again ledger after reference name rest signatures named _ inductionHypothesis =>
      subst isStart
      obtain ⟨place, rfl, namedToo⟩ := Pattern.named_of_named named
      obtain ⟨nodes, last, grown, rfl, rfl, others⟩ := inductionHypothesis rfl
      exact ⟨.lazy place :: nodes, last, grown, rfl, rfl, fun otherStem otherStart short =>
        .again (namedToo otherStem otherStart) (others otherStem otherStart short)⟩
  | @first ledger expanded after reference name rest node parts signatures unnamed minted stands
      _ _ inside later =>
      subst isStart
      obtain rfl := Pattern.eq_of_nextName minted
      obtain ⟨nodes, middle, grownInside, rfl, rfl, othersInside⟩ :=
        inside (pattern.ledger_claim stem start reference)
      rw [← Node.withNames_fill] at later ⊢
      obtain ⟨laterNodes, last, grownLater, rfl, rfl, othersLater⟩ :=
        later (middle.ledger_declare stem start pattern.next (node.fill nodes))
      have grown : pattern.references <+: last.references :=
        (List.prefix_append _ _).trans (grownInside.trans grownLater)
      refine ⟨node.fill nodes :: laterNodes, last, grown, rfl, rfl,
        fun otherStem otherStart short => ?_⟩
      have insideLength := grownInside.length_le
      have laterLength := grownLater.length_le
      have claimedLength : (pattern.claim reference).references.length = pattern.next :=
        List.length_append
      have middleLength : (middle.declare pattern.next (node.fill nodes)).references.length =
        middle.references.length := rfl
      have visitedInside := othersInside otherStem otherStart (by omega)
      have visitedLater := othersLater otherStem otherStart short
      rw [Pattern.ledger_claim] at visitedInside
      rw [Pattern.ledger_declare, Node.withNames_fill] at visitedLater
      rw [List.map_cons, Node.withNames_fill]
      exact .first
        (Pattern.unnamed_of_unnamed unnamed otherStem otherStart) (Pattern.nextName_of_lt (by omega))
        stands visitedInside visitedLater

/-- A visit that breaks off before a number is too long breaks off at the same place for every
namer. -/
theorem Breaks.exists_pattern
    {after : Ledger} {failure : Failure}
    (broken : Breaks body (pattern.ledger stem start) references failure after)
    (room : after.namer.count < Nat.pow 10 Number.digitLimit) :
    ∃ last : Pattern, pattern.references <+: last.references ∧ after = last.ledger stem start ∧
      ∀ otherStem otherStart,
        otherStart + last.references.length < Nat.pow 10 Number.digitLimit →
        Breaks body (pattern.ledger otherStem otherStart) references failure
          (last.ledger otherStem otherStart) := by
  generalize isStart : pattern.ledger stem start = ledger at broken
  induction broken generalizing pattern with
  | @nameless ledger reference rest failure unnamed tooLong =>
      have long := (Namer.nameOf_error tooLong).2
      exact absurd room (Nat.not_lt.mpr long)
  | @bodiless ledger reference name rest failure unnamed minted faulty =>
      subst isStart
      obtain rfl := Pattern.eq_of_nextName minted
      refine ⟨pattern.claim reference, List.prefix_append _ _,
        (pattern.ledger_claim stem start reference).symm, fun otherStem otherStart short => ?_⟩
      have claimedLength : (pattern.claim reference).references.length = pattern.next :=
        List.length_append
      rw [Pattern.ledger_claim]
      exact .bodiless
        (Pattern.unnamed_of_unnamed unnamed otherStem otherStart) (Pattern.nextName_of_lt (by omega))
        faulty
  | @inside ledger after reference name rest node failure unnamed minted stands _
      inductionHypothesis =>
      subst isStart
      obtain rfl := Pattern.eq_of_nextName minted
      obtain ⟨last, grown, rfl, others⟩ :=
        inductionHypothesis room (pattern.ledger_claim stem start reference)
      refine ⟨last, (List.prefix_append _ _).trans grown, rfl, fun otherStem otherStart short => ?_⟩
      have claimedLength : (pattern.claim reference).references.length = pattern.next :=
        List.length_append
      have grownLength := grown.length_le
      have brokenInside := others otherStem otherStart short
      rw [Pattern.ledger_claim] at brokenInside
      exact .inside
        (Pattern.unnamed_of_unnamed unnamed otherStem otherStart) (Pattern.nextName_of_lt (by omega))
        stands brokenInside
  | @afterAgain ledger after reference name rest failure named _ inductionHypothesis =>
      subst isStart
      obtain ⟨place, rfl, namedToo⟩ := Pattern.named_of_named named
      obtain ⟨last, grown, rfl, others⟩ := inductionHypothesis room rfl
      exact ⟨last, grown, rfl, fun otherStem otherStart short =>
        .afterAgain (namedToo otherStem otherStart) (others otherStem otherStart short)⟩
  | @afterFirst ledger expanded after reference name rest node parts failure unnamed minted stands
      visited _ inductionHypothesis =>
      subst isStart
      have single : Visits body (pattern.ledger stem start) [reference] [node.fill parts]
          (expanded.declare name (node.fill parts)) :=
        .first unnamed minted stands visited (.done _)
      obtain ⟨nodes, middle, grown, isNodes, isMiddle, others⟩ := single.exists_pattern
      obtain ⟨last, grownLater, rfl, othersLater⟩ := inductionHypothesis room isMiddle.symm
      refine ⟨last, grown.trans grownLater, rfl, fun otherStem otherStart short => ?_⟩
      have laterLength := grownLater.length_le
      exact (others otherStem otherStart (by omega)).append_breaks
        (othersLater otherStem otherStart short)

/-- Renderings that come to no number that is too long are the same for every namer, up to the
names. -/
theorem Renders.exists_pattern
    {node : Node String} {after : Ledger} {outcomes : List (Except Failure Signature)}
    (renders : Renders body node (pattern.ledger stem start) outcomes after)
    (room : after.namer.count < Nat.pow 10 Number.digitLimit) :
    ∃ (nodes : List (Except Failure (Node Nat))) (last : Pattern),
      pattern.references <+: last.references ∧
      outcomes = nodes.map (Except.map (Node.withNames stem start)) ∧
      after = last.ledger stem start ∧
      ∀ otherStem otherStart,
        otherStart + last.references.length < Nat.pow 10 Number.digitLimit →
        Renders body node (pattern.ledger otherStem otherStart)
          (nodes.map (Except.map (Node.withNames otherStem otherStart)))
          (last.ledger otherStem otherStart) := by
  generalize isStart : pattern.ledger stem start = ledger at renders
  induction renders generalizing pattern with
  | done =>
      subst isStart
      exact ⟨[], pattern, List.prefix_rfl, rfl, rfl, fun _ _ _ => .done _⟩
  | signature visited _ inductionHypothesis =>
      subst isStart
      obtain ⟨parts, middle, grown, rfl, rfl, others⟩ := visited.exists_pattern
      obtain ⟨nodes, last, grownLater, rfl, rfl, othersLater⟩ := inductionHypothesis room rfl
      have laterLength := grownLater.length_le
      refine ⟨.ok (node.fill parts) :: nodes, last, grown.trans grownLater, ?_, rfl,
        fun otherStem otherStart short => ?_⟩
      · rw [List.map_cons, Except.map, Node.withNames_fill]
      · rw [List.map_cons, Except.map, Node.withNames_fill]
        exact .signature (others otherStem otherStart (by omega))
          (othersLater otherStem otherStart short)
  | @failure ledger middle after cause outcomes broken later inductionHypothesis =>
      subst isStart
      have roomMiddle : middle.namer.count < Nat.pow 10 Number.digitLimit :=
        Nat.lt_of_le_of_lt later.count_le room
      obtain ⟨middle, grown, rfl, others⟩ := broken.exists_pattern roomMiddle
      obtain ⟨nodes, last, grownLater, rfl, rfl, othersLater⟩ := inductionHypothesis room rfl
      have laterLength := grownLater.length_le
      refine ⟨.error cause :: nodes, last, grown.trans grownLater, rfl, rfl,
        fun otherStem otherStart short => ?_⟩
      exact .failure (others otherStem otherStart (by omega))
        (othersLater otherStem otherStart short)

end Patterns

end SchemaSignature
