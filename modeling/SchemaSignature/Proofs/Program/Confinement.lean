import SchemaSignature.Proofs.Naming.Confinement
import SchemaSignature.Proofs.Program.Renderings

/-!
Which namers a rendering of a program touches. A lazy node takes its name from the namer that it is
bound to, or else from the one that is active when it is rendered for the first time, however deeply
it is nested, and it is declared there. No other namer changes, and nothing changes for a lazy node
that has a name. The one exception is a number that is too long to be written: the namer goes past
it although no node is named.
-/

namespace SchemaSignature.Program

theorem rests_workshop (depth : Nat) : (workshop depth).Rests where
  body := rests_bodyOf depth
  watch _ := Shelf.rests_update _

/-- A rendering changes a namer only if it is the active one, or if a lazy node that is bound to it
gets its name, unless the rendering fails because the number of the namer is too long. A lazy node
that gets its name has it from the namer that it is bound to, or else from the active one; there the
name is declared if the rendering does not fail, and nothing is declared but what belongs to such
names. A lazy node that has a name is rendered as that name whichever namer is active, and nothing
else happens. -/
theorem confined_to_sources
    (depth : Nat) (node : Node Cell) (chosen : Option Nat) (desk : Desk Cell Shelf) :
    let result := ((workshop depth).renderWith depth node chosen).runOn desk
    let active := chosen.getD desk.currentNamer
    (∀ index, result.2.namers[index]? ≠ desk.namers[index]? →
      index = active ∨
      (∃ cell name, desk.GivesName cell name result.2 ∧ cell.bound? = some index) ∨
      (result.1 = .error (.misuse .numberTooLong) ∧
        ∃ namer, result.2.namers[index]? = some namer ∧
          Nat.pow 10 Number.digitLimit ≤ namer.count)) ∧
    (∀ cell name, desk.GivesName cell name result.2 →
      ∃ namer later number, desk.namers[cell.bound?.getD active]? = some namer ∧
        result.2.namers[cell.bound?.getD active]? = some later ∧
        namer.count < number ∧ number ≤ later.count ∧ name = Namer.numbered namer.stem number ∧
        ∀ signature, result.1 = .ok signature → name ∈ later.declared) ∧
    (∀ index namer later, desk.namers[index]? = some namer → result.2.namers[index]? = some later →
      ∀ entry ∈ later.declarations, entry ∈ namer.declarations ∨
        ∃ cell, desk.GivesName cell entry.1 result.2 ∧ cell.bound?.getD active = index) ∧
    (∀ cell, node = .lazy cell →
      (∃ name, result.2.nameOf? cell = some name) ∨
      result.1 = .error (.misuse .numberTooLong) ∨
      desk.namers[cell.bound?.getD active]? = none) ∧
    (∀ cell name, result.2.nameOf? cell = some name →
      ∀ later, result.2.Develops later → ∀ otherDepth otherChosen,
        ((workshop otherDepth).renderWith otherDepth (.lazy cell) otherChosen).runOn later =
          (.ok (.lazy name), later)) := by
  intro result active
  obtain ⟨history, confined⟩ := (rests_workshop depth).confined_renderWith depth node chosen desk
  refine ⟨?_, ?_, ?_, ?_, ?_⟩
  · intro index changed
    rcases confined.source_of_changed changed with ⟨cell, name, given, isSource⟩ | tooLong
    · cases bound : cell.bound? with
      | none =>
          have isActive : cell.bound?.getD active = index := isSource
          rw [bound] at isActive
          exact Or.inl isActive.symm
      | some namer =>
          have isBound : cell.bound?.getD active = index := isSource
          rw [bound] at isBound
          exact Or.inr (Or.inl ⟨cell, name, given, bound.trans (congrArg some isBound)⟩)
    · exact Or.inr (Or.inr tooLong)
  · intro cell name given
    exact confined.numbered_of_givesName given
  · intro index namer later present presentLater entry isEntry
    rcases confined.source_of_declared presentLater isEntry with ⟨origin, found, isOld⟩ | isNew
    · cases present.symm.trans found
      exact Or.inl isOld
    · exact Or.inr isNew
  · rintro cell rfl
    exact (rests_workshop depth).named_of_renderWith depth cell chosen desk
  · rintro cell name named later ⟨between, evolves⟩ otherDepth otherChosen
    have namedLater : ∀ leaf ∈ (Node.lazy cell).keys, later.nameOf? leaf = some name := by
      intro leaf isLeaf
      cases List.mem_singleton.mp isLeaf
      exact evolves.records.lasts.names cell name named
    rw [Workshop.runOn_renderWith_of_named (runOn_watch otherDepth) namedLater]
    rfl

/-! ## A number that is too long -/

/-- A program that lets one namer go on from a number and another one from zero, and builds a lazy
node that is bound to neither. -/
def buildBesides (start : Nat) : List Step :=
  [.createNamer "namer" Namer.defaultStem start, .createNamer "other" Namer.defaultStem 0,
    .build "strings" (.lazy (.primitive .string) none)]

/-- The lazy node of the program. -/
def unbound : Cell :=
  .built 0 none

/-- The desk after the program, when the first namer has come to a number. -/
def deskBesides (count : Nat) : Desk Cell Shelf where
  namers := [Namer.standard, { stem := Namer.defaultStem, count := count }, Namer.standard]
  own :=
    { namers := [("default", 0), ("namer", 1), ("other", 2)]
      namerNames := ["default", "namer", "other"]
      bodies := [{ expression := .primitive .string, interpreter := standardInterpreter }]
      values := [("strings", ⟨some 0, .node (.lazy unbound)⟩)]
      marks := 1 }

theorem deskAfter_buildBesides (start : Nat) :
    deskAfter 1 (buildBesides start) = deskBesides start := by
  rw [deskAfter, buildBesides, runOn_performAll_cons (runOn_createNamer 1 start)]
  rfl

/-- A namer whose next number is too long changes although the lazy node gets no name. -/
theorem runOn_renderWith_nameless
    {count : Nat} (tooLong : Nat.pow 10 Number.digitLimit ≤ count + 1) :
    ((workshop 1).renderWith 1 (.lazy unbound) (some 1)).runOn (deskBesides count) =
      (.error (.misuse .numberTooLong), deskBesides (count + 1)) := by
  let desk : Desk Cell Shelf := { deskBesides count with active := some 1 }
  let namer : Namer := { stem := Namer.defaultStem, count := count }
  have present : desk.namers[1]? = some namer := rfl
  have nameless : namer.nameOf (namer.count + 1) = .error (.misuse .numberTooLong) := by
    rw [Namer.nameOf_eq, if_neg (Nat.not_lt.mpr tooLong)]
  have unnamed : desk.nameOf? unbound = none := rfl
  have claimed := Work.runOn_claim_of_not_minted unnamed (Work.runOn_mint_of_error present nameless)
  have rendered : ((workshop 1).render 1 (.lazy unbound)).runOn desk =
      (.error (.misuse .numberTooLong), { desk with namers := desk.namers.set 1 namer.advance }) := by
    change ((workshop 1).expandWith _ unbound).runOn desk = _
    rw [Workshop.runOn_expandWith_eq, Workshop.expandUnder, Work.runOn_bind_of_error]
    rw [Work.enter, Work.runOn_bind_of_error]
    exact claimed
  rw [Workshop.renderWith, Workshop.renderUnder, Work.runOn_withActive, rendered]
  rfl

/-- A lazy node need not have its name from the namer that is active when it is rendered for the
first time: if the number of that namer is too long, the namer changes, the node stays without a
name, and it takes one from the namer that is active the next time. -/
theorem named_from_other_namer :
    ∃ after last,
      ((workshop 1).renderWith 1 (.lazy unbound) (some 1)).runOn
          (deskAfter 1 (buildBesides largest)) = (.error (.misuse .numberTooLong), after) ∧
      after.namers[1]? = some { stem := Namer.defaultStem, count := largest + 1 } ∧
      after.names = [] ∧
      ((workshop 1).renderWith 1 (.lazy unbound) (some 2)).runOn after =
        (.ok (.primitive .string), last) ∧
      last.names = [(unbound, "$Ref1")] ∧
      last.namers[2]? = some
        { stem := Namer.defaultStem
          count := 1
          declarations := [("$Ref1", .primitive .string)] } := by
  have tooLong : Nat.pow 10 Number.digitLimit ≤ largest + 1 := Nat.le_add_of_sub_le (Nat.le_refl _)
  rw [deskAfter_buildBesides, runOn_renderWith_nameless tooLong]
  exact ⟨deskBesides (largest + 1), _, rfl, rfl, rfl, rfl, rfl, rfl⟩

end SchemaSignature.Program
