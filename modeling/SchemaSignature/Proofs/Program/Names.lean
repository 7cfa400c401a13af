import SchemaSignature.Proofs.Program.Conduct

/-!
What holds of the names in every state that a program reaches, between any two of its moves: in the
middle of a rendering, within nested activations, and after failures.
-/

namespace SchemaSignature.Program

/-- The desk that a program leaves behind. -/
def deskAfter (depth : Nat) (steps : List Step) : Desk Cell Shelf :=
  ((performAll depth steps).runOn initial).2

/-- What holds of the desk that a program has reached by the moves of a history. -/
structure Sound (history : List (Move Cell)) (desk : Desk Cell Shelf) : Prop where
  /-- The namers are the default one and those that have been created. -/
  namers : desk.namers.length = (Namer.standard :: history.flatMap Move.namers).length
  /-- The fresh names of a namer are different, and they are those of the numbers after its first
  count up to its present one, without the numbers that are too long to be written. -/
  handed : ∀ index origin, (Namer.standard :: history.flatMap Move.namers)[index]? = some origin →
    ∃ namer, desk.namers[index]? = some namer ∧ namer.stem = origin.stem ∧
      origin.count ≤ namer.count ∧ (Move.handedBy index history).Nodup ∧
      Move.handedBy index history =
        ((List.range' (origin.count + 1) (namer.count - origin.count)).filter
          (· < Nat.pow 10 Number.digitLimit)).map (Namer.numbered origin.stem)
  /-- Only the claims of cells and lazy nodes give names to them, and each is given one once. -/
  named : desk.names = history.flatMap Move.named
  once : ((history.flatMap Move.named).map Prod.fst).Nodup
  /-- Every claim, of whichever namer, comes to the one name of the cell. -/
  claims : ∀ cell namer name first, Move.claimed cell namer name first ∈ history →
    desk.nameOf? cell = some name
  /-- The names that the log says have been minted are the fresh ones, in order. -/
  logged : desk.mintedNames = (history.flatMap Move.fresh).map Prod.snd

theorem sound_of_records
    {history : List (Move Cell)} {desk : Desk Cell Shelf}
    (records : initial.Records history desk) : Sound history desk where
  namers := records.length
  handed := by
    intro index origin present
    obtain ⟨namer, atEnd, advances⟩ := records.namers index origin present
    exact ⟨namer, atEnd, advances.stem, advances.count, records.nodup_handedBy index,
      advances.handed⟩
  named := records.names
  once := by
    have different := records.once List.nodup_nil
    rw [records.names] at different
    exact different
  claims := records.claims
  logged := records.minted

/-- In every state that a program reaches the names are sound, and what holds of them in one state
still does in every later one. -/
theorem sound_and_lasting (depth : Nat) (steps : List Step) :
    ∃ history, initial.Evolves history (deskAfter depth steps) ∧
      ∀ earlier between later, history = earlier ++ between ++ later →
        ∃ desk next, initial.Evolves earlier desk ∧ desk.Evolves between next ∧
          next.Evolves later (deskAfter depth steps) ∧
          Sound earlier desk ∧ Sound (earlier ++ between) next ∧ desk.Lasts next := by
  obtain ⟨history, evolves⟩ := develops_performAll depth steps initial
  refine ⟨history, evolves, ?_⟩
  rintro earlier between later rfl
  obtain ⟨next, toNext, fromNext⟩ := evolves.split
  obtain ⟨desk, toDesk, fromDesk⟩ := toNext.split
  exact ⟨desk, next, toDesk, fromDesk, fromNext, sound_of_records toDesk.records,
    sound_of_records toNext.records, fromDesk.records.lasts⟩

/-! ## A number that is too long -/

/-- A program that lets a namer go on from a number and mints one name. -/
def mintAfter (start : Nat) : List Step :=
  [.createNamer "namer" Namer.defaultStem start, .mint "namer"]

/-- The desk after the first step of the program. -/
def deskWithNamer (start : Nat) : Desk Cell Shelf where
  namers := [Namer.standard, { stem := Namer.defaultStem, count := start }]
  own := { namers := [("default", 0), ("namer", 1)], namerNames := ["default", "namer"] }

theorem runOn_createNamer (depth start : Nat) :
    (perform depth (.createNamer "namer" Namer.defaultStem start)).runOn initial =
      (.ok .done, deskWithNamer start) := by
  have created : Namer.create Namer.defaultStem start =
      .ok { stem := Namer.defaultStem, count := start } := by
    rw [Namer.create, if_neg (Int.not_lt.mpr (Int.natCast_nonneg start)), Int.toNat_natCast]
  rw [perform, created]
  rfl

theorem runOn_attempt
    {work : ProgramWork Reply} {outcome : Except Failure Reply} {desk after : Desk Cell Shelf}
    (ran : work.runOn desk = (outcome, after)) :
    ∃ reply, (attempt work).runOn desk = (.ok reply, after) := by
  rw [attempt, Work.runOn_tryCatch, ran]
  cases outcome with
  | ok reply => exact ⟨reply, rfl⟩
  | error failure => exact ⟨.failed failure, rfl⟩

theorem runOn_performAll_cons
    {depth : Nat} {step : Step} {rest : List Step} {outcome : Except Failure Reply}
    {desk middle : Desk Cell Shelf} (ran : (perform depth step).runOn desk = (outcome, middle)) :
    ((performAll depth (step :: rest)).runOn desk).2 = ((performAll depth rest).runOn middle).2 := by
  obtain ⟨reply, attempted⟩ := runOn_attempt ran
  rw [performAll, Work.runOn_bind_of_ok attempted, Work.runOn_bind]
  split
  · next ranRest => rw [ranRest, Work.runOn_pure]
  · next ranRest => rw [ranRest]

/-- A namer whose next number is too long goes past it without handing out a name. -/
theorem evolves_mintAfter
    {start : Nat} (tooLong : Nat.pow 10 Number.digitLimit ≤ start + 1) (depth : Nat) :
    initial.Evolves [.created Namer.defaultStem start, .skipped 1]
        (deskAfter depth (mintAfter start)) ∧
      (deskAfter depth (mintAfter start)).namers[1]? =
        some { stem := Namer.defaultStem, count := start + 1 } := by
  let namer : Namer := { stem := Namer.defaultStem, count := start }
  have present : (deskWithNamer start).namers[1]? = some namer := rfl
  have nameless : namer.nameOf (namer.count + 1) = .error (.misuse .numberTooLong) := by
    rw [Namer.nameOf_eq, if_neg (Nat.not_lt.mpr tooLong)]
  have skipped := Work.runOn_mint_of_error present nameless
  have minted : (perform depth (.mint "namer")).runOn (deskWithNamer start) =
      (.error (.misuse .numberTooLong), { deskWithNamer start with
        namers := (deskWithNamer start).namers.set 1 namer.advance }) := by
    have found : (Shelf.find Shelf.namers "namer").runOn (deskWithNamer start) =
        (.ok 1, deskWithNamer start) :=
      rfl
    rw [perform, Work.runOn_bind_of_ok found, Work.runOn_bind_of_error skipped]
  have last : deskAfter depth (mintAfter start) = { deskWithNamer start with
      namers := (deskWithNamer start).namers.set 1 namer.advance } := by
    rw [deskAfter, mintAfter, runOn_performAll_cons (runOn_createNamer depth start),
      runOn_performAll_cons minted, performAll, Work.runOn_pure]
  have passing : (deskWithNamer start).Evolves [.skipped 1] _ := .move (.skipped skipped) (.rest _)
  rw [last]
  refine ⟨.move (.created initial Namer.defaultStem start) ?_, rfl⟩
  have idles : Desk.Idles
      { initial with namers := initial.namers ++ [{ stem := Namer.defaultStem, count := start }] }
      (deskWithNamer start) :=
    ⟨rfl, rfl, rfl⟩
  exact .idle idles passing

/-- The largest number that can be written. -/
def largest : Nat :=
  Nat.pow 10 Number.digitLimit - 1

/-- The fresh names of a namer need not be those of all numbers up to its count. -/
theorem handedBy_ne_numbered :
    ∃ history namer, initial.Evolves history (deskAfter 0 (mintAfter largest)) ∧
      (Namer.standard :: history.flatMap Move.namers)[1]? =
        some { stem := Namer.defaultStem, count := largest } ∧
      (deskAfter 0 (mintAfter largest)).namers[1]? = some namer ∧
      Move.handedBy 1 history ≠
        (List.range' (largest + 1) (namer.count - largest)).map (Namer.numbered namer.stem) := by
  have tooLong : Nat.pow 10 Number.digitLimit ≤ largest + 1 := Nat.le_add_of_sub_le (Nat.le_refl _)
  obtain ⟨evolves, present⟩ := evolves_mintAfter tooLong 0
  refine ⟨_, _, evolves, rfl, present, ?_⟩
  have passed : largest + 1 - largest = 1 := Nat.add_sub_cancel_left _ _
  rw [passed]
  intro same
  cases same

end SchemaSignature.Program
