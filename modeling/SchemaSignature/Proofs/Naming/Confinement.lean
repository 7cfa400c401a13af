import SchemaSignature.Proofs.Naming.Stability

/-!
Which namers a rendering touches. Each lazy leaf has one source for its name: the namer that it is
bound to, or else the one that is active. All that a rendering does to the namers are claims of leaves
that had no name, each from its source, declarations under the names that these claims gave, from
the same source, and, at the end of a rendering that fails, a number that is too long to be
written. Leaves inside the bodies of other leaves are no different, since the same namer is active
there.
-/

namespace SchemaSignature

namespace Move

variable {key : Type}

/-- The namer that a move changes. -/
def changed? : Move key → Option Nat
  | minted namer _ | skipped namer | claimed _ namer _ true | declared namer _ _ => some namer
  | created _ _ | claimed _ _ _ false => none

end Move

namespace Desk

section Activation

variable {key own : Type}

/-! ## Which namer is active -/

/-- The same namer is active before and after. -/
def SameActive (desk after : Desk key own) : Prop :=
  after.active = desk.active

theorem stepwise_sameActive : Stepwise (SameActive : Desk key own → Desk key own → Prop) :=
  ⟨fun _ => rfl, fun before later => later.trans before⟩

/-- Whatever is done while another namer is active, the same one is active afterwards. -/
theorem cumulative_sameActive : Cumulative (SameActive : Desk key own → Desk key own → Prop) where
  toStepwise := stepwise_sameActive
  within _ _ := rfl

theorem sameActive_mint (index : Nat) :
    Work.Keeps SameActive (Work.mint index : Work key own String) := by
  refine stepwise_sameActive.bind (stepwise_sameActive.namerAt index) fun namer => ?_
  refine stepwise_sameActive.bind (fun _ => rfl) fun _ => ?_
  refine stepwise_sameActive.bind (stepwise_sameActive.ofExcept _) fun name => ?_
  exact stepwise_sameActive.bind (fun _ => rfl) fun _ => stepwise_sameActive.pure name

theorem sameActive_declare (index : Nat) (name : String) (expansion : Signature) :
    Work.Keeps SameActive (Work.declare index name expansion : Work key own Unit) :=
  stepwise_sameActive.bind (stepwise_sameActive.namerAt index) fun _ _ => rfl

theorem sameActive_claim [BEq key] (leaf : key) (index : Nat) :
    Work.Keeps SameActive (Work.claim leaf index : Work key own (String × Bool)) := by
  refine stepwise_sameActive.bind stepwise_sameActive.get fun desk => ?_
  split
  · exact stepwise_sameActive.pure _
  · refine stepwise_sameActive.bind (sameActive_mint index) fun given => ?_
    exact stepwise_sameActive.bind (fun _ => rfl) fun _ => stepwise_sameActive.pure _

theorem sameActive_enter [BEq key] (leaf : key) (index : Nat) :
    Work.Keeps SameActive (Work.enter leaf index : Work key own (String × Bool)) := by
  refine stepwise_sameActive.bind (sameActive_claim leaf index) fun claimed => ?_
  split
  · exact stepwise_sameActive.bind (fun _ => rfl) fun _ => stepwise_sameActive.pure claimed
  · exact stepwise_sameActive.pure claimed

end Activation

variable {key own : Type} [BEq key] {desk middle after : Desk key own} {move : Move key}
  {history earlier later : List (Move key)} {index : Nat}

/-! ## What moves change -/

/-- What a move does to the namers: it adds one, leaves all as they are, lets one go on to the next
number, or declares something with one. -/
theorem Takes.namers_cases (taken : desk.Takes move after) :
    (∃ stem start, move = .created stem start ∧
      after.namers = desk.namers ++ [{ stem := stem, count := start }]) ∨
    (move.changed? = none ∧ after.namers = desk.namers) ∨
    (∃ index namer, move.changed? = some index ∧ desk.namers[index]? = some namer ∧
      after.namers = desk.namers.set index namer.advance) ∨
    (∃ index namer name expansion, move = .declared index name expansion ∧
      desk.namers[index]? = some namer ∧
      after.namers = desk.namers.set index (namer.declare name expansion)) := by
  cases taken with
  | created stem start => exact Or.inl ⟨stem, start, rfl, rfl⟩
  | @minted _ index name ran =>
      rcases exists_of_runOn_mint ran with ⟨impossible, _⟩ | ⟨namer, present, _, namers, _⟩
      · cases impossible
      · exact Or.inr (Or.inr (Or.inl ⟨index, namer, rfl, present, namers⟩))
  | @skipped _ index ran =>
      rcases exists_of_runOn_mint ran with ⟨impossible, _⟩ | ⟨namer, present, _, namers, _⟩
      · cases impossible
      · exact Or.inr (Or.inr (Or.inl ⟨index, namer, rfl, present, namers⟩))
  | @claimed _ leaf index name first ran =>
      cases named : desk.nameOf? leaf with
      | some given =>
          rw [Work.runOn_claim_of_named named] at ran
          cases ran
          exact Or.inr (Or.inl ⟨rfl, rfl⟩)
      | none =>
          rcases minted : (Work.mint index).runOn desk with ⟨outcome, last⟩
          cases outcome with
          | error failure =>
              rw [Work.runOn_claim_of_not_minted named minted] at ran
              cases ran
          | ok fresh =>
              rw [Work.runOn_claim_of_minted named minted] at ran
              cases ran
              rcases exists_of_runOn_mint minted with ⟨impossible, _⟩ | ⟨namer, present, _, namers, _⟩
              · cases impossible
              · exact Or.inr (Or.inr (Or.inl ⟨index, namer, rfl, present, namers⟩))
  | @declared _ index name expansion ran =>
      cases present : desk.namers[index]? with
      | none =>
          rw [Work.runOn_declare_absent present] at ran
          cases ran
      | some namer =>
          rw [Work.runOn_declare_of_present present] at ran
          cases ran
          exact Or.inr (Or.inr (Or.inr ⟨index, namer, name, expansion, rfl, present, rfl⟩))

theorem Takes.namer_eq
    (taken : desk.Takes move after) (noneAdded : move.namers = [])
    (untouched : move.changed? ≠ some index) : after.namers[index]? = desk.namers[index]? := by
  have elsewhere {other : Nat} (changed : move.changed? = some other) (namer : Namer) :
      (desk.namers.set other namer)[index]? = desk.namers[index]? :=
    List.getElem?_set_ne fun same => untouched (changed.trans (congrArg some same))
  rcases taken.namers_cases with ⟨_, _, rfl, _⟩ | ⟨_, namers⟩ | ⟨_, namer, changed, _, namers⟩ |
    ⟨_, namer, _, _, rfl, _, namers⟩
  · cases noneAdded
  · rw [namers]
  · rw [namers, elsewhere changed]
  · rw [namers, elsewhere rfl]

/-- A namer that no move of a history concerns is not changed. -/
theorem Evolves.namer_eq
    (evolves : desk.Evolves history after) (noneAdded : ∀ move ∈ history, move.namers = [])
    (untouched : ∀ move ∈ history, move.changed? ≠ some index) :
    after.namers[index]? = desk.namers[index]? := by
  induction evolves with
  | rest => rfl
  | idle idles _ inductionHypothesis =>
      rw [inductionHypothesis noneAdded untouched, idles.namers]
  | @move desk middle after move rest taken _ inductionHypothesis =>
      have laterEq := inductionHypothesis
        (fun other isLater => noneAdded other (List.mem_cons_of_mem _ isLater))
        (fun other isLater => untouched other (List.mem_cons_of_mem _ isLater))
      rw [laterEq, taken.namer_eq (noneAdded move List.mem_cons_self)
        (untouched move List.mem_cons_self)]

/-- Every move of a history is taken at some point of it. -/
theorem Evolves.exists_of_mem
    (evolves : desk.Evolves history after) (isMove : move ∈ history) :
    ∃ before behind earlier later, history = earlier ++ move :: later ∧
      desk.Evolves earlier before ∧ before.Takes move behind ∧ behind.Evolves later after := by
  induction evolves with
  | rest => cases isMove
  | idle idles _ inductionHypothesis =>
      obtain ⟨before, behind, earlier, later, whole, toBefore, taken, fromBehind⟩ :=
        inductionHypothesis isMove
      exact ⟨before, behind, earlier, later, whole, .idle idles toBefore, taken, fromBehind⟩
  | @move desk middle after first rest taken evolvesLater inductionHypothesis =>
      rcases List.mem_cons.mp isMove with rfl | isLater
      · exact ⟨desk, middle, [], rest, rfl, .rest desk, taken, evolvesLater⟩
      · obtain ⟨before, behind, earlier, later, rfl, toBefore, takenThere, fromBehind⟩ :=
          inductionHypothesis isLater
        exact ⟨before, behind, first :: earlier, later, rfl, .move taken toBefore, takenThere,
          fromBehind⟩

variable {namer : Namer} {name : String} {expansion : Signature}

/-- A number is passed over only where it cannot be written. -/
theorem Evolves.long_of_skipped [LawfulBEq key]
    (evolves : desk.Evolves history after) (isMove : Move.skipped index ∈ history) :
    ∃ namer, after.namers[index]? = some namer ∧
      Nat.pow 10 Number.digitLimit ≤ namer.count := by
  obtain ⟨before, behind, _, _, _, _, taken, fromBehind⟩ := evolves.exists_of_mem isMove
  cases taken with
  | skipped ran =>
      rcases exists_of_runOn_mint ran with ⟨impossible, _⟩ | ⟨namer, present, named, namers, _⟩
      · cases impossible
      · have long := (Namer.nameOf_error named.symm).2
        have advanced : behind.namers[index]? = some namer.advance := by
          rw [namers, Work.namer_set_self present]
        obtain ⟨last, atEnd, _, count, _⟩ := fromBehind.records.lasts.namers index _ advanced
        exact ⟨last, atEnd, Nat.le_trans long count⟩

/-- What a history declares is declared at its end. -/
theorem Evolves.mem_declared [LawfulBEq key]
    (evolves : desk.Evolves history after)
    (isMove : Move.declared index name expansion ∈ history) :
    ∃ namer, after.namers[index]? = some namer ∧ name ∈ namer.declared := by
  obtain ⟨before, behind, _, _, _, _, taken, fromBehind⟩ := evolves.exists_of_mem isMove
  cases taken with
  | declared ran =>
      cases present : before.namers[index]? with
      | none =>
          rw [Work.runOn_declare_absent present] at ran
          cases ran
      | some namer =>
          rw [Work.runOn_declare_of_present present] at ran
          cases ran
          have declared := Work.namer_set_self present (namer.declare name expansion)
          have inRange := (List.getElem?_eq_some_iff.mp declared).1
          obtain ⟨last, atEnd, advances⟩ := fromBehind.records.namers index _
            (by rw [List.getElem?_append_left inRange, declared])
          have isDeclared : name ∈ (namer.declare name expansion).declared :=
            Namer.mem_declared_declare.mpr (Or.inr rfl)
          exact ⟨last, atEnd, (advances.declarations.map Prod.fst).subset isDeclared⟩

/-- What is declared with a namer of a desk was declared with it before, or the history has it. -/
theorem Takes.mem_declarations
    (taken : desk.Takes move after) {entry : String × Signature}
    (present : after.namers[index]? = some namer) (isEntry : entry ∈ namer.declarations) :
    (∃ origin, desk.namers[index]? = some origin ∧ entry ∈ origin.declarations) ∨
      move = .declared index entry.1 entry.2 := by
  rcases taken.namers_cases with ⟨stem, start, _, namers⟩ | ⟨_, namers⟩ |
    ⟨other, origin, _, found, namers⟩ | ⟨other, origin, name, expansion, rfl, found, namers⟩
  · rw [namers, List.getElem?_append] at present
    split at present
    · exact Or.inl ⟨namer, present, isEntry⟩
    · obtain ⟨_, rfl⟩ := List.getElem?_eq_some_iff.mp present
      simp at isEntry
  · rw [namers] at present
    exact Or.inl ⟨namer, present, isEntry⟩
  · rw [namers] at present
    rcases Work.namer_of_set present with ⟨rfl, rfl⟩ | same
    · exact Or.inl ⟨origin, found, isEntry⟩
    · exact Or.inl ⟨namer, same, isEntry⟩
  · rw [namers] at present
    rcases Work.namer_of_set present with ⟨rfl, rfl⟩ | same
    · rcases Namer.mem_declarations_declare isEntry with isOld | rfl
      · exact Or.inl ⟨origin, found, isOld⟩
      · exact Or.inr rfl
    · exact Or.inl ⟨namer, same, isEntry⟩

theorem Evolves.mem_declarations
    (evolves : desk.Evolves history after) {entry : String × Signature}
    (present : after.namers[index]? = some namer) (isEntry : entry ∈ namer.declarations) :
    (∃ origin, desk.namers[index]? = some origin ∧ entry ∈ origin.declarations) ∨
      Move.declared index entry.1 entry.2 ∈ history := by
  induction evolves with
  | rest => exact Or.inl ⟨namer, present, isEntry⟩
  | idle idles _ inductionHypothesis =>
      rw [← idles.namers]
      exact inductionHypothesis present
  | move taken _ inductionHypothesis =>
      rcases inductionHypothesis present with ⟨origin, found, isOld⟩ | isLater
      · rcases taken.mem_declarations found isOld with isBefore | rfl
        · exact Or.inl isBefore
        · exact Or.inr List.mem_cons_self
      · exact Or.inr (List.mem_cons_of_mem _ isLater)

/-! ## What is confined -/

variable {source : key → Nat} {first second : Type}

/-- The moves of a rendering: a leaf without a name is given one from its source, or the number of
its source is too long; and what is declared is declared with the source of a leaf under the name
that the leaf was given. -/
def Permits (source : key → Nat) (desk : Desk key own) (history : List (Move key)) :
    Move key → Prop
  | .claimed leaf namer _ true => desk.nameOf? leaf = none ∧ namer = source leaf
  | .skipped namer => ∃ leaf, desk.nameOf? leaf = none ∧ namer = source leaf
  | .declared namer name _ => ∃ leaf, Move.claimed leaf namer name true ∈ history
  | _ => False

/-- A desk goes to another by permitted moves only, with the given outcome. No number is too long
unless the work fails for that reason, and if it does not fail, all names that have been given are
declared. -/
structure Confined (source : key → Nat) (desk : Desk key own) (history : List (Move key))
    (outcome : Except Failure first) (after : Desk key own) : Prop where
  evolves : desk.Evolves history after
  active : after.active = desk.active
  permitted : ∀ move ∈ history, desk.Permits source history move
  skipped : ∀ namer, Move.skipped namer ∈ history → outcome = .error (.misuse .numberTooLong)
  declared : ∀ value, outcome = .ok value → ∀ leaf namer name,
    Move.claimed leaf namer name true ∈ history →
      ∃ expansion, Move.declared namer name expansion ∈ history

theorem Confined.of_rests (rests : desk.Rests after) (outcome : Except Failure first) :
    desk.Confined source [] outcome after where
  evolves := .idle rests.toIdles (.rest after)
  active := rests.active
  permitted _ impossible := by cases impossible
  skipped _ impossible := by cases impossible
  declared _ _ _ _ _ impossible := by cases impossible

/-- A failure is one of any kind of work. -/
theorem Confined.of_error
    {failure : Failure} (confined : desk.Confined source history (.error failure : Except _ first) after) :
    desk.Confined source history (.error failure : Except _ second) after where
  evolves := confined.evolves
  active := confined.active
  permitted := confined.permitted
  skipped namer isMove := by rw [Except.error.inj (confined.skipped namer isMove)]
  declared _ impossible := by cases impossible

theorem Permits.of_subset
    {wider : List (Move key)} (permitted : desk.Permits source history move)
    (included : history ⊆ wider) : desk.Permits source wider move := by
  match move, permitted with
  | .claimed _ _ _ true, permitted => exact permitted
  | .skipped _, permitted => exact permitted
  | .declared _ _ _, ⟨leaf, isMove⟩ => exact ⟨leaf, included isMove⟩

/-- A leaf that has no name at a later point had none before. -/
theorem Permits.of_lasts
    (permitted : middle.Permits source history move) (lasts : desk.Lasts middle) :
    desk.Permits source history move := by
  have unnamedBefore {leaf : key} (unnamed : middle.nameOf? leaf = none) :
      desk.nameOf? leaf = none := by
    cases named : desk.nameOf? leaf with
    | none => rfl
    | some name => cases unnamed.symm.trans (lasts.names leaf name named)
  match move, permitted with
  | .claimed _ _ _ true, ⟨unnamed, isSource⟩ => exact ⟨unnamedBefore unnamed, isSource⟩
  | .skipped _, ⟨leaf, unnamed, isSource⟩ => exact ⟨leaf, unnamedBefore unnamed, isSource⟩
  | .declared _ _ _, permitted => exact permitted

theorem Confined.append [LawfulBEq key]
    {value : first} {outcome : Except Failure second}
    (before : desk.Confined source earlier (.ok value) middle)
    (thereafter : middle.Confined source later outcome after) :
    desk.Confined source (earlier ++ later) outcome after where
  evolves := before.evolves.trans thereafter.evolves
  active := thereafter.active.trans before.active
  permitted := by
    intro move isMove
    rcases List.mem_append.mp isMove with isEarly | isLate
    · exact (before.permitted move isEarly).of_subset (List.subset_append_left _ _)
    · have permitted := (thereafter.permitted move isLate).of_lasts before.evolves.records.lasts
      exact permitted.of_subset (List.subset_append_right _ _)
  skipped := by
    intro namer isMove
    rcases List.mem_append.mp isMove with isEarly | isLate
    · cases before.skipped namer isEarly
    · exact thereafter.skipped namer isLate
  declared := by
    intro result isResult leaf namer name isMove
    rcases List.mem_append.mp isMove with isEarly | isLate
    · obtain ⟨expansion, isDeclared⟩ := before.declared value rfl leaf namer name isEarly
      exact ⟨expansion, List.mem_append_left _ isDeclared⟩
    · obtain ⟨expansion, isDeclared⟩ := thereafter.declared result isResult leaf namer name isLate
      exact ⟨expansion, List.mem_append_right _ isDeclared⟩

/-- Work that fails after a leaf has been given a name. -/
theorem Confined.of_claimed [LawfulBEq key]
    {leaf : key} {outcome : Except Failure first} {failure : Failure}
    (unnamed : desk.nameOf? leaf = none)
    (entering : desk.Evolves [.claimed leaf (source leaf) name true] middle)
    (active : middle.active = desk.active)
    (inside : middle.Confined source history outcome after)
    (skipped : ∀ namer, Move.skipped namer ∈ history → failure = .misuse .numberTooLong) :
    desk.Confined source (.claimed leaf (source leaf) name true :: history)
      (.error failure : Except _ second) after where
  evolves := entering.trans inside.evolves
  active := inside.active.trans active
  permitted := by
    intro move isMove
    rcases List.mem_cons.mp isMove with rfl | isInside
    · exact ⟨unnamed, rfl⟩
    · have permitted := (inside.permitted move isInside).of_lasts entering.records.lasts
      exact permitted.of_subset (List.subset_cons_self _ _)
  skipped := by
    intro namer isMove
    rcases List.mem_cons.mp isMove with impossible | isInside
    · cases impossible
    · rw [skipped namer isInside]
  declared _ impossible := by cases impossible

/-- Work that ends with declaring the name that a leaf has been given at its start. -/
theorem Confined.of_declared [LawfulBEq key]
    {leaf : key} {value : first} {last : Desk key own}
    (unnamed : desk.nameOf? leaf = none)
    (entering : desk.Evolves [.claimed leaf (source leaf) name true] middle)
    (active : middle.active = desk.active)
    (inside : middle.Confined source history (.ok value) last)
    (ran : (Work.declare (source leaf) name expansion).runOn last = (.ok (), after))
    (sameActive : after.active = last.active) (result : second) :
    desk.Confined source
      (.claimed leaf (source leaf) name true :: history ++ [.declared (source leaf) name expansion])
      (.ok result : Except Failure second) after where
  evolves := (entering.trans inside.evolves).trans (.move (.declared ran) (.rest after))
  active := sameActive.trans (inside.active.trans active)
  permitted := by
    intro move isMove
    rcases List.mem_append.mp isMove with isEarly | isLast
    · rcases List.mem_cons.mp isEarly with rfl | isInside
      · exact ⟨unnamed, rfl⟩
      · have permitted := (inside.permitted move isInside).of_lasts entering.records.lasts
        exact permitted.of_subset fun other isOther =>
          List.mem_append_left _ (List.mem_cons_of_mem _ isOther)
    · cases List.mem_singleton.mp isLast
      exact ⟨leaf, List.mem_append_left _ List.mem_cons_self⟩
  skipped := by
    intro namer isMove
    rcases List.mem_append.mp isMove with isEarly | isLast
    · rcases List.mem_cons.mp isEarly with impossible | isInside
      · cases impossible
      · cases inside.skipped namer isInside
    · cases List.mem_singleton.mp isLast
  declared := by
    intro _ _ other namer given isMove
    rcases List.mem_append.mp isMove with isEarly | isLast
    · rcases List.mem_cons.mp isEarly with same | isInside
      · cases same
        exact ⟨expansion, List.mem_append_right _ List.mem_cons_self⟩
      · obtain ⟨declared, isDeclared⟩ := inside.declared value rfl other namer given isInside
        exact ⟨declared, List.mem_append_left _ (List.mem_cons_of_mem _ isDeclared)⟩
    · cases List.mem_singleton.mp isLast

end Desk

/-! ## Rendering is confined -/

variable {key own first second : Type} [BEq key]

/-- What some work does is confined, whatever comes of it. -/
def Work.Confines (bound : key → Option Nat) (work : Work key own first) : Prop :=
  ∀ desk, ∃ history, Desk.Confined (fun leaf => (bound leaf).getD desk.currentNamer) desk history
    (work.runOn desk).1 (work.runOn desk).2

namespace Work

variable {bound : key → Option Nat} {work : Work key own first}

theorem Keeps.confines (rests : Work.Keeps Desk.Rests work) : work.Confines bound :=
  fun desk => ⟨[], .of_rests (rests desk) _⟩

theorem Confines.bind [LawfulBEq key]
    {next : first → Work key own second} (confines : work.Confines bound)
    (confinesLater : ∀ value, (next value).Confines bound) : (work >>= next).Confines bound := by
  intro desk
  obtain ⟨history, confined⟩ := confines desk
  rw [runOn_bind]
  rcases ran : work.runOn desk with ⟨outcome, middle⟩
  rw [ran] at confined
  cases outcome with
  | error failure => exact ⟨history, confined.of_error⟩
  | ok value =>
      obtain ⟨later, confinedLater⟩ := confinesLater value middle
      rw [Desk.currentNamer, confined.active] at confinedLater
      exact ⟨history ++ later, confined.append confinedLater⟩

theorem compositional_confines [LawfulBEq key] :
    Work.Compositional fun work : Unit → Work key own _ => (work ()).Confines bound where
  pure value := (Desk.stepwise_rests.pure value).confines
  bind := Confines.bind

/-- A leaf without a name cannot be claimed only if there is no namer, or if the number of the namer
is too long. -/
theorem runOn_enter_error
    {leaf : key} {index : Nat} {desk after : Desk key own} {failure : Failure}
    (unnamed : desk.nameOf? leaf = none)
    (ran : (enter leaf index).runOn desk = (.error failure, after)) :
    desk.namers[index]? = none ∧ after = desk ∨
      failure = .misuse .numberTooLong ∧
        (mint index : Work key own String).runOn desk = (.error (.misuse .numberTooLong), after) := by
  have failed {cause : Failure} {middle : Desk key own}
      (minted : (mint index).runOn desk = (.error cause, middle)) :
      cause = failure ∧ middle = after := by
    rw [enter, runOn_bind_of_error (runOn_claim_of_not_minted unnamed minted)] at ran
    cases ran
    exact ⟨rfl, rfl⟩
  cases present : desk.namers[index]? with
  | none => exact Or.inl ⟨rfl, (failed (runOn_mint_absent present)).2.symm⟩
  | some namer =>
      cases numbered : namer.nameOf (namer.count + 1) with
      | ok name =>
          have minted := runOn_mint_of_ok present numbered
          rw [enter, runOn_bind_of_ok (runOn_claim_of_minted unnamed minted)] at ran
          cases ran
      | error cause =>
          have minted := runOn_mint_of_error present numbered
          obtain ⟨rfl, rfl⟩ := failed minted
          obtain ⟨rfl, _⟩ := Namer.nameOf_error numbered
          exact Or.inr ⟨rfl, minted⟩

theorem confined_enter
    {source : key → Nat} {leaf : key} {desk after : Desk key own} {failure : Failure}
    (unnamed : desk.nameOf? leaf = none)
    (ran : (enter leaf (source leaf)).runOn desk = (.error failure, after)) :
    ∃ history, Desk.Confined source desk history (.error failure : Except Failure second) after := by
  rcases runOn_enter_error unnamed ran with ⟨_, rfl⟩ | ⟨rfl, minted⟩
  · exact ⟨[], .of_rests (Desk.stepwise_rests.refl after) _⟩
  · have active := Desk.sameActive_mint (source leaf) desk
    rw [minted] at active
    refine ⟨[.skipped (source leaf)], .move (.skipped minted) (.rest after), active, ?_, ?_, ?_⟩
    · intro move isMove
      cases List.mem_singleton.mp isMove
      exact ⟨leaf, unnamed, rfl⟩
    · intro _ _
      rfl
    · intro _ impossible
      cases impossible

end Work

namespace Workshop

variable {workshop : Workshop key own}

/-- Looking at the body of a leaf, or at a watched leaf, does not concern the names. -/
structure Rests (workshop : Workshop key own) : Prop where
  body : ∀ leaf, Work.Keeps Desk.Rests (workshop.body leaf)
  watch : ∀ name, Work.Keeps Desk.Rests (workshop.watch name)

namespace Rests

variable [LawfulBEq key] (rests : workshop.Rests)

include rests

theorem confines_traverse
    {inner : key → Work key own Signature}
    (inside : ∀ leaf, (inner leaf).Confines workshop.bound) (node : Node key) :
    (node.traverse inner workshop.watch).Confines workshop.bound :=
  Work.compositional_confines.traverse (fun _ => inner) (fun _ => workshop.watch)
    (fun name => (rests.watch name).confines) node fun leaf _ => inside leaf

/-- What a leaf expands to is rendered before its name is declared. -/
theorem confines_renderBody
    {inner : key → Work key own Signature}
    (inside : ∀ leaf, (inner leaf).Confines workshop.bound) (leaf : key) :
    (workshop.renderBody inner leaf).Confines workshop.bound :=
  (rests.body leaf).confines.bind fun node => rests.confines_traverse inside node

/-- What happens after a leaf has been given a name from its source. -/
theorem confined_of_entered
    {inner : key → Work key own Signature}
    (inside : ∀ leaf, (inner leaf).Confines workshop.bound) {leaf : key} {source : key → Nat}
    {desk middle : Desk key own} {name : String} (unnamed : desk.nameOf? leaf = none)
    (entering : desk.Evolves [.claimed leaf (source leaf) name true] middle)
    (active : middle.active = desk.active)
    (isSource : (fun leaf => (workshop.bound leaf).getD middle.currentNamer) = source)
    {outcome : Except Failure Signature} {after : Desk key own}
    (ran : (do
        let expansion ← workshop.renderBody inner leaf
        Work.declare (source leaf) name expansion
        pure expansion : Work key own Signature).runOn middle = (outcome, after)) :
    ∃ history, Desk.Confined source desk history outcome after := by
  obtain ⟨history, confined⟩ := rests.confines_renderBody inside leaf middle
  rw [isSource] at confined
  rcases rendered : (workshop.renderBody inner leaf).runOn middle with ⟨result, last⟩
  rw [rendered] at confined
  cases result with
  | error failure =>
      rw [Work.runOn_bind_of_error rendered] at ran
      cases ran
      refine ⟨_, confined.of_claimed unnamed entering active fun namer isMove => ?_⟩
      exact Except.error.inj (confined.skipped namer isMove)
  | ok expansion =>
      rw [Work.runOn_bind_of_ok rendered] at ran
      cases present : last.namers[source leaf]? with
      | none =>
          rw [Work.runOn_bind_of_error (Work.runOn_declare_absent present name expansion)] at ran
          cases ran
          refine ⟨_, confined.of_claimed unnamed entering active fun namer isMove => ?_⟩
          cases confined.skipped namer isMove
      | some namer =>
          have declared := Work.runOn_declare_of_present present name expansion
          rw [Work.runOn_bind_of_ok declared] at ran
          cases ran
          exact ⟨_, confined.of_declared unnamed entering active declared rfl expansion⟩

theorem confines_expandWith
    {inner : key → Work key own Signature}
    (inside : ∀ leaf, (inner leaf).Confines workshop.bound) (leaf : key) :
    (workshop.expandWith inner leaf).Confines workshop.bound := by
  intro desk
  cases named : desk.nameOf? leaf with
  | some name =>
      rw [workshop.runOn_expandWith_of_named named]
      exact ⟨[], .of_rests (Desk.stepwise_rests.refl desk) _⟩
  | none =>
      generalize isSource : (fun leaf => (workshop.bound leaf).getD desk.currentNamer) = source
      have sourceHere : (workshop.bound leaf).getD desk.currentNamer = source leaf := by
        rw [← isSource]
      rw [runOn_expandWith_eq, sourceHere, expandUnder, Work.runOn_bind]
      rcases entered : (Work.enter leaf (source leaf)).runOn desk with ⟨outcome, middle⟩
      cases outcome with
      | error failure => exact Work.confined_enter named entered
      | ok claimed =>
          obtain ⟨name, first⟩ := claimed
          obtain ⟨rfl, entering⟩ := Desk.evolves_of_runOn_enter named entered
          have active := Desk.sameActive_enter leaf (source leaf) desk
          rw [entered] at active
          have sourceAfter :
              (fun leaf => (workshop.bound leaf).getD middle.currentNamer) = source := by
            rw [← isSource, Desk.currentNamer, active]
            rfl
          exact rests.confined_of_entered inside named entering active sourceAfter rfl

theorem confines_expand (depth : Nat) (leaf : key) :
    (workshop.expand depth leaf).Confines workshop.bound := by
  induction depth generalizing leaf with
  | zero =>
      exact rests.confines_expandWith
        (fun _ => (Desk.stepwise_rests.throw .outOfFuel).confines) leaf
  | succ depth inductionHypothesis => exact rests.confines_expandWith inductionHypothesis leaf

/-- A rendering is confined to the sources of the leaves. -/
theorem confined_renderWith
    (depth : Nat) (node : Node key) (chosen : Option Nat) (desk : Desk key own) :
    ∃ history, Desk.Confined
      (fun leaf => (workshop.bound leaf).getD (chosen.getD desk.currentNamer)) desk history
      ((workshop.renderWith depth node chosen).runOn desk).1
      ((workshop.renderWith depth node chosen).runOn desk).2 := by
  have rendered := rests.confines_traverse (rests.confines_expand depth) node
  cases chosen with
  | none => exact rendered desk
  | some namer =>
      obtain ⟨history, confined⟩ := rendered { desk with active := some namer }
      rw [renderWith, renderUnder, Work.runOn_withActive]
      refine ⟨history, ?_, rfl, confined.permitted, confined.skipped, confined.declared⟩
      -- choosing a namer and going back to the one before does not concern the names
      have choosing : desk.Idles { desk with active := some namer } := ⟨rfl, rfl, rfl⟩
      have goingBack (last : Desk key own) :
          last.Evolves [] { last with active := desk.active } := by
        refine .idle ?_ (.rest _)
        exact ⟨rfl, rfl, rfl⟩
      rw [← List.append_nil history]
      exact .idle choosing (confined.evolves.trans (goingBack _))

omit [LawfulBEq key] in
theorem steps : workshop.Steps Desk.Develops where
  enter := Desk.develops_enter
  body leaf := (rests.body leaf).develops
  watch name := (rests.watch name).develops
  declare := Desk.develops_declare

/-- A leaf that is expanded has a name afterwards, unless its source has none to give. -/
theorem named_of_expandWith
    {inner : key → Work key own Signature} (inside : ∀ leaf, Work.Keeps Desk.Develops (inner leaf))
    {leaf : key} {desk after : Desk key own} {outcome : Except Failure Signature}
    (ran : (workshop.expandWith inner leaf).runOn desk = (outcome, after)) :
    (∃ name, after.nameOf? leaf = some name) ∨ outcome = .error (.misuse .numberTooLong) ∨
      desk.namers[(workshop.bound leaf).getD desk.currentNamer]? = none := by
  cases named : desk.nameOf? leaf with
  | some name =>
      rw [workshop.runOn_expandWith_of_named named] at ran
      cases ran
      exact Or.inl ⟨name, named⟩
  | none =>
      rw [runOn_expandWith_eq] at ran
      generalize (workshop.bound leaf).getD desk.currentNamer = namer at ran ⊢
      rw [expandUnder, Work.runOn_bind] at ran
      rcases entered : (Work.enter leaf namer).runOn desk with ⟨result, middle⟩
      rw [entered] at ran
      cases result with
      | error failure =>
          cases ran
          rcases Work.runOn_enter_error named entered with ⟨absent, _⟩ | ⟨rfl, _⟩
          · exact Or.inr (Or.inr absent)
          · exact Or.inr (Or.inl rfl)
      | ok claimed =>
          obtain ⟨name, first⟩ := claimed
          obtain ⟨rfl, entering⟩ := Desk.evolves_of_runOn_enter named entered
          have givenName := entering.records.claims leaf namer name true List.mem_cons_self
          have develops := Desk.cumulative_develops.bind
            (rests.steps.renderBody Desk.cumulative_develops inside leaf) fun expansion =>
              Desk.cumulative_develops.bind (rests.steps.declare namer name expansion) fun _ =>
                Desk.cumulative_develops.pure expansion
          obtain ⟨history, evolves⟩ := develops middle
          simp only [if_true] at ran
          rw [ran] at evolves
          exact Or.inl ⟨name, evolves.records.lasts.names leaf name givenName⟩

/-- A lazy node that is rendered has a name afterwards, unless its source has none to give. -/
theorem named_of_renderWith
    (depth : Nat) (leaf : key) (chosen : Option Nat) (desk : Desk key own) :
    (∃ name, ((workshop.renderWith depth (.lazy leaf) chosen).runOn desk).2.nameOf? leaf =
        some name) ∨
      ((workshop.renderWith depth (.lazy leaf) chosen).runOn desk).1 =
        .error (.misuse .numberTooLong) ∨
      desk.namers[(workshop.bound leaf).getD (chosen.getD desk.currentNamer)]? = none := by
  have rendered (started : Desk key own) :
      (∃ name, ((workshop.render depth (.lazy leaf)).runOn started).2.nameOf? leaf = some name) ∨
        ((workshop.render depth (.lazy leaf)).runOn started).1 =
          .error (.misuse .numberTooLong) ∨
        started.namers[(workshop.bound leaf).getD started.currentNamer]? = none := by
    rw [render, Node.traverse]
    cases depth with
    | zero => exact rests.named_of_expandWith (fun _ => Desk.cumulative_develops.throw _) rfl
    | succ depth =>
        exact rests.named_of_expandWith (rests.steps.expand Desk.cumulative_develops depth) rfl
  cases chosen with
  | none => exact rendered desk
  | some namer => exact rendered { desk with active := some namer }

end Rests

end Workshop

/-! ## What confined work leaves behind -/

namespace Desk

variable {desk after : Desk key own} {source : key → Nat} {history : List (Move key)}
  {outcome : Except Failure first} {leaf : key} {name : String} {index : Nat}

/-- Between two desks a leaf that had no name is given one. -/
def GivesName (desk : Desk key own) (leaf : key) (name : String) (after : Desk key own) : Prop :=
  desk.nameOf? leaf = none ∧ after.nameOf? leaf = some name

variable [LawfulBEq key] (confined : desk.Confined source history outcome after)

include confined

theorem Confined.givesName_of_claimed
    {namer : Nat} (isMove : Move.claimed leaf namer name true ∈ history) :
    desk.GivesName leaf name after ∧ namer = source leaf := by
  obtain ⟨unnamed, isSource⟩ := confined.permitted _ isMove
  exact ⟨⟨unnamed, confined.evolves.records.claims leaf namer name true isMove⟩, isSource⟩

omit [LawfulBEq key] in
theorem Confined.noneAdded : ∀ move ∈ history, move.namers = [] := by
  intro move isMove
  have permitted := confined.permitted move isMove
  match move, permitted with
  | .claimed _ _ _ true, _ | .skipped _, _ | .declared _ _ _, _ => rfl

/-- A leaf is given its name by a claim from its source. -/
theorem Confined.claimed_of_givesName (given : desk.GivesName leaf name after) :
    Move.claimed leaf (source leaf) name true ∈ history := by
  obtain ⟨unnamed, named⟩ := given
  rw [nameOf?] at unnamed named
  rw [confined.evolves.records.names, List.lookup_append, unnamed, Option.none_or] at named
  obtain ⟨before, behind, whole, _⟩ := List.lookup_eq_some_iff.mp named
  have isNamed : (leaf, name) ∈ history.flatMap Move.named := by
    rw [whole]
    exact List.mem_append_right _ List.mem_cons_self
  obtain ⟨move, isMove, isGiven⟩ := List.mem_flatMap.mp isNamed
  cases move with
  | created | minted | skipped | declared => cases isGiven
  | claimed other namer given first =>
      cases first with
      | false => cases isGiven
      | true =>
          cases List.mem_singleton.mp isGiven
          obtain ⟨_, rfl⟩ := confined.givesName_of_claimed isMove
          exact isMove

/-- A namer that has changed is the source of a leaf that has been given a name, unless the work
has failed because the number of the namer is too long. -/
theorem Confined.source_of_changed (changed : after.namers[index]? ≠ desk.namers[index]?) :
    (∃ leaf name, desk.GivesName leaf name after ∧ source leaf = index) ∨
      outcome = .error (.misuse .numberTooLong) ∧
        ∃ namer, after.namers[index]? = some namer ∧
          Nat.pow 10 Number.digitLimit ≤ namer.count := by
  by_cases touched : ∃ move ∈ history, move.changed? = some index
  · obtain ⟨move, isMove, isChanged⟩ := touched
    have permitted := confined.permitted move isMove
    match move, permitted with
    | .claimed leaf namer name true, _ =>
        cases isChanged
        obtain ⟨given, isSource⟩ := confined.givesName_of_claimed isMove
        exact Or.inl ⟨leaf, name, given, isSource.symm⟩
    | .skipped namer, _ =>
        cases isChanged
        exact Or.inr ⟨confined.skipped index isMove, confined.evolves.long_of_skipped isMove⟩
    | .declared namer name _, ⟨leaf, isClaimed⟩ =>
        cases isChanged
        obtain ⟨given, isSource⟩ := confined.givesName_of_claimed isClaimed
        exact Or.inl ⟨leaf, name, given, isSource.symm⟩
  · refine absurd (confined.evolves.namer_eq confined.noneAdded fun move isMove isChanged => ?_)
      changed
    exact touched ⟨move, isMove, isChanged⟩

/-- A leaf that has been given a name has one of the next numbers of its source, and the name is
declared with the source if the work has not failed. -/
theorem Confined.numbered_of_givesName (given : desk.GivesName leaf name after) :
    ∃ namer later number, desk.namers[source leaf]? = some namer ∧
      after.namers[source leaf]? = some later ∧
      namer.count < number ∧ number ≤ later.count ∧ name = Namer.numbered namer.stem number ∧
      ∀ value, outcome = .ok value → name ∈ later.declared := by
  have isMove := confined.claimed_of_givesName given
  have records := confined.evolves.records
  have isHanded : name ∈ Move.handedBy (source leaf) history := by
    refine List.mem_map.mpr ⟨(source leaf, name), List.mem_filter.mpr ⟨?_, ?_⟩, rfl⟩
    · exact List.mem_flatMap.mpr ⟨_, isMove, List.mem_cons_self⟩
    · exact beq_self_eq_true (source leaf)
  have noneAdded := List.flatMap_eq_nil_iff.mpr confined.noneAdded
  have inRange : source leaf < desk.namers.length := by
    by_contra beyond
    have sameLength := records.length
    rw [noneAdded, List.append_nil] at sameLength
    rw [records.present _ (by omega)] at isHanded
    cases isHanded
  have present : desk.namers[source leaf]? = some desk.namers[source leaf] :=
    List.getElem?_eq_getElem inRange
  obtain ⟨later, atEnd, advances⟩ := records.namers (source leaf) _
    (by rw [noneAdded, List.append_nil, present])
  rw [advances.handed, Namer.namesBetween] at isHanded
  obtain ⟨number, isNumber, rfl⟩ := List.mem_map.mp isHanded
  have bounds := List.mem_range'_1.mp (List.mem_filter.mp isNumber).1
  have grown := advances.count
  refine ⟨_, later, number, present, atEnd, by omega, by omega, rfl, ?_⟩
  intro value finished
  obtain ⟨expansion, isDeclared⟩ := confined.declared value finished _ _ _ isMove
  obtain ⟨namer, atEndToo, isDeclared⟩ := confined.evolves.mem_declared isDeclared
  cases atEnd.symm.trans atEndToo
  exact isDeclared

/-- What is declared with a namer was declared before, or it is declared under the name of a leaf
that has been given one from that namer. -/
theorem Confined.source_of_declared
    {namer : Namer} {entry : String × Signature} (present : after.namers[index]? = some namer)
    (isEntry : entry ∈ namer.declarations) :
    (∃ origin, desk.namers[index]? = some origin ∧ entry ∈ origin.declarations) ∨
      ∃ leaf, desk.GivesName leaf entry.1 after ∧ source leaf = index := by
  rcases confined.evolves.mem_declarations present isEntry with isOld | isMove
  · exact Or.inl isOld
  · obtain ⟨leaf, isClaimed⟩ := confined.permitted _ isMove
    obtain ⟨given, isSource⟩ := confined.givesName_of_claimed isClaimed
    exact Or.inr ⟨leaf, given, isSource.symm⟩

end Desk

end SchemaSignature
