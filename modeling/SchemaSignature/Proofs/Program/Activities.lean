import SchemaSignature.Proofs.Naming.Blocks
import SchemaSignature.Proofs.Program.Names
import SchemaSignature.Proofs.Program.Renderings

/-!
Which namer is active while a program runs. A program is made of steps, blocks in which a namer is
active, threads that it waits for, and attempts; a failure ends what it happens in, up to the nearest
attempt or thread. Whatever is done, and whether it fails or not, the same namer is active
afterwards; at any moment it is the one of the innermost block, unless that block surrounds a thread.
-/

namespace SchemaSignature.Program

/-- Something that a program does. -/
inductive Activity where
  | step (step : Step)
  | raise (failure : Failure)
  /-- A block in which a namer is active. -/
  | block (namer : String) (inside : List Activity)
  /-- A new thread that is waited for. -/
  | thread (inside : List Activity)
  /-- Something else is done if the first part fails. -/
  | guarded (inside otherwise : List Activity)

namespace Activity

mutual

/-- Does what an activity says. `depth` bounds how deeply definitions and first renderings are
nested. -/
def take (depth : Nat) : Activity → ProgramWork Unit
  | .step taken => do
      let _ ← perform depth taken
  | .raise failure => throw failure
  | .block namer inside => do
      Work.useNamer (← Shelf.find Shelf.namers namer) (takeAll depth inside)
  | .thread inside => Work.inThread (takeAll depth inside)
  | .guarded inside otherwise => tryCatch (takeAll depth inside) fun _ => takeAll depth otherwise

/-- Does what several activities say, in order, up to the first that fails. -/
def takeAll (depth : Nat) : List Activity → ProgramWork Unit
  | [] => pure ()
  | activity :: rest => do
      take depth activity
      takeAll depth rest

end

/-- A step that fails at most without consequences. -/
def attempted (step : Step) : Activity :=
  .guarded [.step step] []

/-- What surrounds an activity: a block of a namer, or a thread. -/
inductive Scope where
  | block (namer : Nat)
  | thread

/-- The namer that has been activated inside of scopes, innermost first. -/
def activeIn (outside : Option Nat) : List Scope → Option Nat
  | [] => outside
  | .block namer :: _ => some namer
  | .thread :: _ => none

/-- The namer that new names come from, inside of scopes, innermost first. -/
def namerIn (outside : Nat) : List Scope → Nat
  | [] => outside
  | .block namer :: _ => namer
  | .thread :: _ => 0

/-- In the course of activities that begin on a desk, one is taken up at a moment, inside of
scopes. -/
inductive Reaches (depth : Nat) :
    List Activity → Desk Cell Shelf → List Scope → Activity → Desk Cell Shelf → Prop
  | now (activity : Activity) (rest : List Activity) (desk : Desk Cell Shelf) :
      Reaches depth (activity :: rest) desk [] activity desk
  | later {first activity : Activity} {rest : List Activity} {scopes : List Scope}
      {desk middle moment : Desk Cell Shelf}
      (done : (take depth first).runOn desk = (.ok (), middle))
      (reaches : Reaches depth rest middle scopes activity moment) :
      Reaches depth (first :: rest) desk scopes activity moment
  | inBlock {name : String} {inside rest : List Activity} {activity : Activity}
      {scopes : List Scope} {desk middle entered moment : Desk Cell Shelf} {namer : Nat}
      {token : Token} (found : (Shelf.find Shelf.namers name).runOn desk = (.ok namer, middle))
      (activated : (Work.activate namer).runOn middle = (.ok token, entered))
      (reaches : Reaches depth inside entered scopes activity moment) :
      Reaches depth (.block name inside :: rest) desk (scopes ++ [.block namer]) activity moment
  | inThread {inside rest : List Activity} {activity : Activity} {scopes : List Scope}
      {desk moment : Desk Cell Shelf}
      (reaches : Reaches depth inside { desk with active := none } scopes activity moment) :
      Reaches depth (.thread inside :: rest) desk (scopes ++ [.thread]) activity moment
  | inside {inside otherwise rest : List Activity} {activity : Activity} {scopes : List Scope}
      {desk moment : Desk Cell Shelf}
      (reaches : Reaches depth inside desk scopes activity moment) :
      Reaches depth (.guarded inside otherwise :: rest) desk scopes activity moment
  | otherwise {inside otherwise rest : List Activity} {activity : Activity} {scopes : List Scope}
      {desk middle moment : Desk Cell Shelf} {failure : Failure}
      (failed : (takeAll depth inside).runOn desk = (.error failure, middle))
      (reaches : Reaches depth otherwise middle scopes activity moment) :
      Reaches depth (.guarded inside otherwise :: rest) desk scopes activity moment

/-! ## What is active afterwards -/

theorem conduct_sameActive : Conduct Desk.SameActive where
  toCumulative := Desk.cumulative_sameActive
  shelf _ _ _ := rfl
  store _ _ _ := rfl
  create _ _ _ := rfl
  mint := Desk.sameActive_mint
  claim := Desk.sameActive_claim
  enter := Desk.sameActive_enter
  declare := Desk.sameActive_declare
  define _ _ _ _ := rfl
  call depth name interpreter desk := (rests_call depth name interpreter desk).active

mutual

/-- The same namer is active after an activity, whatever comes of it. -/
theorem sameActive_take (depth : Nat) :
    (activity : Activity) → Work.Keeps Desk.SameActive (take depth activity)
  | .step taken => by
      rw [take]
      exact conduct_sameActive.bind (conduct_sameActive.perform depth taken) fun _ =>
        conduct_sameActive.pure ()
  | .raise failure => by
      rw [take]
      exact conduct_sameActive.throw failure
  | .block namer inside => by
      rw [take]
      refine conduct_sameActive.bind (conduct_sameActive.find _ namer) fun index => ?_
      rw [Work.useNamer_eq]
      exact conduct_sameActive.withActive (sameActive_takeAll depth inside) _
  | .thread inside => by
      rw [take]
      exact conduct_sameActive.tryCatch
        (conduct_sameActive.withActive (sameActive_takeAll depth inside) none)
        fun _ => conduct_sameActive.pure ()
  | .guarded inside otherwise => by
      rw [take]
      exact conduct_sameActive.tryCatch (sameActive_takeAll depth inside) fun _ =>
        sameActive_takeAll depth otherwise

theorem sameActive_takeAll (depth : Nat) :
    (activities : List Activity) → Work.Keeps Desk.SameActive (takeAll depth activities)
  | [] => by
      rw [takeAll]
      exact conduct_sameActive.pure ()
  | activity :: rest => by
      rw [takeAll]
      exact conduct_sameActive.bind (sameActive_take depth activity) fun _ =>
        sameActive_takeAll depth rest

end

/-! ## What is active meanwhile -/

theorem activeIn_append (outside : Option Nat) (inner outer : List Scope) :
    activeIn outside (inner ++ outer) = activeIn (activeIn outside outer) inner := by
  cases inner with
  | nil => rfl
  | cons scope rest => cases scope <;> rfl

theorem getD_activeIn (outside : Option Nat) (scopes : List Scope) :
    (activeIn outside scopes).getD 0 = namerIn (outside.getD 0) scopes := by
  cases scopes with
  | nil => rfl
  | cons scope rest => cases scope <;> rfl

theorem Reaches.active
    {depth : Nat} {activities : List Activity} {activity : Activity} {scopes : List Scope}
    {desk moment : Desk Cell Shelf} (reaches : Reaches depth activities desk scopes activity moment) :
    moment.active = activeIn desk.active scopes := by
  induction reaches with
  | now => rfl
  | @later first _ _ _ desk _ _ done _ inductionHypothesis =>
      have same := sameActive_take depth first desk
      rw [done] at same
      rw [inductionHypothesis, same]
  | inBlock found activated _ inductionHypothesis =>
      cases activated
      rw [inductionHypothesis, activeIn_append]
      rfl
  | inThread _ inductionHypothesis =>
      rw [inductionHypothesis, activeIn_append]
      rfl
  | inside _ inductionHypothesis => exact inductionHypothesis
  | @otherwise inside _ _ _ _ desk _ _ _ failed _ inductionHypothesis =>
      have same := sameActive_takeAll depth inside desk
      rw [failed] at same
      rw [inductionHypothesis, same]

/-! ## Steps that are blocks -/

section Runs

variable {depth : Nat} {name : String} {inside : List Activity} {desk : Desk Cell Shelf}

theorem runOn_take_block_of_present
    {namer : Nat} (present : Table.find? (· == name) desk.own.namers = some namer) :
    (take depth (.block name inside)).runOn desk =
      (Work.withActive (some namer) (takeAll depth inside)).runOn desk := by
  rw [take, Work.runOn_bind_of_ok (runOn_find_of_present present), Work.useNamer_eq]

theorem runOn_take_block_of_absent
    (absent : Table.find? (· == name) desk.own.namers = none) :
    (take depth (.block name inside)).runOn desk = (.error .undefined, desk) := by
  rw [take, Work.runOn_bind_of_error (runOn_find_of_absent absent)]

theorem runOn_take_step (depth : Nat) (step : Step) (desk : Desk Cell Shelf) :
    (take depth (.step step)).runOn desk =
      (((perform depth step).runOn desk).1.map fun _ => (), ((perform depth step).runOn desk).2) := by
  rw [take, Work.runOn_bind]
  rcases (perform depth step).runOn desk with ⟨outcome, after⟩
  cases outcome <;> rfl

theorem runOn_takeAll_singleton (depth : Nat) (activity : Activity) (desk : Desk Cell Shelf) :
    (takeAll depth [activity]).runOn desk = (take depth activity).runOn desk := by
  rw [takeAll, takeAll, Work.runOn_bind]
  rcases (take depth activity).runOn desk with ⟨outcome, after⟩
  cases outcome <;> rfl

/-- The steps of a program are attempts: none that fails ends it. -/
theorem runOn_takeAll_attempted (depth : Nat) (steps : List Step) (desk : Desk Cell Shelf) :
    ∃ replies after, (performAll depth steps).runOn desk = (.ok replies, after) ∧
      (takeAll depth (steps.map attempted)).runOn desk = (.ok (), after) := by
  induction steps generalizing desk with
  | nil => exact ⟨[], desk, rfl, rfl⟩
  | cons step rest inductionHypothesis =>
      rcases ran : (perform depth step).runOn desk with ⟨outcome, middle⟩
      obtain ⟨reply, performed⟩ := runOn_attempt ran
      have taken : (take depth (attempted step)).runOn desk = (.ok (), middle) := by
        rw [attempted, take, Work.runOn_tryCatch, runOn_takeAll_singleton, runOn_take_step, ran]
        cases outcome <;> rfl
      obtain ⟨replies, after, performedRest, takenRest⟩ := inductionHypothesis middle
      refine ⟨reply :: replies, after, ?_, ?_⟩
      · rw [performAll, Work.runOn_bind_of_ok performed, Work.runOn_bind_of_ok performedRest,
          Work.runOn_pure]
      · rw [List.map_cons, takeAll, Work.runOn_bind_of_ok taken, takenRest]

end Runs

/-- Rendering with a namer is rendering in a block of the namer. -/
theorem take_render (depth : Nat) (name namer : String) :
    take depth (.step (.render name (some namer))) =
      take depth (.block namer [.step (.render name none)]) := by
  funext desk
  change (take depth (.step (.render name (some namer)))).runOn desk =
    (take depth (.block namer [.step (.render name none)])).runOn desk
  rw [runOn_take_step, perform]
  cases present : Table.find? (· == namer) desk.own.namers with
  | none =>
      have failed : (render depth name (some namer)).runOn desk = (.error .undefined, desk) := by
        cases stored : Table.find? (· == name) desk.own.values with
        | none => exact runOn_render_of_absent stored
        | some value =>
            rw [render, Work.runOn_bind_of_ok (runOn_find_of_present stored),
              Work.runOn_bind_of_error (runOn_namerOf?_of_absent present)]
      rw [runOn_take_block_of_absent present, failed, Except.map]
  | some index =>
      rw [runOn_take_block_of_present present, Work.runOn_withActive, runOn_takeAll_singleton,
        runOn_take_step, perform]
      cases stored : Table.find? (· == name) desk.own.values with
      | none =>
          have inside : (render depth name none).runOn { desk with active := some index } = _ :=
            runOn_render_of_absent stored
          rw [runOn_render_of_absent stored, inside]
      | some value =>
          rw [runOn_render_under stored (runOn_namerOf?_of_present present), Work.runOn_withActive]

/-- The block of a step looks up the name of its namer and then attempts its steps. -/
theorem take_useNamer (depth : Nat) (namer : String) (steps : List Step) (raises : Bool) :
    take depth (.step (.useNamer namer steps raises)) =
      take depth (.block namer (.step .showActive :: steps.map attempted)) := by
  funext desk
  change (take depth (.step (.useNamer namer steps raises))).runOn desk =
    (take depth (.block namer (.step .showActive :: steps.map attempted))).runOn desk
  rw [runOn_take_step, perform]
  cases present : Table.find? (· == namer) desk.own.namers with
  | none =>
      rw [runOn_take_block_of_absent present,
        Work.runOn_bind_of_error (runOn_find_of_absent present), Except.map]
  | some index =>
      rw [runOn_take_block_of_present present, Work.runOn_bind_of_ok (runOn_find_of_present present),
        Work.runOn_withActive, Work.runOn_withActive, takeAll, Work.runOn_bind, Work.runOn_bind,
        runOn_take_step, perform, Work.runOn_bind]
      rcases activeName.runOn { desk with active := some index } with ⟨outcome, middle⟩
      cases outcome with
      | error failure => rfl
      | ok shown =>
          obtain ⟨replies, after, performed, taken⟩ := runOn_takeAll_attempted depth steps middle
          simp only [Work.runOn_bind, Work.runOn_pure, performed, taken, Except.map]

/-- The thread of a step attempts its steps. -/
theorem take_runApart (depth : Nat) (steps : List Step) :
    take depth (.step (.runApart steps)) = take depth (.thread (steps.map attempted)) := by
  funext desk
  change (take depth (.step (.runApart steps))).runOn desk =
    (take depth (.thread (steps.map attempted))).runOn desk
  obtain ⟨replies, after, performed, taken⟩ :=
    runOn_takeAll_attempted depth steps { desk with active := none }
  rw [runOn_take_step, perform, take, Work.inThread, Work.runOn_tryCatch, Work.runOn_withActive,
    taken, Work.runOn_bind, Work.runOn_withActive, performed]
  rfl

/-! ## Every program -/

/-- Whatever a program does and wherever it fails, the namer that was active before is active again
afterwards: after the whole, and after each activity that is taken up in the course of it. At the
moment at which one is taken up, the active namer is the one of the innermost block around it, and
the default one in a new thread, whatever is active around the thread. Throughout a rendering,
including the bodies of lazy leaves, the namer is active that was active at its beginning; rendering
with a namer is rendering in a block of the namer, and the steps that consist of steps are blocks and
threads of attempts. -/
theorem active_namer_restored
    (depth : Nat) (activities : List Activity) (desk : Desk Cell Shelf) :
    ((takeAll depth activities).runOn desk).2.active = desk.active ∧
    (∀ scopes activity moment, Reaches depth activities desk scopes activity moment →
      moment.active = activeIn desk.active scopes ∧
      moment.currentNamer = namerIn desk.currentNamer scopes ∧
      ((take depth activity).runOn moment).2.active = moment.active ∧
      ∀ node, (((workshop depth).insisting moment.active).render depth node).runOn moment =
        ((workshop depth).render depth node).runOn moment) ∧
    (∀ name namer, take depth (.step (.render name (some namer))) =
      take depth (.block namer [.step (.render name none)])) ∧
    (∀ namer steps raises, take depth (.step (.useNamer namer steps raises)) =
      take depth (.block namer (.step .showActive :: steps.map attempted))) ∧
    ∀ steps, take depth (.step (.runApart steps)) = take depth (.thread (steps.map attempted)) := by
  refine ⟨sameActive_takeAll depth activities desk, ?_, take_render depth, take_useNamer depth,
    take_runApart depth⟩
  intro scopes activity moment reaches
  refine ⟨reaches.active, ?_, sameActive_take depth activity moment, fun node => ?_⟩
  · rw [Desk.currentNamer, reaches.active, getD_activeIn, Desk.currentNamer]
  · have steps := conduct_sameActive.bodyOf (conduct_sameActive.evaluate depth)
    exact Workshop.runOn_render_insisting steps (conduct_sameActive.watch depth) depth node moment

/-- A block that fails. -/
def failingBlock : List Activity :=
  [.block "inner" [.raise .undefined]]

/-- A thread and a block that fails, inside of another block. -/
def outerBlock : List Activity :=
  [.block "outer" (.thread [.step .showActive] :: failingBlock)]

/-- The failure of the inner block is recovered from outside of both. -/
def recovering : List Activity :=
  [.guarded outerBlock [.step .showActive]]

/-- A desk with two namers beside the default one. -/
def twoNamers : Desk Cell Shelf where
  namers := [Namer.standard, Namer.standard, Namer.standard]
  own := { namers := [("outer", 1), ("inner", 2)] }

/-- In the thread the default namer is active, where the failure is raised the one of the inner
block, and where it is recovered from none that has been activated. -/
theorem active_namer_restored_recovering :
    (∃ moment, Reaches 0 recovering twoNamers [.thread, .block 1] (.step .showActive) moment ∧
      moment.currentNamer = 0) ∧
    (∃ moment, Reaches 0 recovering twoNamers [.block 2, .block 1] (.raise .undefined) moment ∧
      moment.currentNamer = 2) ∧
    ∃ moment, Reaches 0 recovering twoNamers [] (.step .showActive) moment ∧
      moment.active = none := by
  obtain ⟨-, law, -⟩ := active_namer_restored 0 recovering twoNamers
  have shown : Reaches 0 (.thread [.step .showActive] :: failingBlock)
      { twoNamers with active := some 1 } ([] ++ [.thread]) (.step .showActive) twoNamers :=
    .inThread (.now _ _ _)
  have inThread : Reaches 0 outerBlock twoNamers ([.thread] ++ [.block 1]) (.step .showActive)
      twoNamers :=
    .inBlock rfl rfl shown
  have raised : Reaches 0 failingBlock { twoNamers with active := some 1 } ([] ++ [.block 2])
      (.raise .undefined) { twoNamers with active := some 2 } :=
    .inBlock rfl rfl (.now _ _ _)
  have inBlock : Reaches 0 outerBlock twoNamers ([.block 2] ++ [.block 1]) (.raise .undefined)
      { twoNamers with active := some 2 } :=
    .inBlock rfl rfl (.later rfl raised)
  have recovered : Reaches 0 recovering twoNamers [] (.step .showActive) twoNamers :=
    .otherwise rfl (.now _ _ _)
  exact ⟨⟨_, inThread.inside, (law _ _ _ inThread.inside).2.1⟩,
    ⟨_, inBlock.inside, (law _ _ _ inBlock.inside).2.1⟩, ⟨_, recovered, (law _ _ _ recovered).1⟩⟩

end Activity

end SchemaSignature.Program
