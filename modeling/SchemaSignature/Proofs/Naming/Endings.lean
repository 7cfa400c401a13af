import SchemaSignature.Proofs.Naming.Cumulation
import SchemaSignature.Proofs.Outcome

/-!
Work that comes to an end. Two bounds say how deeply calls and first renderings may be nested; work
ends if it comes out in one way for all bounds that are large enough, and never for want of a larger
one. Endings are composed step by step. A rendering ends if each lazy leaf that gets its name takes
something away of which there is only so much, and its body does not give all of it back.
-/

namespace SchemaSignature

open Outcome (FailsOnly)

variable {key own first second : Type}

namespace Work

/-! ## Work without depth -/

/-- Work that does not fail for the lack of depth. -/
def Shallow (work : Work key own first) : Prop :=
  ∀ desk, FailsOnly (· ≠ .outOfFuel) (work.runOn desk).1

namespace Shallow

variable {work : Work key own first} {next : first → Work key own second}

theorem pure (value : first) : Shallow (pure value : Work key own first) :=
  fun _ => .ok value

theorem throw {failure : Failure} (isOther : failure ≠ .outOfFuel) :
    Shallow (throw failure : Work key own first) :=
  fun _ => .error isOther

theorem ofExcept {outcome : Except Failure first} (fails : FailsOnly (· ≠ .outOfFuel) outcome) :
    Shallow (ofExcept outcome : Work key own first) := by
  intro desk
  rw [runOn_ofExcept]
  exact fails

theorem bind (shallow : Shallow work) (shallowLater : ∀ value, Shallow (next value)) :
    Shallow (work >>= next) := by
  intro desk
  have fails := shallow desk
  rw [runOn_bind]
  rcases ran : work.runOn desk with ⟨outcome, after⟩
  rw [ran] at fails
  cases outcome with
  | ok value => exact shallowLater value after
  | error failure => exact .error (fails failure rfl)

theorem map (shallow : Shallow work) (change : first → second) : Shallow (change <$> work) := by
  rw [← bind_pure_comp]
  exact shallow.bind fun value => pure (change value)

theorem get : Shallow (get : Work key own (Desk key own)) :=
  fun desk => .ok desk

theorem modify (change : Desk key own → Desk key own) :
    Shallow (modify change : Work key own Unit) :=
  fun _ => .ok ()

theorem namerAt (index : Nat) : Shallow (namerAt index : Work key own Namer) := by
  refine get.bind fun desk => ?_
  split
  · exact pure _
  · exact throw nofun

theorem mint (index : Nat) : Shallow (mint index : Work key own String) := by
  refine (namerAt index).bind fun namer => ?_
  refine (modify _).bind fun _ => ?_
  refine (ofExcept ?_).bind fun name => (modify _).bind fun _ => pure name
  refine FailsOnly.map ?_ _
  unfold Namer.countText
  split
  · exact .ok _
  · exact .error nofun

theorem declare (index : Nat) (name : String) (expansion : Signature) :
    Shallow (declare index name expansion : Work key own Unit) :=
  (namerAt index).bind fun _ => modify _

theorem claim [BEq key] (leaf : key) (index : Nat) :
    Shallow (claim leaf index : Work key own (String × Bool)) := by
  refine get.bind fun desk => ?_
  split
  · exact pure _
  · exact (mint index).bind fun _ => (modify _).bind fun _ => pure _

theorem enter [BEq key] (leaf : key) (index : Nat) :
    Shallow (enter leaf index : Work key own (String × Bool)) := by
  refine (claim leaf index).bind fun claimed => ?_
  split
  · exact (modify _).bind fun _ => pure _
  · exact pure _

end Shallow

/-! ## Work that ends -/

/-- Ways for work to come out: it succeeds, or it fails for another reason than the lack of depth. -/
inductive End (after : first → Desk key own → Prop) (broken : Desk key own → Prop) :
    Except Failure first → Desk key own → Prop where
  | done {value : first} {desk : Desk key own} (holds : after value desk) :
      End after broken (.ok value) desk
  | failed {failure : Failure} {desk : Desk key own} (isOther : failure ≠ .outOfFuel)
      (holds : broken desk) : End after broken (.error failure) desk

/-- From every desk of a certain kind, work comes out in one way for all large bounds on how deeply
calls and first renderings are nested. -/
def Ends (before : Desk key own → Prop) (after : first → Desk key own → Prop)
    (broken : Desk key own → Prop) (work : Nat → Nat → Work key own first) : Prop :=
  ∀ desk, before desk → ∃ bound outcome later, End after broken outcome later ∧
    ∀ calls nesting, bound ≤ calls → bound ≤ nesting →
      (work calls nesting).runOn desk = (outcome, later)

/-- Work that ends and leaves the desk of the kind that it was. -/
abbrev EndsWithin (holds broken : Desk key own → Prop) (work : Nat → Nat → Work key own first) :
    Prop :=
  Ends holds (fun _ => holds) broken work

namespace Ends

variable {before earlier : Desk key own → Prop} {broken fallen : Desk key own → Prop}
  {middle after : first → Desk key own → Prop} {later : second → Desk key own → Prop}
  {work : Nat → Nat → Work key own first} {next : first → Nat → Nat → Work key own second}

/-- Work that has nothing to do with the bounds. -/
theorem of_run
    {step : Work key own first} (ended : ∀ desk, before desk →
      End after broken (step.runOn desk).1 (step.runOn desk).2) :
    Ends before after broken fun _ _ => step :=
  fun desk holds => ⟨0, _, _, ended desk holds, fun _ _ _ _ => rfl⟩

/-- Work without depth ends if it leads to a desk of the right kind. -/
theorem of_shallow
    {step : Work key own first} (shallow : Shallow step)
    (holds : ∀ desk value, before desk → (step.runOn desk).1 = .ok value →
      after value (step.runOn desk).2)
    (breaks : ∀ desk failure, before desk → (step.runOn desk).1 = .error failure →
      broken (step.runOn desk).2) :
    Ends before after broken fun _ _ => step := by
  refine of_run fun desk start => ?_
  cases ran : (step.runOn desk).1 with
  | ok value => exact .done (holds desk value start ran)
  | error failure => exact .failed (shallow desk failure ran) (breaks desk failure start ran)

theorem pure {value : first} (holds : ∀ desk, before desk → after value desk) :
    Ends before after broken fun _ _ => pure value :=
  of_run fun desk start => .done (holds desk start)

theorem throw {failure : Failure} (isOther : failure ≠ .outOfFuel)
    (holds : ∀ desk, before desk → broken desk) :
    Ends before after broken fun _ _ => throw failure :=
  of_run fun desk start => .failed isOther (holds desk start)

theorem bind
    (ends : Ends before middle broken work)
    (endsLater : ∀ value, Ends (middle value) later broken (next value)) :
    Ends before later broken fun calls nesting =>
      work calls nesting >>= fun value => next value calls nesting := by
  intro desk start
  obtain ⟨bound, outcome, halfway, ended, runs⟩ := ends desk start
  cases ended with
  | failed isOther holds =>
      exact ⟨bound, _, halfway, .failed isOther holds, fun calls nesting enoughCalls enough =>
        runOn_bind_of_error (runs calls nesting enoughCalls enough)⟩
  | @done value _ holds =>
      obtain ⟨boundLater, outcome, last, ended, runsLater⟩ := endsLater value halfway holds
      refine ⟨max bound boundLater, outcome, last, ended,
        fun calls nesting enoughCalls enough => ?_⟩
      rw [Nat.max_le] at enoughCalls enough
      rw [runOn_bind_of_ok (runs calls nesting enoughCalls.1 enough.1)]
      exact runsLater calls nesting enoughCalls.2 enough.2

theorem mono
    (ends : Ends before middle broken work) (starts : ∀ desk, earlier desk → before desk)
    (holds : ∀ value desk, middle value desk → after value desk)
    (breaks : ∀ desk, broken desk → fallen desk) : Ends earlier after fallen work := by
  intro desk start
  obtain ⟨bound, outcome, last, ended, runs⟩ := ends desk (starts desk start)
  refine ⟨bound, outcome, last, ?_, runs⟩
  cases ended with
  | done held => exact .done (holds _ _ held)
  | failed isOther held => exact .failed isOther (breaks _ held)

/-- What is done after a failure. -/
theorem tryCatch
    {recover : Failure → Work key own first} (ends : Ends before after fallen work)
    (recovers : ∀ failure, failure ≠ .outOfFuel →
      Ends fallen after broken fun _ _ => recover failure) :
    Ends before after broken fun calls nesting => tryCatch (work calls nesting) recover := by
  intro desk start
  obtain ⟨bound, outcome, halfway, ended, runs⟩ := ends desk start
  cases ended with
  | done holds =>
      refine ⟨bound, _, halfway, .done holds, fun calls nesting enoughCalls enough => ?_⟩
      rw [runOn_tryCatch, runs calls nesting enoughCalls enough]
  | @failed failure _ isOther holds =>
      obtain ⟨_, outcome, last, ended, runsLater⟩ := recovers failure isOther halfway holds
      refine ⟨bound, outcome, last, ended, fun calls nesting enoughCalls enough => ?_⟩
      rw [runOn_tryCatch, runs calls nesting enoughCalls enough]
      exact runsLater _ _ (Nat.le_refl _) (Nat.le_refl _)

theorem withActive
    (ends : Ends before after broken work) (active : Option Nat)
    (enters : ∀ desk, earlier desk → before { desk with active := active })
    (leaves : ∀ value desk previous, after value desk →
      after value { desk with active := previous })
    (breaks : ∀ desk previous, broken desk → broken { desk with active := previous }) :
    Ends earlier after broken fun calls nesting => withActive active (work calls nesting) := by
  intro desk start
  obtain ⟨bound, outcome, last, ended, runs⟩ := ends _ (enters desk start)
  refine ⟨bound, outcome, { last with active := desk.active }, ?_, ?_⟩
  · cases ended with
    | done holds => exact .done (leaves _ _ _ holds)
    | failed isOther holds => exact .failed isOther (breaks _ _ holds)
  · intro calls nesting enoughCalls enough
    rw [runOn_withActive, runs calls nesting enoughCalls enough]

/-- One bound in the place of both. -/
theorem diagonal (ends : Ends before after broken work) :
    Ends before after broken fun depth _ => work depth depth := by
  intro desk start
  obtain ⟨bound, outcome, last, ended, runs⟩ := ends desk start
  exact ⟨bound, outcome, last, ended, fun depth _ enough _ => runs depth depth enough enough⟩

/-- That work ends at desks like those it starts from carries over from step to step. -/
theorem compositional {holds : Desk key own → Prop} :
    Compositional fun work : Nat × Nat → Work key own _ =>
      EndsWithin holds broken fun calls nesting => work (calls, nesting) where
  pure _ := pure fun _ start => start
  bind := bind

end Ends

end Work

/-! ## Rendering -/

namespace Workshop

open Work (Ends EndsWithin)

variable [BEq key]

/-- Rendering with the workshops that differ in how deeply calls may be nested uses up a supply.
`holds` says that at most so much of it is left; `opened` says the same when a leaf has got its name
and its body has not yet been looked at. A leaf takes more from the supply than its body gives
back. -/
structure Depletes (shop : Nat → Workshop key own) (holds : Nat → Desk key own → Prop)
    (opened : Nat → key → Desk key own → Prop) (broken : Desk key own → Prop)
    (known : key → Prop) : Prop where
  bound : ∀ calls others, (shop calls).bound = (shop others).bound
  grows : ∀ {least limit desk}, least ≤ limit → holds least desk → holds limit desk
  enter : ∀ {limit leaf} namer, known leaf →
    Ends (fun desk => holds limit desk ∧ desk.nameOf? leaf = none)
      (fun claimed desk => claimed.2 = true ∧ opened limit leaf desk) broken
      fun _ _ => Work.enter leaf namer
  body : ∀ {limit leaf}, known leaf →
    Ends (opened limit leaf)
      (fun node desk => (∃ rest, rest < limit ∧ holds rest desk) ∧ ∀ inner ∈ node.keys, known inner)
      broken fun calls _ => (shop calls).body leaf
  watch : ∀ {limit} name, EndsWithin (holds limit) broken fun calls _ => (shop calls).watch name
  declare : ∀ {limit} namer name expansion,
    EndsWithin (holds limit) broken fun _ _ => Work.declare namer name expansion

namespace Depletes

variable {shop : Nat → Workshop key own} {holds : Nat → Desk key own → Prop}
  {opened : Nat → key → Desk key own → Prop} {broken : Desk key own → Prop} {known : key → Prop}
  (depletes : Depletes shop holds opened broken known)

include depletes

theorem render_of_keys
    {limit : Nat} {node : Node key} (inside : ∀ leaf ∈ node.keys, EndsWithin (holds limit) broken
      fun calls nesting => (shop calls).expand nesting leaf) :
    EndsWithin (holds limit) broken fun calls nesting => (shop calls).render nesting node :=
  Ends.compositional.traverse (fun bounds => (shop bounds.1).expand bounds.2)
    (fun bounds => (shop bounds.1).watch) (fun name => depletes.watch name) node inside

/-- The first rendering of a leaf, if renderings with less of the supply end. -/
theorem expandUnder
    {limit : Nat} {leaf : key} (isKnown : known leaf) (namer : Nat)
    (inside : ∀ rest, rest < limit → ∀ inner, known inner → EndsWithin (holds rest) broken
      fun calls nesting => (shop calls).expand nesting inner) :
    Ends (fun desk => holds limit desk ∧ desk.nameOf? leaf = none) (fun _ => holds limit) broken
      fun calls nesting => (shop calls).expandUnder ((shop calls).expand nesting) leaf namer := by
  have rendered : Ends (opened limit leaf) (fun _ => holds limit) broken
      fun calls nesting => (shop calls).renderBody ((shop calls).expand nesting) leaf := by
    refine (depletes.body isKnown).bind fun node => ?_
    rintro desk ⟨⟨rest, fewer, holding⟩, keysKnown⟩
    have traversed : EndsWithin (holds rest) broken fun calls nesting =>
        (shop calls).render nesting node :=
      depletes.render_of_keys fun inner isKey => inside rest fewer inner (keysKnown inner isKey)
    exact (traversed.mono (fun _ start => start)
      (fun _ _ held => depletes.grows (Nat.le_of_lt fewer) held) fun _ fallen => fallen) desk holding
  refine (depletes.enter namer isKnown).bind fun claimed => ?_
  obtain ⟨name, isFirst⟩ := claimed
  cases isFirst with
  | false =>
      rintro desk ⟨impossible, _⟩
      cases impossible
  | true =>
      simp only [if_true]
      rintro desk ⟨_, isOpened⟩
      have whole : Ends (opened limit leaf) (fun _ => holds limit) broken
          (fun calls nesting => do
            let expansion ← (shop calls).renderBody ((shop calls).expand nesting) leaf
            Work.declare namer name expansion
            pure expansion) := by
        refine rendered.bind fun expansion => ?_
        exact (depletes.declare namer name expansion).bind fun _ => .pure fun _ start => start
      exact whole desk isOpened

/-- The rendering of a leaf ends. The induction is on what is left of the supply: a leaf with a name
is rendered as that name, and one without takes something away. -/
theorem expand (limit : Nat) {leaf : key} (isKnown : known leaf) :
    EndsWithin (holds limit) broken fun calls nesting => (shop calls).expand nesting leaf := by
  induction limit using Nat.strongRecOn generalizing leaf with
  | ind limit inductionHypothesis =>
      intro desk holding
      cases named : desk.nameOf? leaf with
      | some name =>
          exact ⟨0, _, desk, .done holding, fun calls nesting _ _ =>
            (shop calls).runOn_expand_of_named named nesting⟩
      | none =>
          obtain ⟨bound, outcome, later, ended, runs⟩ :=
            depletes.expandUnder isKnown (((shop 0).bound leaf).getD desk.currentNamer)
              (fun rest fewer _ isInner => inductionHypothesis rest fewer isInner) desk
              ⟨holding, named⟩
          refine ⟨bound + 1, outcome, later, ended, fun calls nesting enoughCalls enough => ?_⟩
          obtain ⟨inner, rfl⟩ :=
            Nat.exists_eq_add_of_le' (Nat.le_trans (Nat.le_add_left 1 bound) enough)
          change ((shop calls).expandWith ((shop calls).expand inner) leaf).runOn desk = _
          rw [runOn_expandWith_eq, depletes.bound calls 0]
          exact runs calls inner (Nat.le_of_succ_le enoughCalls) (Nat.le_of_succ_le_succ enough)

theorem render (limit : Nat) {node : Node key} (keysKnown : ∀ leaf ∈ node.keys, known leaf) :
    EndsWithin (holds limit) broken fun calls nesting => (shop calls).render nesting node :=
  depletes.render_of_keys fun leaf isKey => depletes.expand limit (keysKnown leaf isKey)

end Depletes

end Workshop

end SchemaSignature
