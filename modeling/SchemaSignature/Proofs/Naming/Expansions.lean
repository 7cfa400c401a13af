import SchemaSignature.Proofs.Naming.Blocks
import SchemaSignature.Proofs.Naming.History
import SchemaSignature.Proofs.Naming.Stability

/-!
No leaf is expanded twice. The log has one minted name and one expansion for each leaf that has been
given a name. A workshop can also note each body that it is asked for, beside whatever the bodies
themselves read and change; everything else comes out as it does without notes, and no body is noted
twice: a leaf gets its name once, and its body is looked at only when it does.
-/

namespace SchemaSignature

/-! ## Names of expansions in the log -/

/-- The name of the lazy leaf that is being expanded, if that is what happens. -/
def Event.expanded? : Event → Option String
  | .expanding name => some name
  | _ => none

namespace Desk

variable {key own : Type}

/-- The names under which the log of a desk says that lazy leaves have been expanded. -/
def expandedNames (desk : Desk key own) : List String :=
  desk.events.filterMap Event.expanded?

/-- Each key that has got a name has had its name minted and has been expanded, once. -/
def Accounts (desk after : Desk key own) : Prop :=
  ∃ entered : List (key × String), after.names = desk.names ++ entered ∧
    after.mintedNames = desk.mintedNames ++ entered.map Prod.snd ∧
    after.expandedNames = desk.expandedNames ++ entered.map Prod.snd

theorem accounts_of_same
    {desk after : Desk key own} (names : after.names = desk.names)
    (minted : after.mintedNames = desk.mintedNames)
    (expanded : after.expandedNames = desk.expandedNames) :
    desk.Accounts after :=
  ⟨[], by rw [names, List.append_nil], by rw [minted, List.map_nil, List.append_nil],
    by rw [expanded, List.map_nil, List.append_nil]⟩

theorem stepwise_accounts : Stepwise (Accounts : Desk key own → Desk key own → Prop) where
  refl _ := accounts_of_same rfl rfl rfl
  trans := by
    rintro desk middle after ⟨earlier, names, minted, expanded⟩
      ⟨later, namesLater, mintedLater, expandedLater⟩
    refine ⟨earlier ++ later, ?_, ?_, ?_⟩
    · rw [namesLater, names, List.append_assoc]
    · rw [mintedLater, minted, List.append_assoc, List.map_append]
    · rw [expandedLater, expanded, List.append_assoc, List.map_append]

theorem cumulative_accounts : Cumulative (Accounts : Desk key own → Desk key own → Prop) :=
  stepwise_accounts.cumulative fun _ _ => accounts_of_same rfl rfl rfl

theorem accounts_declare (index : Nat) (name : String) (expansion : Signature) :
    Work.Keeps Accounts (Work.declare index name expansion : Work key own Unit) := by
  intro desk
  cases present : desk.namers[index]? with
  | none =>
      rw [Work.runOn_declare_absent present]
      exact cumulative_accounts.refl desk
  | some namer =>
      rw [Work.runOn_declare_of_present present]
      exact accounts_of_same rfl rfl rfl

theorem expandedNames_of_events
    {desk after : Desk key own} {names : List String}
    (events : after.events = desk.events ++ names.map .minted) :
    after.expandedNames = desk.expandedNames := by
  have none : (names.map Event.minted).filterMap Event.expanded? = [] := by
    simp [List.filterMap_eq_nil_iff, Event.expanded?]
  rw [expandedNames, events, List.filterMap_append, none, List.append_nil]
  rfl

/-- The claim that gives a leaf its name is the one after which the leaf is expanded. -/
theorem accounts_enter [BEq key] (leaf : key) (index : Nat) :
    Work.Keeps Accounts (Work.enter leaf index : Work key own (String × Bool)) := by
  intro desk
  rw [Work.enter]
  cases named : desk.nameOf? leaf with
  | some name =>
      rw [Work.runOn_bind_of_ok (Work.runOn_claim_of_named named)]
      exact cumulative_accounts.refl desk
  | none =>
      rcases ran : (Work.mint index).runOn desk with ⟨outcome, middle⟩
      cases outcome with
      | error failure =>
          rw [Work.runOn_bind_of_error (Work.runOn_claim_of_not_minted named ran)]
          rcases exists_of_runOn_mint ran with ⟨_, rfl⟩ | ⟨_, _, _, _, names, events⟩
          · exact cumulative_accounts.refl middle
          · have minted := mintedNames_of_events events
            exact accounts_of_same names (minted.trans (List.append_nil _))
              (expandedNames_of_events events)
      | ok name =>
          rw [Work.runOn_bind_of_ok (Work.runOn_claim_of_minted named ran)]
          rcases exists_of_runOn_mint ran with ⟨impossible, _⟩ | ⟨_, _, _, _, names, events⟩
          · cases impossible
          · refine ⟨[(leaf, name)], congrArg (· ++ [(leaf, name)]) names, ?_, ?_⟩
            · have minted := mintedNames_of_events events
              exact List.filterMap_append.trans ((List.append_nil _).trans minted)
            · have unexpanded := expandedNames_of_events events
              exact List.filterMap_append.trans (congrArg (· ++ [name]) unexpanded)

end Desk

/-! ## Notes of bodies -/

variable {key own first second : Type}

namespace Desk

/-- A desk with notes beside what belongs to the bodies of lazy nodes. -/
def noted (desk : Desk key own) (notes : List key) : Desk key (own × List key) :=
  { desk with own := (desk.own, notes) }

def withoutNotes (desk : Desk key (own × List key)) : Desk key own :=
  { desk with own := desk.own.1 }

end Desk

/-- Work that does not touch the notes. -/
def Work.unnoted (work : Work key own first) : Work key (own × List key) first :=
  ExceptT.mk fun desk =>
    let (outcome, after) := work.runOn desk.withoutNotes
    (outcome, after.noted desk.own.2)

/-- Notes a key, after all others. -/
def Work.note (leaf : key) : Work key (own × List key) Unit :=
  modify fun desk => { desk with own := (desk.own.1, desk.own.2 ++ [leaf]) }

/-- The workshop that notes each body that it is asked for. -/
def Workshop.noting (workshop : Workshop key own) : Workshop key (own × List key) where
  bound := workshop.bound
  body leaf := do
    Work.note leaf
    (workshop.body leaf).unnoted
  watch name := (workshop.watch name).unnoted

namespace Desk

/-- The desk of work with notes, and the desk of the same work without. -/
def IsNoted (desk : Desk key (own × List key)) (plain : Desk key own) : Prop :=
  desk.withoutNotes = plain

/-- Keys get their names, and some of these keys are noted, in the same order. -/
def Notes (desk after : Desk key (own × List key)) : Prop :=
  ∃ (entered : List (key × String)) (noted : List key), after.names = desk.names ++ entered ∧
    after.own.2 = desk.own.2 ++ noted ∧ noted.Sublist (entered.map Prod.fst)

theorem notes_of_names
    {desk after : Desk key (own × List key)} {entered : List (key × String)}
    (names : after.names = desk.names ++ entered) (same : after.own.2 = desk.own.2) :
    desk.Notes after :=
  ⟨entered, [], names, same.trans (List.append_nil _).symm, List.nil_sublist _⟩

theorem notes_of_same
    {desk after : Desk key (own × List key)} (names : after.names = desk.names)
    (same : after.own.2 = desk.own.2) : desk.Notes after :=
  notes_of_names (names.trans (List.append_nil _).symm) same

theorem stepwise_notes :
    Stepwise (Notes : Desk key (own × List key) → Desk key (own × List key) → Prop) where
  refl _ := notes_of_same rfl rfl
  trans := by
    rintro desk middle after ⟨entered, noted, names, own, among⟩
      ⟨enteredLater, notedLater, namesLater, ownLater, amongLater⟩
    refine ⟨entered ++ enteredLater, noted ++ notedLater, ?_, ?_, ?_⟩
    · rw [namesLater, names, List.append_assoc]
    · rw [ownLater, own, List.append_assoc]
    · rw [List.map_append]
      exact among.append amongLater

theorem cumulative_notes :
    Cumulative (Notes : Desk key (own × List key) → Desk key (own × List key) → Prop) :=
  stepwise_notes.cumulative fun _ _ => notes_of_same rfl rfl

theorem keeps_notes
    {work : Work key (own × List key) first} (accounts : Work.Keeps Accounts work)
    (rests : Work.Keeps OwnRests work) : Work.Keeps Notes work := by
  intro desk
  obtain ⟨entered, names, _⟩ := accounts desk
  exact notes_of_names names (congrArg Prod.snd (rests desk))

/-- What is noted from the beginning is noted once if no key has got its name twice. -/
theorem Notes.nodup
    {desk after : Desk key (own × List key)} (notes : desk.Notes after) (begins : desk.own.2 = [])
    (once : (after.names.map Prod.fst).Nodup) : after.own.2.Nodup := by
  obtain ⟨entered, noted, names, own, among⟩ := notes
  rw [names, List.map_append] at once
  rw [own, begins, List.nil_append]
  exact among.nodup (List.nodup_append.mp once).2.1

end Desk

/-! ## Work with notes -/

/-- Work does the same as other work, and takes notes beside. -/
structure Work.Annotates (noting : Work key (own × List key) first) (work : Work key own first) :
    Prop where
  same : Mirrors Desk.IsNoted Eq noting work
  notes : Keeps Desk.Notes noting

namespace Work.Annotates

variable {noting : Work key (own × List key) first} {work : Work key own first}
  {notingNext : first → Work key (own × List key) second} {next : first → Work key own second}

theorem pure (value : first) :
    Annotates (pure value : Work key (own × List key) first) (pure value) :=
  ⟨.pure rfl, Desk.stepwise_notes.pure value⟩

theorem throw (failure : Failure) :
    Annotates (throw failure : Work key (own × List key) first) (throw failure) :=
  ⟨.throw failure, Desk.stepwise_notes.throw failure⟩

theorem bind (annotates : Annotates noting work)
    (annotatesLater : ∀ value, Annotates (notingNext value) (next value)) :
    Annotates (noting >>= notingNext) (work >>= next) where
  same := by
    refine annotates.same.bind ?_
    rintro value _ rfl
    exact (annotatesLater value).same
  notes := Desk.stepwise_notes.bind annotates.notes fun value => (annotatesLater value).notes

theorem tryCatch {recoverNoting : Failure → Work key (own × List key) first}
    {recover : Failure → Work key own first} (annotates : Annotates noting work)
    (annotatesAfter : ∀ failure, Annotates (recoverNoting failure) (recover failure)) :
    Annotates (tryCatch noting recoverNoting) (tryCatch work recover) where
  same := annotates.same.tryCatch fun failure => (annotatesAfter failure).same
  notes := Desk.stepwise_notes.tryCatch annotates.notes fun failure =>
    (annotatesAfter failure).notes

theorem withActive (annotates : Annotates noting work) (active : Option Nat) :
    Annotates (withActive active noting) (withActive active work) where
  same := by
    rintro desk _ rfl
    rw [runOn_withActive, runOn_withActive]
    obtain ⟨outcomes, after⟩ := annotates.same { desk with active := active } _ rfl
    refine ⟨outcomes, ?_⟩
    exact congrArg (fun plain : Desk key own => { plain with active := desk.active }) after
  notes := Desk.cumulative_notes.withActive annotates.notes active

variable [BEq key] [LawfulBEq key]

/-- Work that does not take notes. -/
theorem unnoted (develops : Keeps Desk.Develops work) : Annotates work.unnoted work where
  same := by
    rintro desk _ rfl
    exact ⟨.refl (fun _ => rfl) _, rfl⟩
  notes desk := by
    obtain ⟨history, evolves⟩ := develops desk.withoutNotes
    have names : (work.unnoted.runOn desk).2.names = desk.names ++ _ := evolves.records.names
    exact Desk.notes_of_names names rfl

end Work.Annotates

/-! ## Rendering with notes -/

/-- The desks of work with and without notes, while a namer is active. -/
def Desk.IsNotedUnder (active : Option Nat) (desk : Desk key (own × List key))
    (plain : Desk key own) : Prop :=
  desk.IsNoted plain ∧ plain.active = active

theorem Work.mirrors_unnoted
    {work : Work key own first} {active : Option Nat} (steady : Keeps Desk.SameActive work) :
    Mirrors (Desk.IsNotedUnder active) Eq work.unnoted work := by
  rintro desk _ ⟨rfl, isActive⟩
  exact ⟨.refl (fun _ => rfl) _, rfl, (steady _).trans isActive⟩

variable [BEq key]

theorem Desk.sharesNames_isNotedUnder (active : Option Nat) (namer : Nat) :
    SharesNames (IsNotedUnder active : Desk key (own × List key) → Desk key own → Prop) id
      (fun _ => True) namer where
  namers := by
    rintro desk _ ⟨rfl, _⟩
    rfl
  nameOf? := by
    rintro leaf _ desk _ ⟨rfl, _⟩
    rfl
  put := by
    rintro changed desk _ ⟨rfl, isActive⟩
    exact ⟨rfl, isActive⟩
  log := by
    rintro event desk _ ⟨rfl, isActive⟩
    exact ⟨rfl, isActive⟩
  give := by
    rintro leaf _ name desk _ ⟨rfl, isActive⟩
    exact ⟨rfl, isActive⟩

namespace Workshop

variable {workshop : Workshop key own}

/-- The workshop gives notes of its bodies. -/
theorem mirrors_noting
    (bodies : ∀ leaf, Work.Keeps Desk.SameActive (workshop.body leaf))
    (watches : ∀ name, Work.Keeps Desk.SameActive (workshop.watch name)) (active : Option Nat) :
    Mirrors (Desk.IsNotedUnder active) id (fun _ => True)
      (fun leaf => (workshop.bound leaf).getD (active.getD 0)) workshop.noting workshop where
  sources _ := by
    rintro desk _ ⟨rfl, isActive⟩
    have isActiveNoted : desk.active = active := isActive
    rw [Desk.currentNamer, Desk.currentNamer, isActive, isActiveNoted]
    exact ⟨rfl, rfl⟩
  enter known := (Desk.sharesNames_isNotedUnder active _).enter known
  body {leaf} _ := by
    rintro desk _ ⟨rfl, isActive⟩
    refine ⟨.refl (fun node => ⟨(Node.map_id node).symm, fun _ _ => trivial⟩) _, rfl, ?_⟩
    exact (bodies leaf desk.withoutNotes).trans isActive
  watch name := Work.mirrors_unnoted (watches name)
  declare _ name expansion := (Desk.sharesNames_isNotedUnder active _).declare name expansion

variable [LawfulBEq key]

section Notes

variable (bodies : ∀ leaf, Work.Keeps Desk.Develops (workshop.body leaf))
  (watches : ∀ name, Work.Keeps Desk.Develops (workshop.watch name))

include bodies watches

/-- A leaf whose body is noted has just got its name. -/
theorem notes_expandWith
    {inner : key → Work key (own × List key) Signature}
    (inside : ∀ leaf, Work.Keeps Desk.Notes (inner leaf)) (leaf : key) :
    Work.Keeps Desk.Notes (workshop.noting.expandWith inner leaf) := by
  intro desk
  cases named : desk.nameOf? leaf with
  | some name =>
      rw [runOn_expandWith_of_named _ named]
      exact Desk.stepwise_notes.refl desk
  | none =>
      rw [runOn_expandWith_eq, expandUnder]
      generalize (workshop.noting.bound leaf).getD desk.currentNamer = namer
      have entering := Desk.keeps_notes (Desk.accounts_enter leaf namer)
        (Desk.ownRests_enter leaf namer) desk
      have untouched := Desk.ownRests_enter leaf namer desk
      rcases ran : (Work.enter leaf namer).runOn desk with ⟨outcome, middle⟩
      rw [ran] at entering untouched
      cases outcome with
      | error failure =>
          rw [Work.runOn_bind_of_error ran]
          exact entering
      | ok claimed =>
          obtain ⟨name, isFirst⟩ := claimed
          obtain ⟨rfl, evolves⟩ := Desk.evolves_of_runOn_enter named ran
          have noted : desk.Notes ((Work.note leaf).runOn middle).2 :=
            ⟨[(leaf, name)], [leaf], evolves.records.names,
              congrArg (fun own : own × List key => own.2 ++ [leaf]) untouched, .refl _⟩
          have rest : Work.Keeps Desk.Notes (do
              let node ← (workshop.body leaf).unnoted
              let expansion ← node.traverse inner workshop.noting.watch
              Work.declare namer name expansion
              pure expansion) := by
            refine Desk.stepwise_notes.bind (Work.Annotates.unnoted (bodies leaf)).notes
              fun node => ?_
            refine Desk.stepwise_notes.bind (Desk.stepwise_notes.traverse inside
              (fun name => (Work.Annotates.unnoted (watches name)).notes) node) fun expansion => ?_
            refine Desk.stepwise_notes.bind (Desk.keeps_notes
              (Desk.accounts_declare namer name expansion)
              (Desk.ownRests_declare namer name expansion)) fun _ => ?_
            exact Desk.stepwise_notes.pure expansion
          rw [Work.runOn_bind_of_ok ran]
          simp only [if_true, renderBody, noting, bind_assoc]
          exact Desk.stepwise_notes.trans noted (rest _)

theorem notes_expand (depth : Nat) (leaf : key) :
    Work.Keeps Desk.Notes (workshop.noting.expand depth leaf) := by
  induction depth generalizing leaf with
  | zero =>
      exact notes_expandWith bodies watches (fun _ => Desk.stepwise_notes.throw .outOfFuel) leaf
  | succ depth inductionHypothesis =>
      exact notes_expandWith bodies watches inductionHypothesis leaf

end Notes

/-- A rendering with notes comes out as it does without, and it notes a body when its leaf gets a
name. -/
theorem annotates_render
    (bodies : ∀ leaf, Work.Keeps Desk.Rests (workshop.body leaf))
    (watches : ∀ name, Work.Keeps Desk.Rests (workshop.watch name)) (depth : Nat)
    (node : Node key) :
    Work.Annotates (workshop.noting.render depth node) (workshop.render depth node) where
  same := by
    rintro desk _ rfl
    have isCopy : IsCopy id (fun _ => True) node node :=
      ⟨(Node.map_id node).symm, fun _ _ => trivial⟩
    have mirrors := (mirrors_noting (fun leaf desk => (bodies leaf desk).active)
      (fun name desk => (watches name desk).active) desk.active).render depth isCopy
    obtain ⟨outcomes, after, _⟩ := mirrors desk desk.withoutNotes ⟨rfl, rfl⟩
    exact ⟨outcomes, after⟩
  notes := Desk.stepwise_notes.traverse
    (notes_expand (fun leaf => (bodies leaf).develops) (fun name => (watches name).develops) depth)
    (fun name => (Work.Annotates.unnoted (watches name).develops).notes) node

end Workshop

end SchemaSignature
