import SchemaSignature.Proofs.Naming.Cumulation
import SchemaSignature.Proofs.Outcome

/-!
Two runs side by side. Work on one desk mirrors work on another if from related desks both fail for
the same reason or both succeed with results that are alike, and the desks are related again
afterwards. Work that consists of steps that mirror one another does so as a whole, and renderings
do if their lazy leaves take their names from the same namers and have bodies that mirror each other.
-/

namespace SchemaSignature

open Outcome (Coincides)

variable {key own image held first second third fourth : Type}

/-- From related desks two pieces of work fail for the same reason, or succeed with results that are
alike, and lead to related desks. -/
def Work.Mirrors (related : Desk key own → Desk image held → Prop)
    (alike : first → second → Prop) (work : Work key own first) (mirror : Work image held second) :
    Prop :=
  ∀ desk reflected, related desk reflected →
    Coincides alike (work.runOn desk).1 (mirror.runOn reflected).1 ∧
      related (work.runOn desk).2 (mirror.runOn reflected).2

namespace Work.Mirrors

variable {related : Desk key own → Desk image held → Prop} {alike : first → second → Prop}
  {alikeLater : third → fourth → Prop}

theorem pure {value : first} {reflection : second} (same : alike value reflection) :
    Mirrors related alike (pure value) (pure reflection) :=
  fun _ _ start => ⟨.done same, start⟩

theorem throw (failure : Failure) : Mirrors related alike (throw failure) (throw failure) :=
  fun _ _ start => ⟨.failed failure, start⟩

theorem ofExcept {outcome : Except Failure first} {reflection : Except Failure second}
    (same : Coincides alike outcome reflection) :
    Mirrors related alike (ofExcept outcome) (ofExcept reflection) := by
  intro desk reflected start
  rw [runOn_ofExcept, runOn_ofExcept]
  exact ⟨same, start⟩

theorem bind
    {work : Work key own first} {mirror : Work image held second}
    {next : first → Work key own third} {nextMirror : second → Work image held fourth}
    (mirrors : Mirrors related alike work mirror)
    (mirrorsLater : ∀ {value reflection}, alike value reflection →
      Mirrors related alikeLater (next value) (nextMirror reflection)) :
    Mirrors related alikeLater (work >>= next) (mirror >>= nextMirror) := by
  intro desk reflected start
  obtain ⟨outcomes, middle⟩ := mirrors desk reflected start
  rcases ran : work.runOn desk with ⟨outcome, after⟩
  rcases reflectedRan : mirror.runOn reflected with ⟨reflectedOutcome, reflectedAfter⟩
  rw [ran, reflectedRan] at outcomes middle
  rw [runOn_bind, runOn_bind, ran, reflectedRan]
  cases outcomes with
  | failed cause => exact ⟨.failed cause, middle⟩
  | done same => exact mirrorsLater same after reflectedAfter middle

/-- What is done after the same failure. -/
theorem tryCatch
    {work : Work key own first} {mirror : Work image held second}
    {recover : Failure → Work key own first} {recoverMirror : Failure → Work image held second}
    (mirrors : Mirrors related alike work mirror)
    (mirrorsAfter : ∀ failure, Mirrors related alike (recover failure) (recoverMirror failure)) :
    Mirrors related alike (tryCatch work recover) (tryCatch mirror recoverMirror) := by
  intro desk reflected start
  obtain ⟨outcomes, middle⟩ := mirrors desk reflected start
  rcases ran : work.runOn desk with ⟨outcome, after⟩
  rcases reflectedRan : mirror.runOn reflected with ⟨reflectedOutcome, reflectedAfter⟩
  rw [ran, reflectedRan] at outcomes middle
  rw [runOn_tryCatch, runOn_tryCatch, ran, reflectedRan]
  cases outcomes with
  | failed cause => exact mirrorsAfter cause after reflectedAfter middle
  | done same => exact ⟨.done same, middle⟩

/-- What comes after looking at the desk may rest on how the desks are related. -/
theorem get_bind
    {next : Desk key own → Work key own third}
    {nextMirror : Desk image held → Work image held fourth}
    (mirrorsLater : ∀ {desk reflected}, related desk reflected →
      Mirrors related alikeLater (next desk) (nextMirror reflected)) :
    Mirrors related alikeLater (get >>= next) (get >>= nextMirror) := by
  intro desk reflected start
  rw [runOn_get_bind, runOn_get_bind]
  exact mirrorsLater start desk reflected start

/-! ## Nodes -/

section Traverse

variable {other : Type} {rename : key → image} {expand : key → Work key own (Node other)}
  {expandMirror : image → Work image held (Node other)} {watch : String → Work key own Unit}
  {watchMirror : String → Work image held Unit}

mutual

/-- Rebuilding a node and its renamed copy. -/
theorem traverse (watches : ∀ name, Mirrors related Eq (watch name) (watchMirror name)) :
    (node : Node key) →
      (∀ leaf ∈ node.keys, Mirrors related Eq (expand leaf) (expandMirror (rename leaf))) →
      Mirrors related Eq (node.traverse expand watch)
        ((node.map rename).traverse expandMirror watchMirror)
  | .primitive _, _ | .literals _, _ | .made _, _ => by
      simp only [Node.map, Node.traverse]
      exact pure rfl
  | .watched name, _ => by
      simp only [Node.map, Node.traverse]
      exact (watches name).bind fun _ => pure rfl
  | .lazy key, expands => by
      simp only [Node.map, Node.traverse]
      exact expands key List.mem_cons_self
  | .fields presence entries, expands => by
      simp only [Node.map, Node.traverse]
      exact (traverseEntries watches entries expands).bind fun same =>
        pure (congrArg (Node.fields presence) same)
  | .container kind element, expands => by
      simp only [Node.map, Node.traverse]
      exact (traverse watches element expands).bind fun same =>
        pure (congrArg (Node.container kind) same)
  | .group kind members, expands => by
      simp only [Node.map, Node.traverse]
      exact (traverseMembers watches members expands).bind fun same =>
        pure (congrArg (Node.group kind) same)

theorem traverseEntries (watches : ∀ name, Mirrors related Eq (watch name) (watchMirror name)) :
    (entries : List (String × Node key)) →
      (∀ leaf ∈ Node.keysOfEntries entries,
        Mirrors related Eq (expand leaf) (expandMirror (rename leaf))) →
      Mirrors related Eq (Node.traverseEntries expand watch entries)
        (Node.traverseEntries expandMirror watchMirror (Node.mapEntries rename entries))
  | [], _ => by
      simp only [Node.mapEntries, Node.traverseEntries]
      exact pure rfl
  | (name, node) :: rest, expands => by
      rw [Node.keysOfEntries] at expands
      simp only [Node.mapEntries, Node.traverseEntries]
      refine (traverse watches node fun leaf isKey =>
        expands leaf (List.mem_append_left _ isKey)).bind ?_
      intro _ _ same
      refine (traverseEntries watches rest fun leaf isKey =>
        expands leaf (List.mem_append_right _ isKey)).bind ?_
      intro _ _ sameRest
      exact pure (by rw [same, sameRest])

theorem traverseMembers (watches : ∀ name, Mirrors related Eq (watch name) (watchMirror name)) :
    (members : List (Node key)) →
      (∀ leaf ∈ Node.keysOfMembers members,
        Mirrors related Eq (expand leaf) (expandMirror (rename leaf))) →
      Mirrors related Eq (Node.traverseMembers expand watch members)
        (Node.traverseMembers expandMirror watchMirror (Node.mapMembers rename members))
  | [], _ => by
      simp only [Node.mapMembers, Node.traverseMembers]
      exact pure rfl
  | node :: rest, expands => by
      rw [Node.keysOfMembers] at expands
      simp only [Node.mapMembers, Node.traverseMembers]
      refine (traverse watches node fun leaf isKey =>
        expands leaf (List.mem_append_left _ isKey)).bind ?_
      intro _ _ same
      refine (traverseMembers watches rest fun leaf isKey =>
        expands leaf (List.mem_append_right _ isKey)).bind ?_
      intro _ _ sameRest
      exact pure (by rw [same, sameRest])

end

end Traverse

end Work.Mirrors

/-! ## Names -/

variable [BEq key] [BEq image]

/-- Related desks have the same namers, and the same names for the known keys. They stay related when
a namer goes on, when something is logged and when a known key gets its name. -/
structure Desk.SharesNames (related : Desk key own → Desk image held → Prop) (rename : key → image)
    (known : key → Prop) (namer : Nat) : Prop where
  namers : ∀ {desk reflected}, related desk reflected → reflected.namers = desk.namers
  nameOf? : ∀ {leaf}, known leaf → ∀ {desk reflected}, related desk reflected →
    reflected.nameOf? (rename leaf) = desk.nameOf? leaf
  put : ∀ changed {desk reflected}, related desk reflected →
    related { desk with namers := desk.namers.set namer changed }
      { reflected with namers := reflected.namers.set namer changed }
  log : ∀ event {desk reflected}, related desk reflected →
    related { desk with events := desk.events ++ [event] }
      { reflected with events := reflected.events ++ [event] }
  give : ∀ {leaf}, known leaf → ∀ name {desk reflected}, related desk reflected →
    related { desk with names := desk.names ++ [(leaf, name)] }
      { reflected with names := reflected.names ++ [(rename leaf, name)] }

namespace Desk.SharesNames

variable {related : Desk key own → Desk image held → Prop} {rename : key → image}
  {known : key → Prop} {namer : Nat} (shares : SharesNames related rename known namer)

include shares

theorem putNamer (changed : Namer) :
    Work.Mirrors related Eq (Work.putNamer namer changed) (Work.putNamer namer changed) :=
  fun _ _ start => ⟨.done rfl, shares.put changed start⟩

theorem namerAt (index : Nat) :
    Work.Mirrors related Eq (Work.namerAt index) (Work.namerAt index) := by
  refine .get_bind fun start => ?_
  rw [shares.namers start]
  split
  · exact .pure rfl
  · exact .throw _

theorem logged (event : Event) : Work.Mirrors related Eq (Work.log event) (Work.log event) :=
  fun _ _ start => ⟨.done rfl, shares.log event start⟩

theorem mint : Work.Mirrors related Eq (Work.mint namer) (Work.mint namer) := by
  refine (shares.namerAt _).bind ?_
  rintro found _ rfl
  refine (shares.putNamer _).bind fun _ => ?_
  refine (Work.Mirrors.ofExcept (.refl (fun _ => rfl) _)).bind ?_
  rintro name _ rfl
  exact (shares.logged _).bind fun _ => .pure rfl

theorem declare (name : String) (expansion : Signature) :
    Work.Mirrors related Eq (Work.declare namer name expansion)
      (Work.declare namer name expansion) := by
  refine (shares.namerAt _).bind ?_
  rintro found _ rfl
  exact shares.putNamer _

theorem claim {leaf : key} (isKnown : known leaf) :
    Work.Mirrors related Eq (Work.claim leaf namer) (Work.claim (rename leaf) namer) := by
  refine .get_bind fun start => ?_
  rw [shares.nameOf? isKnown start]
  split
  · exact .pure rfl
  · refine shares.mint.bind ?_
    rintro given _ rfl
    have named : Work.Mirrors related Eq
        (modify fun desk : Desk key own => { desk with names := desk.names ++ [(leaf, given)] })
        (modify fun reflected : Desk image held =>
          { reflected with names := reflected.names ++ [(rename leaf, given)] }) :=
      fun _ _ start => ⟨.done rfl, shares.give isKnown given start⟩
    exact named.bind fun _ => .pure rfl

theorem enter {leaf : key} (isKnown : known leaf) :
    Work.Mirrors related Eq (Work.enter leaf namer) (Work.enter (rename leaf) namer) := by
  refine (shares.claim isKnown).bind ?_
  rintro claimed _ rfl
  split
  · exact (shares.logged _).bind fun _ => .pure rfl
  · exact .pure rfl

end Desk.SharesNames

/-! ## Rendering -/

namespace Workshop

variable {related : Desk key own → Desk image held → Prop}
  {workshop : Workshop key own} {twin : Workshop image held} {rename : key → image}
  {known : key → Prop}

/-- A node and its renamed copy, which have known leaves only. -/
def IsCopy (rename : key → image) (known : key → Prop) (node : Node key) (copy : Node image) :
    Prop :=
  copy = node.map rename ∧ ∀ leaf ∈ node.keys, known leaf

/-- The steps that renderings with two workshops consist of mirror each other, for the known leaves:
a leaf and its copy take their names from the same namer, and their bodies are copies again. -/
structure Mirrors (related : Desk key own → Desk image held → Prop) (rename : key → image)
    (known : key → Prop) (source : key → Nat) (workshop : Workshop key own)
    (twin : Workshop image held) : Prop where
  sources : ∀ {leaf}, known leaf → ∀ {desk reflected}, related desk reflected →
    (workshop.bound leaf).getD desk.currentNamer = source leaf ∧
      (twin.bound (rename leaf)).getD reflected.currentNamer = source leaf
  enter : ∀ {leaf}, known leaf → Work.Mirrors related Eq (Work.enter leaf (source leaf))
    (Work.enter (rename leaf) (source leaf))
  body : ∀ {leaf}, known leaf →
    Work.Mirrors related (IsCopy rename known) (workshop.body leaf) (twin.body (rename leaf))
  watch : ∀ name, Work.Mirrors related Eq (workshop.watch name) (twin.watch name)
  declare : ∀ {leaf}, known leaf → ∀ name expansion, Work.Mirrors related Eq
    (Work.declare (source leaf) name expansion) (Work.declare (source leaf) name expansion)

variable {source : key → Nat} (mirrors : Mirrors related rename known source workshop twin)

include mirrors

theorem Mirrors.expandWith
    {inner : key → Work key own Signature} {innerTwin : image → Work image held Signature}
    (inside : ∀ {leaf}, known leaf →
      Work.Mirrors related Eq (inner leaf) (innerTwin (rename leaf)))
    {leaf : key} (isKnown : known leaf) :
    Work.Mirrors related Eq (workshop.expandWith inner leaf)
      (twin.expandWith innerTwin (rename leaf)) := by
  have rendered : Work.Mirrors related Eq (workshop.renderBody inner leaf)
      (twin.renderBody innerTwin (rename leaf)) := by
    refine (mirrors.body isKnown).bind ?_
    rintro node _ ⟨rfl, keysKnown⟩
    exact .traverse mirrors.watch node fun leaf isKey => inside (keysKnown leaf isKey)
  rw [expandWith_eq, expandWith_eq]
  refine .get_bind fun start => ?_
  rw [(mirrors.sources isKnown start).1, (mirrors.sources isKnown start).2]
  refine (mirrors.enter isKnown).bind ?_
  rintro claimed _ rfl
  split
  · refine rendered.bind ?_
    rintro expansion _ rfl
    exact (mirrors.declare isKnown claimed.1 expansion).bind fun _ => .pure rfl
  · exact .pure rfl

theorem Mirrors.expand (depth : Nat) {leaf : key} (isKnown : known leaf) :
    Work.Mirrors related Eq (workshop.expand depth leaf) (twin.expand depth (rename leaf)) := by
  induction depth generalizing leaf with
  | zero => exact mirrors.expandWith (fun _ => .throw .outOfFuel) isKnown
  | succ depth inductionHypothesis => exact mirrors.expandWith inductionHypothesis isKnown

theorem Mirrors.render (depth : Nat) {node : Node key} {copy : Node image}
    (isCopy : IsCopy rename known node copy) :
    Work.Mirrors related Eq (workshop.render depth node) (twin.render depth copy) := by
  obtain ⟨rfl, keysKnown⟩ := isCopy
  exact .traverse mirrors.watch node fun leaf isKey => mirrors.expand depth (keysKnown leaf isKey)

end Workshop

end SchemaSignature
