import SchemaSignature.Proofs.Naming.Running
import SchemaSignature.Proofs.Naming.Visits

/-!
Rendering on a desk visits references. A workshop whose bodies leave the names alone renders a node
by visiting its references, and a bound on the depth that is at least the number of references
without a name is never reached: each nested expansion names one of them.
-/

namespace SchemaSignature

variable {own : Type}

/-- Two desks agree in what naming depends on. -/
structure Desk.SameNaming (desk after : Desk String own) : Prop where
  names : after.names = desk.names
  namers : after.namers = desk.namers
  active : after.active = desk.active

/-- The names of a desk and its namer at an index are those of a ledger. -/
structure Desk.Shows (desk : Desk String own) (index : Nat) (ledger : Ledger) : Prop where
  names : desk.names = ledger.names
  namer : desk.namers[index]? = some ledger.namer

/-- The namer at an index may have changed, but no other one, and the same namer is active. -/
structure Desk.KeepsOthers (desk : Desk String own) (index : Nat) (after : Desk String own) :
    Prop where
  active : after.active = desk.active
  namers : ∀ other, other ≠ index → after.namers[other]? = desk.namers[other]?

/-- The bodies of a workshop are given by a function; looking at them does not change the names. -/
structure Workshop.Gives (workshop : Workshop String own) (bound : Option Nat)
    (body : String → Except Failure (Node String)) : Prop where
  bound : workshop.bound = fun _ => bound
  watch : workshop.watch = fun _ => pure ()
  body : ∀ reference desk, ∃ after,
    (workshop.body reference).runOn desk = (body reference, after) ∧ desk.SameNaming after

namespace Desk

theorem KeepsOthers.refl (desk : Desk String own) (index : Nat) : desk.KeepsOthers index desk :=
  ⟨rfl, fun _ _ => rfl⟩

theorem KeepsOthers.trans
    {desk middle after : Desk String own} {index : Nat}
    (before : desk.KeepsOthers index middle) (later : middle.KeepsOthers index after) :
    desk.KeepsOthers index after :=
  ⟨later.active.trans before.active,
    fun other different => (later.namers other different).trans (before.namers other different)⟩

theorem SameNaming.keepsOthers
    {desk after : Desk String own} (same : desk.SameNaming after) (index : Nat) :
    desk.KeepsOthers index after :=
  ⟨same.active, fun _ _ => by rw [same.namers]⟩

theorem SameNaming.shows
    {desk after : Desk String own} {index : Nat} {ledger : Ledger} (same : desk.SameNaming after)
    (shown : desk.Shows index ledger) : after.Shows index ledger :=
  ⟨same.names.trans shown.names, by rw [same.namers, shown.namer]⟩

end Desk

namespace Work

variable {desk : Desk String own} {index : Nat} {ledger : Ledger}

theorem runOn_claim_unnamed
    (shown : desk.Shows index ledger) {reference name : String}
    (unnamed : ledger.nameOf? reference = none) (minted : ledger.nextName = .ok name) :
    ∃ after, (claim reference index).runOn desk = (.ok (name, true), after) ∧
      after.Shows index (ledger.claim reference name) ∧ desk.KeepsOthers index after := by
  have notGiven : desk.nameOf? reference = none := by
    rw [Desk.nameOf?, shown.names]
    exact unnamed
  refine ⟨{ desk with
      namers := desk.namers.set index ledger.namer.advance
      events := desk.events ++ [.minted name]
      names := desk.names ++ [(reference, name)] }, ?_,
    ⟨congrArg (· ++ [(reference, name)]) shown.names, namer_set_self shown.namer _⟩,
    ⟨rfl, fun other different => List.getElem?_set_ne (Ne.symm different)⟩⟩
  exact runOn_claim_of_minted notGiven (runOn_mint_of_ok shown.namer minted)

/-- A number that is too long to be written is passed over. -/
theorem runOn_claim_nameless
    (shown : desk.Shows index ledger) {reference : String} {failure : Failure}
    (unnamed : ledger.nameOf? reference = none) (tooLong : ledger.nextName = .error failure) :
    ∃ after, (claim reference index).runOn desk = (.error failure, after) ∧
      after.Shows index ledger.skip ∧ desk.KeepsOthers index after := by
  have notGiven : desk.nameOf? reference = none := by
    rw [Desk.nameOf?, shown.names]
    exact unnamed
  refine ⟨{ desk with namers := desk.namers.set index ledger.namer.advance }, ?_,
    ⟨shown.names, namer_set_self shown.namer _⟩,
    ⟨rfl, fun other different => List.getElem?_set_ne (Ne.symm different)⟩⟩
  exact runOn_claim_of_not_minted notGiven (runOn_mint_of_error shown.namer tooLong)

/-- Declaring what a name stands for changes the namer only. -/
theorem runOn_declare
    (shown : desk.Shows index ledger) (name : String) (expansion : Signature) :
    ∃ after, (declare index name expansion).runOn desk = (.ok (), after) ∧
      after.Shows index (ledger.declare name expansion) ∧ desk.KeepsOthers index after := by
  refine ⟨{ desk with namers := desk.namers.set index (ledger.namer.declare name expansion) },
    ?_, ⟨shown.names, namer_set_self shown.namer _⟩, ⟨rfl, ?_⟩⟩
  · exact runOn_declare_of_present shown.namer name expansion
  · intro other different
    exact List.getElem?_set_ne (Ne.symm different)

end Work

/-- Work on several references does to the ledger what a visit of them does. -/
def Work.Visiting (work : String → Work String own Signature)
    (body : String → Except Failure (Node String)) (index : Nat) (desk : Desk String own)
    (ledger : Ledger) (references : List String) : Prop :=
  ∃ outcome after ledgerAfter, (Work.onEach work references).runOn desk = (outcome, after) ∧
    after.Shows index ledgerAfter ∧ desk.KeepsOthers index after ∧
    match outcome with
    | .ok signatures => Visits body ledger references signatures ledgerAfter
    | .error failure => Breaks body ledger references failure ledgerAfter

namespace Workshop

variable {workshop : Workshop String own} {bound : Option Nat}
  {body : String → Except Failure (Node String)} {desk : Desk String own} {index : Nat}
  {ledger : Ledger} {inner : String → Work String own Signature}

/-- What happens to a leaf once it has been claimed. -/
def afterClaim (workshop : Workshop String own) (inner : String → Work String own Signature)
    (leaf : String) (index : Nat) (claimed : String × Bool) : Work String own Signature := do
  if claimed.2 then
    Work.log (.expanding claimed.1)
    let node ← workshop.body leaf
    let expansion ← node.traverse inner workshop.watch
    Work.declare index claimed.1 expansion
    pure expansion
  else pure (.lazy claimed.1)

theorem runOn_expandWith
    (gives : workshop.Gives bound body) (chosen : bound.getD desk.currentNamer = index)
    (inner : String → Work String own Signature) (leaf : String) :
    (workshop.expandWith inner leaf).runOn desk =
      (Work.claim leaf index >>= workshop.afterClaim inner leaf index).runOn desk := by
  rw [expandWith, Work.runOn_get_bind]
  simp only [gives.bound, chosen]
  rfl

theorem runOn_afterClaim_bodiless
    (gives : workshop.Gives bound body) {reference : String} {failure : Failure}
    (faulty : body reference = .error failure) (inner : String → Work String own Signature)
    (index : Nat) (name : String) (desk : Desk String own) :
    ∃ after,
      (workshop.afterClaim inner reference index (name, true)).runOn desk = (.error failure, after) ∧
        desk.SameNaming after := by
  obtain ⟨after, ran, same⟩ := gives.body reference { desk with
    events := desk.events ++ [.expanding name] }
  refine ⟨after, ?_, ⟨same.names, same.namers, same.active⟩⟩
  rw [afterClaim, if_pos rfl, Work.runOn_bind_of_ok (Work.runOn_log _ desk),
    Work.runOn_bind_of_error (ran.trans (by rw [faulty]))]

/-- The first rendering of a leaf works on the leaves of its node and declares the result. -/
theorem runOn_afterClaim
    (gives : workshop.Gives bound body) {reference : String} {node : Node String}
    (stands : body reference = .ok node) (inner : String → Work String own Signature)
    (index : Nat) (name : String) (desk : Desk String own) :
    ∃ after, desk.SameNaming after ∧
      (workshop.afterClaim inner reference index (name, true)).runOn desk =
        (Work.onEach inner node.keys >>= fun parts =>
          Work.declare index name (node.fill parts) >>= fun _ => pure (node.fill parts)).runOn
            after := by
  obtain ⟨after, ran, same⟩ := gives.body reference { desk with
    events := desk.events ++ [.expanding name] }
  refine ⟨after, ⟨same.names, same.namers, same.active⟩, ?_⟩
  rw [afterClaim, if_pos rfl, Work.runOn_bind_of_ok (Work.runOn_log _ desk),
    Work.runOn_bind_of_ok (ran.trans (by rw [stands])), gives.watch, Node.traverse_eq_onEach]
  simp only [bind_assoc, pure_bind]

theorem visiting_nil (work : String → Work String own Signature) (shown : desk.Shows index ledger) :
    Work.Visiting work body index desk ledger [] :=
  ⟨.ok [], desk, ledger, rfl, shown, .refl desk index, .done ledger⟩

/-- If a leaf is rendered, the visit goes on with the references after it. -/
theorem visiting_cons
    {work : String → Work String own Signature} {middle : Desk String own} {ledgerMiddle : Ledger}
    {reference : String} {rest : List String} {signature : Signature}
    (ran : (work reference).runOn desk = (.ok signature, middle))
    (kept : desk.KeepsOthers index middle)
    (visits : ∀ signatures after, Visits body ledgerMiddle rest signatures after →
      Visits body ledger (reference :: rest) (signature :: signatures) after)
    (breaks : ∀ failure after, Breaks body ledgerMiddle rest failure after →
      Breaks body ledger (reference :: rest) failure after)
    (later : Work.Visiting work body index middle ledgerMiddle rest) :
    Work.Visiting work body index desk ledger (reference :: rest) := by
  obtain ⟨outcome, after, ledgerAfter, ranLater, shown, keptLater, result⟩ := later
  cases outcome with
  | ok signatures =>
      refine ⟨.ok (signature :: signatures), after, ledgerAfter, ?_, shown, kept.trans keptLater,
        visits _ _ result⟩
      rw [Work.onEach, Work.runOn_bind_of_ok ran, Work.runOn_bind_of_ok ranLater]
      rfl
  | error failure =>
      refine ⟨.error failure, after, ledgerAfter, ?_, shown, kept.trans keptLater,
        breaks _ _ result⟩
      rw [Work.onEach, Work.runOn_bind_of_ok ran, Work.runOn_bind_of_error ranLater]

theorem visiting_stop
    {work : String → Work String own Signature} {after : Desk String own} {ledgerAfter : Ledger}
    {reference : String} {rest : List String} {failure : Failure}
    (ran : (work reference).runOn desk = (.error failure, after))
    (shown : after.Shows index ledgerAfter) (kept : desk.KeepsOthers index after)
    (broken : Breaks body ledger (reference :: rest) failure ledgerAfter) :
    Work.Visiting work body index desk ledger (reference :: rest) := by
  refine ⟨.error failure, after, ledgerAfter, ?_, shown, kept, broken⟩
  rw [Work.onEach, Work.runOn_bind_of_error ran]

/-- A reference with a node is visited by visiting what is in the node, and the visit goes on. -/
theorem visiting_node
    (gives : workshop.Gives bound body) (chosen : bound.getD desk.currentNamer = index)
    {claimedDesk : Desk String own} {reference name : String} {rest : List String}
    {node : Node String} (unnamed : ledger.nameOf? reference = none)
    (minted : ledger.nextName = .ok name) (stands : body reference = .ok node)
    (claimed : (Work.claim reference index).runOn desk = (.ok (name, true), claimedDesk))
    (keptClaimed : desk.KeepsOthers index claimedDesk)
    (inside : ∀ started, claimedDesk.SameNaming started →
      Work.Visiting inner body index started (ledger.claim reference name) node.keys)
    (later : ∀ after ledgerAfter, after.Shows index ledgerAfter → desk.KeepsOthers index after →
      ledger.names <+: ledgerAfter.names →
        Work.Visiting (workshop.expandWith inner) body index after ledgerAfter rest) :
    Work.Visiting (workshop.expandWith inner) body index desk ledger (reference :: rest) := by
  have unfolded := runOn_expandWith gives chosen inner reference
  rw [Work.runOn_bind_of_ok claimed] at unfolded
  obtain ⟨started, same, ran⟩ := runOn_afterClaim gives stands inner index name claimedDesk
  have keptStarted := keptClaimed.trans (same.keepsOthers index)
  obtain ⟨outcome, expandedDesk, expanded, ranInside, shownInside, keptInside, result⟩ :=
    inside started same
  cases outcome with
  | error failure =>
      rw [Work.runOn_bind_of_error ranInside] at ran
      exact visiting_stop (unfolded.trans ran) shownInside (keptStarted.trans keptInside)
        (.inside unnamed minted stands result)
  | ok parts =>
      obtain ⟨after, declared, shownAfter, keptAfter⟩ :=
        Work.runOn_declare shownInside name (node.fill parts)
      rw [Work.runOn_bind_of_ok ranInside, Work.runOn_bind_of_ok declared] at ran
      have kept := keptStarted.trans (keptInside.trans keptAfter)
      have grown : ledger.names <+: (expanded.declare name (node.fill parts)).names :=
        (List.prefix_append _ _).trans result.names_grown
      exact visiting_cons (unfolded.trans ran) kept
        (fun _ _ later => .first unnamed minted stands result later)
        (fun _ _ later => .afterFirst unnamed minted stands result later)
        (later after _ shownAfter kept grown)

section Scope

variable {scope : List String}
  (closed : ∀ reference ∈ scope, ∀ node, body reference = .ok node →
    ∀ inside ∈ node.keys, inside ∈ scope)

include closed

/-- A reference without a name is visited if the leaves of its node are. They have fewer references
without a name left. -/
theorem visiting_unnamed
    (gives : workshop.Gives bound body) (chosen : bound.getD desk.currentNamer = index)
    {limit : Nat}
    (deeper : ∀ (desk : Desk String own) (ledger : Ledger) (references : List String),
      (∀ reference ∈ references, reference ∈ scope) → desk.Shows index ledger →
      bound.getD desk.currentNamer = index → ledger.unnamed scope < limit →
      Work.Visiting inner body index desk ledger references)
    (shown : desk.Shows index ledger) (within : ledger.unnamed scope ≤ limit)
    {reference : String} {rest : List String} (isKnown : reference ∈ scope)
    (unnamed : ledger.nameOf? reference = none)
    (later : ∀ after ledgerAfter, after.Shows index ledgerAfter → desk.KeepsOthers index after →
      ledger.names <+: ledgerAfter.names →
        Work.Visiting (workshop.expandWith inner) body index after ledgerAfter rest) :
    Work.Visiting (workshop.expandWith inner) body index desk ledger (reference :: rest) := by
  have unfolded := runOn_expandWith gives chosen inner reference
  cases minted : ledger.nextName with
  | error failure =>
      obtain ⟨after, claimed, shownAfter, kept⟩ := Work.runOn_claim_nameless shown unnamed minted
      rw [Work.runOn_bind_of_error claimed] at unfolded
      exact visiting_stop unfolded shownAfter kept (.nameless unnamed minted)
  | ok name =>
      obtain ⟨claimedDesk, claimed, shownClaimed, keptClaimed⟩ :=
        Work.runOn_claim_unnamed shown unnamed minted
      cases stands : body reference with
      | error failure =>
          rw [Work.runOn_bind_of_ok claimed] at unfolded
          obtain ⟨after, ran, same⟩ :=
            runOn_afterClaim_bodiless gives stands inner index name claimedDesk
          exact visiting_stop (unfolded.trans ran) (same.shows shownClaimed)
            (keptClaimed.trans (same.keepsOthers index)) (.bodiless unnamed minted stands)
      | ok node =>
          -- The claim names one more reference, so that the bound is not reached inside.
          have fewer := Ledger.unnamed_claim_lt isKnown unnamed name
          refine visiting_node gives chosen unnamed minted stands claimed keptClaimed ?_ later
          intro started same
          have keptStarted := keptClaimed.trans (same.keepsOthers index)
          exact deeper started (ledger.claim reference name) node.keys
            (closed reference isKnown node stands) (same.shows shownClaimed)
            (by rw [Desk.currentNamer, keptStarted.active]; exact chosen) (by omega)

theorem visiting_expandWith
    (gives : workshop.Gives bound body) {limit : Nat}
    (deeper : ∀ (desk : Desk String own) (ledger : Ledger) (references : List String),
      (∀ reference ∈ references, reference ∈ scope) → desk.Shows index ledger →
      bound.getD desk.currentNamer = index → ledger.unnamed scope < limit →
      Work.Visiting inner body index desk ledger references)
    (references : List String) (known : ∀ reference ∈ references, reference ∈ scope)
    (shown : desk.Shows index ledger) (chosen : bound.getD desk.currentNamer = index)
    (within : ledger.unnamed scope ≤ limit) :
    Work.Visiting (workshop.expandWith inner) body index desk ledger references := by
  induction references generalizing desk ledger with
  | nil => exact visiting_nil _ shown
  | cons reference rest inductionHypothesis =>
      have restKnown : ∀ other ∈ rest, other ∈ scope :=
        fun other isRest => known other (List.mem_cons_of_mem _ isRest)
      cases named : ledger.nameOf? reference with
      | some name =>
          have given : desk.nameOf? reference = some name := by
            rw [Desk.nameOf?, shown.names]
            exact named
          exact visiting_cons (workshop.runOn_expandWith_of_named given inner) (.refl desk index)
            (fun _ _ later => .again named later) (fun _ _ later => .afterAgain named later)
            (inductionHypothesis restKnown shown chosen within)
      | none =>
          refine visiting_unnamed closed gives chosen deeper shown within
            (known reference List.mem_cons_self) named ?_
          intro after ledgerAfter shownAfter kept grown
          have stillWithin := Ledger.unnamed_le_of_grown grown scope
          exact inductionHypothesis restKnown shownAfter
            (by rw [Desk.currentNamer, kept.active]; exact chosen) (by omega)

/-- Rendering leaves visits them, if the bound on the depth is at least the number of references
without a name. -/
theorem visiting_expand
    (gives : workshop.Gives bound body) (depth : Nat) (desk : Desk String own) (ledger : Ledger)
    (references : List String)
    (known : ∀ reference ∈ references, reference ∈ scope) (shown : desk.Shows index ledger)
    (chosen : bound.getD desk.currentNamer = index) (within : ledger.unnamed scope ≤ depth) :
    Work.Visiting (workshop.expand depth) body index desk ledger references := by
  induction depth generalizing desk ledger references with
  | zero =>
      exact visiting_expandWith closed gives
        (fun _ _ _ _ _ _ impossible => absurd impossible (Nat.not_lt_zero _))
        references known shown chosen within
  | succ depth inductionHypothesis =>
      exact visiting_expandWith closed gives
        (fun desk ledger references known shown chosen fewer =>
          inductionHypothesis desk ledger references known shown chosen (Nat.le_of_lt_succ fewer))
        references known shown chosen within

end Scope

end Workshop

end SchemaSignature
