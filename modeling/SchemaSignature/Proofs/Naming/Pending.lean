import SchemaSignature.Proofs.Naming.Interruptions

/-!
Names that wait for what they stand for. A name is given before its reference is expanded and
declared afterwards, so that a visit leaves a name without an entry only if it breaks off inside the
expansion. The references that this happens to are the ones whose expansions were under way, from the
outermost one to the place of the failure. Nothing makes up for it later: a reference with a name is
never expanded again.
-/

namespace SchemaSignature

namespace Ledger

def given (ledger : Ledger) : List String :=
  ledger.names.map Prod.snd

/-- The references whose name has no entry, with their names. -/
def pending (ledger : Ledger) : List (String × String) :=
  ledger.names.filter fun entry => decide (entry.2 ∉ ledger.namer.declared)

/-- The names are numbered, and every name in the table of declarations has been given to a
reference. -/
structure Kept (stem : String) (ledger : Ledger) : Prop where
  numbered : ledger.Numbered stem
  keys : ∀ name ∈ ledger.namer.declared, name ∈ ledger.given
  leaves : ∀ entry ∈ ledger.namer.declarations, ∀ leaf ∈ entry.2.keys, leaf ∈ ledger.given

variable {stem : String} {ledger after : Ledger} {reference name : String}

/-- Of the names that have been given, those that are not pending are the ones with an entry. -/
theorem mem_declared_iff (isGiven : name ∈ ledger.given) :
    name ∈ ledger.namer.declared ↔ name ∉ ledger.pending.map Prod.snd := by
  obtain ⟨entry, isEntry, rfl⟩ := List.mem_map.mp isGiven
  constructor
  · intro isDeclared isPending
    obtain ⟨other, waits, same⟩ := List.mem_map.mp isPending
    have undeclared := of_decide_eq_true (List.mem_filter.mp waits).2
    exact undeclared (same ▸ isDeclared)
  · intro notPending
    by_contra undeclared
    have waits : entry ∈ ledger.pending :=
      List.mem_filter.mpr ⟨isEntry, decide_eq_true undeclared⟩
    exact notPending (List.mem_map.mpr ⟨entry, waits, rfl⟩)

theorem given_grown (grown : ledger.names <+: after.names) : ledger.given ⊆ after.given :=
  (grown.map Prod.snd).subset

theorem given_claim (ledger : Ledger) (reference name : String) :
    (ledger.claim reference name).given = ledger.given ++ [name] := by
  rw [given, claim, List.map_append]
  rfl

theorem mem_given_of_nameOf? (named : ledger.nameOf? reference = some name) :
    name ∈ ledger.given := by
  obtain ⟨before, later, same, _⟩ := List.lookup_eq_some_iff.mp named
  rw [given, same, List.map_append]
  exact List.mem_append_right _ List.mem_cons_self

namespace Kept

variable (kept : ledger.Kept stem)

include kept

/-- The next name of a namer is a new one. -/
theorem not_mem_given (minted : ledger.nextName = .ok name) : name ∉ ledger.given := by
  intro isGiven
  obtain ⟨number, counted, same⟩ := kept.numbered.counted name isGiven
  have isNext := Namer.eq_numbered_of_nameOf minted
  rw [kept.numbered.sameStem] at isNext
  have sameNumber := Namer.numbered_injective stem (isNext.symm.trans same)
  omega

theorem claim
    (unnamed : ledger.nameOf? reference = none) (minted : ledger.nextName = .ok name) :
    (ledger.claim reference name).Kept stem := by
  have step : Step (fun _ => True) ledger (ledger.claim reference name) :=
    .claim trivial unnamed minted
  refine ⟨step.numbered kept.numbered, ?_, ?_⟩
  · intro other isDeclared
    rw [given_claim]
    exact List.mem_append_left _ (kept.keys other isDeclared)
  · intro entry isEntry leaf isLeaf
    rw [given_claim]
    exact List.mem_append_left _ (kept.leaves entry isEntry leaf isLeaf)

theorem skip : ledger.skip.Kept stem :=
  have step : Step (fun _ => True) ledger ledger.skip := .skip ledger
  ⟨step.numbered kept.numbered, kept.keys, kept.leaves⟩

theorem declare
    (isGiven : name ∈ ledger.given) {expansion : Signature}
    (leavesGiven : ∀ leaf ∈ expansion.keys, leaf ∈ ledger.given) :
    (ledger.declare name expansion).Kept stem := by
  have step : Step (fun _ => True) ledger (ledger.declare name expansion) :=
    .declare ledger name expansion
  refine ⟨step.numbered kept.numbered, ?_, ?_⟩
  · intro other isDeclared
    rcases Namer.mem_declared_declare.mp isDeclared with isOld | rfl
    · exact kept.keys other isOld
    · exact isGiven
  · intro entry isEntry leaf isLeaf
    rcases Namer.mem_declarations_declare isEntry with isOld | rfl
    · exact kept.leaves entry isOld leaf isLeaf
    · exact leavesGiven leaf isLeaf

/-- The name of a claim is pending from then on. -/
theorem pending_claim (minted : ledger.nextName = .ok name) :
    (ledger.claim reference name).pending = ledger.pending ++ [(reference, name)] := by
  have undeclared : name ∉ ledger.namer.declared := fun isDeclared =>
    kept.not_mem_given minted (kept.keys name isDeclared)
  have sameDeclared : (ledger.claim reference name).namer.declared = ledger.namer.declared := rfl
  unfold pending
  rw [sameDeclared, Ledger.claim, List.filter_append]
  simp [undeclared]

end Kept

theorem pending_declare (ledger : Ledger) (name : String) (expansion : Signature) :
    (ledger.declare name expansion).pending =
      ledger.pending.filter fun entry => decide (entry.2 ≠ name) := by
  unfold pending
  rw [List.filter_filter]
  refine List.filter_congr fun entry _ => ?_
  have both : entry.2 ∈ (ledger.namer.declare name expansion).declared ↔
      entry.2 ∈ ledger.namer.declared ∨ entry.2 = name := Namer.mem_declared_declare
  rw [Ledger.declare, ← Bool.decide_and, decide_eq_decide, both, not_or, and_comm]

/-- A claim and the declaration that belongs to it leave nothing pending. -/
theorem Kept.pending_declare_claimed
    (kept : ledger.Kept stem) (minted : ledger.nextName = .ok name)
    (settled : after.pending = (ledger.claim reference name).pending) (expansion : Signature) :
    (after.declare name expansion).pending = ledger.pending := by
  have isNew := kept.not_mem_given minted
  rw [pending_declare, settled, kept.pending_claim minted, List.filter_append]
  have allKept : ledger.pending.filter (fun entry => decide (entry.2 ≠ name)) = ledger.pending := by
    refine List.filter_eq_self.mpr fun entry waits => decide_eq_true ?_
    rintro rfl
    exact isNew (List.mem_map.mpr ⟨entry, (List.mem_filter.mp waits).1, rfl⟩)
  rw [allKept]
  simp

end Ledger

open Ledger

/-- A visit of references breaks off inside nested expansions of the references of a chain, the
outermost one first. It breaks off because the last of them stands for no node, or because the number
of the next name is too long. -/
inductive BrokenOff (body : String → Except Failure (Node String)) :
    List String → List String → Failure → Prop where
  | nameless {references : List String} {reference : String} {failure : Failure}
      (isVisited : reference ∈ references) (tooLong : failure = .misuse .numberTooLong) :
      BrokenOff body references [] failure
  | bodiless {references : List String} {reference : String} {failure : Failure}
      (isVisited : reference ∈ references) (faulty : body reference = .error failure) :
      BrokenOff body references [reference] failure
  | inside {references chain : List String} {reference : String} {node : Node String}
      {failure : Failure}
      (isVisited : reference ∈ references) (stands : body reference = .ok node)
      (deeper : BrokenOff body node.keys chain failure) :
      BrokenOff body references (reference :: chain) failure

section Visiting

variable {body : String → Except Failure (Node String)} {stem : String}

/-- A visit that does not break off leaves nothing pending that was not pending before, and all names
in what comes of it have been given. -/
theorem Visits.keeps
    {ledger after : Ledger} {references : List String} {signatures : List Signature}
    (visited : Visits body ledger references signatures after) (kept : ledger.Kept stem) :
    after.Kept stem ∧ after.pending = ledger.pending ∧
      ∀ signature ∈ signatures, ∀ leaf ∈ signature.keys, leaf ∈ after.given := by
  induction visited with
  | done ledger =>
      refine ⟨kept, rfl, ?_⟩
      intro signature impossible
      cases impossible
  | @again ledger after reference name rest signatures named later inductionHypothesis =>
      obtain ⟨keptAfter, pending, leaves⟩ := inductionHypothesis kept
      refine ⟨keptAfter, pending, ?_⟩
      intro signature isSignature leaf isLeaf
      rcases List.mem_cons.mp isSignature with rfl | isLater
      · rw [List.mem_singleton.mp isLeaf]
        exact given_grown later.names_grown (mem_given_of_nameOf? named)
      · exact leaves signature isLater leaf isLeaf
  | @first ledger expanded after reference name rest node parts signatures unnamed minted stands
      inside later insideHypothesis laterHypothesis =>
      obtain ⟨keptExpanded, insidePending, insideLeaves⟩ :=
        insideHypothesis (kept.claim unnamed minted)
      have isGiven : name ∈ expanded.given := by
        apply given_grown inside.names_grown
        rw [given_claim]
        exact List.mem_append_right _ List.mem_cons_self
      have expansionLeaves : ∀ leaf ∈ (node.fill parts).keys, leaf ∈ expanded.given := by
        intro leaf isLeaf
        obtain ⟨part, isPart, isLeaf⟩ := (Node.mem_keys_fill inside.length_eq).mp isLeaf
        exact insideLeaves part isPart leaf isLeaf
      obtain ⟨keptAfter, laterPending, laterLeaves⟩ :=
        laterHypothesis (keptExpanded.declare isGiven expansionLeaves)
      refine ⟨keptAfter, ?_, ?_⟩
      · rw [laterPending]
        exact kept.pending_declare_claimed minted insidePending _
      · intro signature isSignature leaf isLeaf
        rcases List.mem_cons.mp isSignature with rfl | isLater
        · exact given_grown later.names_grown (expansionLeaves leaf isLeaf)
        · exact laterLeaves signature isLater leaf isLeaf

theorem Interrupted.brokenOff
    {ledger after : Ledger} {references : List String} {chain : List (String × String)}
    {failure : Failure} (interrupted : Interrupted body ledger references chain failure after) :
    BrokenOff body references (chain.map Prod.fst) failure := by
  induction interrupted with
  | nameless _ _ tooLong =>
      exact .nameless (List.mem_append_right _ List.mem_cons_self) (Namer.nameOf_error tooLong).1
  | bodiless _ _ _ faulty => exact .bodiless (List.mem_append_right _ List.mem_cons_self) faulty
  | inside _ _ _ stands _ deeper =>
      exact .inside (List.mem_append_right _ List.mem_cons_self) stands deeper

/-- A visit that breaks off leaves pending, besides what was pending before, the references whose
expansions were under way. -/
theorem Interrupted.keeps
    {ledger after : Ledger} {references : List String} {chain : List (String × String)}
    {failure : Failure} (interrupted : Interrupted body ledger references chain failure after)
    (kept : ledger.Kept stem) :
    after.Kept stem ∧ after.pending = ledger.pending ++ chain := by
  induction interrupted with
  | nameless visited _ _ =>
      obtain ⟨keptMiddle, settled, _⟩ := visited.keeps kept
      exact ⟨keptMiddle.skip, settled.trans (List.append_nil _).symm⟩
  | bodiless visited unnamed minted _ =>
      obtain ⟨keptMiddle, settled, _⟩ := visited.keeps kept
      exact ⟨keptMiddle.claim unnamed minted, by rw [keptMiddle.pending_claim minted, settled]⟩
  | inside visited unnamed minted _ _ inductionHypothesis =>
      obtain ⟨keptMiddle, settled, _⟩ := visited.keeps kept
      obtain ⟨keptAfter, pending⟩ := inductionHypothesis (keptMiddle.claim unnamed minted)
      refine ⟨keptAfter, ?_⟩
      rw [pending, keptMiddle.pending_claim minted, settled, List.append_assoc,
        List.singleton_append]

theorem Breaks.keeps
    {ledger after : Ledger} {references : List String} {failure : Failure}
    (broken : Breaks body ledger references failure after) (kept : ledger.Kept stem) :
    after.Kept stem ∧ ∃ chain : List (String × String),
      BrokenOff body references (chain.map Prod.fst) failure ∧
        after.pending = ledger.pending ++ chain := by
  obtain ⟨chain, interrupted⟩ := broken.exists_chain
  obtain ⟨keptAfter, pending⟩ := interrupted.keeps kept
  exact ⟨keptAfter, chain, interrupted.brokenOff, pending⟩

/-- However many renderings there are, every name in the table has been given. -/
theorem Renders.kept
    {node : Node String} {ledger after : Ledger} {outcomes : List (Except Failure Signature)}
    (renders : Renders body node ledger outcomes after) (kept : ledger.Kept stem) :
    after.Kept stem := by
  induction renders with
  | done => exact kept
  | signature visited _ inductionHypothesis => exact inductionHypothesis (visited.keeps kept).1
  | failure broken _ inductionHypothesis => exact inductionHypothesis (broken.keeps kept).1

/-- Renderings none of which breaks off leave nothing pending that was not pending before. -/
theorem Renders.pending_eq
    {node : Node String} {ledger after : Ledger} {outcomes : List (Except Failure Signature)}
    (renders : Renders body node ledger outcomes after) (kept : ledger.Kept stem)
    (noneFails : ∀ failure, .error failure ∉ outcomes) : after.pending = ledger.pending := by
  induction renders with
  | done => rfl
  | signature visited _ inductionHypothesis =>
      obtain ⟨keptMiddle, settled, _⟩ := visited.keeps kept
      have laterSettled := inductionHypothesis keptMiddle fun failure isLater =>
        noneFails failure (List.mem_cons_of_mem _ isLater)
      exact laterSettled.trans settled
  | failure => exact absurd List.mem_cons_self (noneFails _)

end Visiting

end SchemaSignature
