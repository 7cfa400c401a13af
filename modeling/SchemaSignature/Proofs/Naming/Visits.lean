import SchemaSignature.Naming.Namer
import SchemaSignature.Proofs.Signature.Leaves

/-!
What rendering a list of references does to the names, apart from the machinery of the desk. A
reference that has a name is rendered as that name. One without a name is given the next name of the
namer, then the references in the node that it stands for are visited, and what comes of it is
declared under the name. A visit breaks off at the first reference whose number cannot be written or
that stands for no node. The names before decide whether it does, what comes of it, and the names
afterwards.
-/

namespace SchemaSignature

/-- The names that references have been given, in the order in which they got them, and the namer
that the names come from. -/
structure Ledger where
  names : List (String × String) := []
  namer : Namer

namespace Ledger

def nameOf? (ledger : Ledger) (reference : String) : Option String :=
  ledger.names.lookup reference

/-- Gives a reference the name that its namer has minted for it. -/
def claim (ledger : Ledger) (reference name : String) : Ledger :=
  { names := ledger.names ++ [(reference, name)], namer := ledger.namer.advance }

/-- Passes over a number that has no text. -/
def skip (ledger : Ledger) : Ledger :=
  { ledger with namer := ledger.namer.advance }

/-- Declares what a name stands for. -/
def declare (ledger : Ledger) (name : String) (expansion : Signature) : Ledger :=
  { ledger with namer := ledger.namer.declare name expansion }

/-- The name that the namer mints next, unless its number is too long to be written. -/
def nextName (ledger : Ledger) : Except Failure String :=
  ledger.namer.nameOf (ledger.namer.count + 1)

end Ledger

/-- References are visited one after the other, and each is rendered. `body` is the node that a
reference stands for. -/
inductive Visits (body : String → Except Failure (Node String)) :
    Ledger → List String → List Signature → Ledger → Prop where
  | done (ledger : Ledger) : Visits body ledger [] [] ledger
  | again {ledger after : Ledger} {reference name : String} {rest : List String}
      {signatures : List Signature}
      (named : ledger.nameOf? reference = some name)
      (later : Visits body ledger rest signatures after) :
      Visits body ledger (reference :: rest) (.lazy name :: signatures) after
  | first {ledger expanded after : Ledger} {reference name : String} {rest : List String}
      {node : Node String} {parts signatures : List Signature}
      (unnamed : ledger.nameOf? reference = none)
      (minted : ledger.nextName = .ok name)
      (stands : body reference = .ok node)
      (inside : Visits body (ledger.claim reference name) node.keys parts expanded)
      (later : Visits body (expanded.declare name (node.fill parts)) rest signatures after) :
      Visits body ledger (reference :: rest) (node.fill parts :: signatures) after

/-- References are visited one after the other until one of them fails. -/
inductive Breaks (body : String → Except Failure (Node String)) :
    Ledger → List String → Failure → Ledger → Prop where
  | nameless {ledger : Ledger} {reference : String} {rest : List String} {failure : Failure}
      (unnamed : ledger.nameOf? reference = none)
      (tooLong : ledger.nextName = .error failure) :
      Breaks body ledger (reference :: rest) failure ledger.skip
  | bodiless {ledger : Ledger} {reference name : String} {rest : List String} {failure : Failure}
      (unnamed : ledger.nameOf? reference = none)
      (minted : ledger.nextName = .ok name)
      (faulty : body reference = .error failure) :
      Breaks body ledger (reference :: rest) failure (ledger.claim reference name)
  | inside {ledger after : Ledger} {reference name : String} {rest : List String}
      {node : Node String} {failure : Failure}
      (unnamed : ledger.nameOf? reference = none)
      (minted : ledger.nextName = .ok name)
      (stands : body reference = .ok node)
      (broken : Breaks body (ledger.claim reference name) node.keys failure after) :
      Breaks body ledger (reference :: rest) failure after
  | afterAgain {ledger after : Ledger} {reference name : String} {rest : List String}
      {failure : Failure}
      (named : ledger.nameOf? reference = some name)
      (broken : Breaks body ledger rest failure after) :
      Breaks body ledger (reference :: rest) failure after
  | afterFirst {ledger expanded after : Ledger} {reference name : String} {rest : List String}
      {node : Node String} {parts : List Signature} {failure : Failure}
      (unnamed : ledger.nameOf? reference = none)
      (minted : ledger.nextName = .ok name)
      (stands : body reference = .ok node)
      (visited : Visits body (ledger.claim reference name) node.keys parts expanded)
      (broken : Breaks body (expanded.declare name (node.fill parts)) rest failure after) :
      Breaks body ledger (reference :: rest) failure after

/-- A node is rendered several times in a row. A rendering that breaks off does not keep the next
one from being tried. -/
inductive Renders (body : String → Except Failure (Node String)) (node : Node String) :
    Ledger → List (Except Failure Signature) → Ledger → Prop where
  | done (ledger : Ledger) : Renders body node ledger [] ledger
  | signature {ledger middle after : Ledger} {parts : List Signature}
      {outcomes : List (Except Failure Signature)}
      (visited : Visits body ledger node.keys parts middle)
      (later : Renders body node middle outcomes after) :
      Renders body node ledger (.ok (node.fill parts) :: outcomes) after
  | failure {ledger middle after : Ledger} {cause : Failure}
      {outcomes : List (Except Failure Signature)}
      (broken : Breaks body ledger node.keys cause middle)
      (later : Renders body node middle outcomes after) :
      Renders body node ledger (.error cause :: outcomes) after

/-- A visit that breaks off after other references have been visited. -/
theorem Visits.append_breaks
    {body : String → Except Failure (Node String)} {ledger middle after : Ledger}
    {references rest : List String} {signatures : List Signature} {failure : Failure}
    (visited : Visits body ledger references signatures middle)
    (broken : Breaks body middle rest failure after) :
    Breaks body ledger (references ++ rest) failure after := by
  induction visited with
  | done => exact broken
  | again named _ inductionHypothesis => exact .afterAgain named (inductionHypothesis broken)
  | first unnamed minted stands inside _ _ inductionHypothesis =>
      exact .afterFirst unnamed minted stands inside (inductionHypothesis broken)

theorem Visits.append
    {body : String → Except Failure (Node String)} {ledger middle after : Ledger}
    {references rest : List String} {signatures others : List Signature}
    (visited : Visits body ledger references signatures middle)
    (later : Visits body middle rest others after) :
    Visits body ledger (references ++ rest) (signatures ++ others) after := by
  induction visited with
  | done => exact later
  | again named _ inductionHypothesis => exact .again named (inductionHypothesis later)
  | first unnamed minted stands inside _ _ inductionHypothesis =>
      exact .first unnamed minted stands inside (inductionHypothesis later)

theorem Renders.append
    {body : String → Except Failure (Node String)} {node : Node String}
    {ledger middle after : Ledger} {outcomes others : List (Except Failure Signature)}
    (before : Renders body node ledger outcomes middle)
    (thereafter : Renders body node middle others after) :
    Renders body node ledger (outcomes ++ others) after := by
  induction before with
  | done => exact thereafter
  | signature visited _ inductionHypothesis => exact .signature visited (inductionHypothesis thereafter)
  | failure broken _ inductionHypothesis => exact .failure broken (inductionHypothesis thereafter)

/-- The last of several renderings starts where the others end. -/
theorem Renders.exists_of_concat
    {body : String → Except Failure (Node String)} {node : Node String} {ledger after : Ledger}
    {outcomes : List (Except Failure Signature)} {outcome : Except Failure Signature}
    (renders : Renders body node ledger (outcomes ++ [outcome]) after) :
    ∃ middle, Renders body node ledger outcomes middle ∧
      Renders body node middle [outcome] after := by
  induction outcomes generalizing ledger with
  | nil => exact ⟨ledger, .done ledger, renders⟩
  | cons first rest inductionHypothesis =>
      cases renders with
      | signature visited later =>
          obtain ⟨middle, before, last⟩ := inductionHypothesis later
          exact ⟨middle, .signature visited before, last⟩
      | failure broken later =>
          obtain ⟨middle, before, last⟩ := inductionHypothesis later
          exact ⟨middle, .failure broken before, last⟩

section Growth

variable {body : String → Except Failure (Node String)}

theorem Visits.length_eq
    {ledger after : Ledger} {references : List String} {signatures : List Signature}
    (visited : Visits body ledger references signatures after) :
    signatures.length = references.length := by
  induction visited with
  | done => rfl
  | again _ _ inductionHypothesis =>
      rw [List.length_cons, List.length_cons, inductionHypothesis]
  | first _ _ _ _ _ _ inductionHypothesis =>
      rw [List.length_cons, List.length_cons, inductionHypothesis]

theorem Visits.names_grown
    {ledger after : Ledger} {references : List String} {signatures : List Signature}
    (visited : Visits body ledger references signatures after) :
    ledger.names <+: after.names := by
  induction visited with
  | done => exact List.prefix_rfl
  | again _ _ inductionHypothesis => exact inductionHypothesis
  | first _ _ _ _ _ inside later =>
      exact (List.prefix_append _ _).trans (inside.trans later)

end Growth

namespace Ledger

theorem nameOf?_eq_some_of_grown
    {ledger after : Ledger} {reference name : String} (grown : ledger.names <+: after.names)
    (named : ledger.nameOf? reference = some name) :
    after.nameOf? reference = some name := by
  obtain ⟨more, grown⟩ := grown
  unfold nameOf? at named ⊢
  rw [← grown, List.lookup_append, named]
  rfl

theorem nameOf?_claim_self
    {ledger : Ledger} {reference : String} (unnamed : ledger.nameOf? reference = none)
    (name : String) :
    (ledger.claim reference name).nameOf? reference = some name := by
  unfold nameOf? at unnamed
  simp [nameOf?, claim, List.lookup_append, unnamed]

theorem nameOf?_claim_of_ne
    {ledger : Ledger} {reference other : String} (different : other ≠ reference) (name : String) :
    (ledger.claim reference name).nameOf? other = ledger.nameOf? other := by
  simp [nameOf?, claim, List.lookup_append, List.lookup_cons, beq_false_of_ne different]

/-- All references that have been visited have a name. -/
theorem nameOf?_of_visits
    {body : String → Except Failure (Node String)} {ledger after : Ledger}
    {references : List String} {signatures : List Signature}
    (visited : Visits body ledger references signatures after) :
    ∀ reference ∈ references, ∃ name, after.nameOf? reference = some name := by
  induction visited with
  | done =>
      intro reference impossible
      cases impossible
  | @again ledger after first name rest signatures named later inductionHypothesis =>
      intro reference isReference
      rcases List.mem_cons.mp isReference with rfl | isLater
      · exact ⟨name, nameOf?_eq_some_of_grown later.names_grown named⟩
      · exact inductionHypothesis reference isLater
  | @first ledger expanded after first name rest node parts signatures unnamed _ _ inside later _
      inductionHypothesis =>
      intro reference isReference
      rcases List.mem_cons.mp isReference with rfl | isLater
      · have claimed := nameOf?_claim_self unnamed name
        have expandedNamed := nameOf?_eq_some_of_grown inside.names_grown claimed
        exact ⟨name, nameOf?_eq_some_of_grown later.names_grown expandedNamed⟩
      · exact inductionHypothesis reference isLater

/-- Visiting references that all have a name changes nothing, and does not break off. -/
theorem eq_of_visits_named
    {body : String → Except Failure (Node String)} {ledger after : Ledger}
    {references : List String} {signatures : List Signature}
    (visited : Visits body ledger references signatures after)
    (named : ∀ reference ∈ references, ∃ name, ledger.nameOf? reference = some name) :
    after = ledger := by
  induction visited with
  | done => rfl
  | again _ _ inductionHypothesis =>
      exact inductionHypothesis fun other isLater => named other (List.mem_cons_of_mem _ isLater)
  | @first _ _ _ reference _ _ _ _ _ unnamed =>
      obtain ⟨name, isNamed⟩ := named reference List.mem_cons_self
      rw [unnamed] at isNamed
      cases isNamed

theorem not_breaks_of_named
    {body : String → Except Failure (Node String)} {ledger after : Ledger}
    {references : List String} {failure : Failure}
    (named : ∀ reference ∈ references, ∃ name, ledger.nameOf? reference = some name) :
    ¬Breaks body ledger references failure after := by
  intro broken
  induction broken with
  | afterAgain _ _ inductionHypothesis =>
      exact inductionHypothesis fun other isLater => named other (List.mem_cons_of_mem _ isLater)
  | nameless unnamed | bodiless unnamed | inside unnamed | afterFirst unnamed =>
      obtain ⟨name, isNamed⟩ := named _ List.mem_cons_self
      rw [unnamed] at isNamed
      cases isNamed

/-- How many references of a list have no name yet. -/
def unnamed (ledger : Ledger) (references : List String) : Nat :=
  references.countP fun reference => (ledger.nameOf? reference).isNone

theorem unnamed_le_of_grown
    {ledger after : Ledger} (grown : ledger.names <+: after.names) (references : List String) :
    after.unnamed references ≤ ledger.unnamed references := by
  apply List.countP_mono_left
  intro reference _ isUnnamed
  cases named : ledger.nameOf? reference with
  | none => rfl
  | some name =>
      rw [nameOf?_eq_some_of_grown grown named] at isUnnamed
      cases isUnnamed

theorem unnamed_claim_lt
    {ledger : Ledger} {reference : String} {references : List String}
    (isListed : reference ∈ references) (isUnnamed : ledger.nameOf? reference = none)
    (name : String) :
    (ledger.claim reference name).unnamed references < ledger.unnamed references := by
  induction references with
  | nil => cases isListed
  | cons head rest inductionHypothesis =>
      have grown : ledger.names <+: (ledger.claim reference name).names := List.prefix_append _ _
      have restBound := unnamed_le_of_grown grown rest
      by_cases same : head = reference
      · subst same
        unfold unnamed at restBound ⊢
        rw [List.countP_cons_of_neg, List.countP_cons_of_pos]
        · omega
        · rw [isUnnamed]
          rfl
        · rw [nameOf?_claim_self isUnnamed]
          simp
      · have isInRest : reference ∈ rest := by
          rcases List.mem_cons.mp isListed with isHead | later
          · exact absurd isHead.symm same
          · exact later
        have restLess := inductionHypothesis isInRest
        unfold unnamed at restLess ⊢
        rw [List.countP_cons, List.countP_cons, nameOf?_claim_of_ne same]
        omega

end Ledger

/-! ## Visits are deterministic -/

variable {body : String → Except Failure (Node String)} {ledger after otherAfter : Ledger}
  {references : List String}

/-- What visiting references comes to is determined by the names before. -/
theorem Visits.unique
    {signatures others : List Signature} (visited : Visits body ledger references signatures after)
    (again : Visits body ledger references others otherAfter) :
    others = signatures ∧ otherAfter = after := by
  induction visited generalizing others otherAfter with
  | done =>
      cases again
      exact ⟨rfl, rfl⟩
  | again named _ inductionHypothesis =>
      cases again with
      | again sameNamed later =>
          cases named.symm.trans sameNamed
          obtain ⟨rfl, rfl⟩ := inductionHypothesis later
          exact ⟨rfl, rfl⟩
      | first unnamed => cases named.symm.trans unnamed
  | first unnamed minted stands _ _ insideUnique laterUnique =>
      cases again with
      | again named => cases named.symm.trans unnamed
      | first _ sameMinted sameStands inside later =>
          cases minted.symm.trans sameMinted
          cases stands.symm.trans sameStands
          obtain ⟨rfl, rfl⟩ := insideUnique inside
          obtain ⟨rfl, rfl⟩ := laterUnique later
          exact ⟨rfl, rfl⟩

/-- References that are all visited do not break off. -/
theorem Visits.not_breaks
    {signatures : List Signature} {failure : Failure}
    (visited : Visits body ledger references signatures after) :
    ¬Breaks body ledger references failure otherAfter := by
  intro broken
  induction visited generalizing otherAfter with
  | done => cases broken
  | again named _ inductionHypothesis =>
      cases broken with
      | afterAgain _ later => exact inductionHypothesis later
      | nameless unnamed | bodiless unnamed | inside unnamed | afterFirst unnamed =>
          cases named.symm.trans unnamed
  | first unnamed minted stands inside _ insideHolds laterHolds =>
      cases broken with
      | nameless _ tooLong => cases minted.symm.trans tooLong
      | bodiless _ _ faulty => cases stands.symm.trans faulty
      | inside _ sameMinted sameStands broken =>
          cases minted.symm.trans sameMinted
          cases stands.symm.trans sameStands
          exact insideHolds broken
      | afterAgain named => cases named.symm.trans unnamed
      | afterFirst _ sameMinted sameStands visited broken =>
          cases minted.symm.trans sameMinted
          cases stands.symm.trans sameStands
          obtain ⟨rfl, rfl⟩ := inside.unique visited
          exact laterHolds broken

theorem Breaks.unique
    {failure otherFailure : Failure} (broken : Breaks body ledger references failure after)
    (again : Breaks body ledger references otherFailure otherAfter) :
    otherFailure = failure ∧ otherAfter = after := by
  induction broken generalizing otherAfter with
  | nameless unnamed tooLong =>
      cases again with
      | nameless _ sameTooLong =>
          cases tooLong.symm.trans sameTooLong
          exact ⟨rfl, rfl⟩
      | bodiless _ minted | inside _ minted | afterFirst _ minted =>
          cases tooLong.symm.trans minted
      | afterAgain named => cases named.symm.trans unnamed
  | bodiless unnamed minted faulty =>
      cases again with
      | nameless _ tooLong => cases minted.symm.trans tooLong
      | bodiless _ sameMinted sameFaulty =>
          cases minted.symm.trans sameMinted
          cases faulty.symm.trans sameFaulty
          exact ⟨rfl, rfl⟩
      | inside _ _ stands | afterFirst _ _ stands => cases faulty.symm.trans stands
      | afterAgain named => cases named.symm.trans unnamed
  | inside unnamed minted stands broken inductionHypothesis =>
      cases again with
      | nameless _ tooLong => cases minted.symm.trans tooLong
      | bodiless _ _ faulty => cases stands.symm.trans faulty
      | inside _ sameMinted sameStands sameBroken =>
          cases minted.symm.trans sameMinted
          cases stands.symm.trans sameStands
          exact inductionHypothesis sameBroken
      | afterAgain named => cases named.symm.trans unnamed
      | afterFirst _ sameMinted sameStands visited _ =>
          cases minted.symm.trans sameMinted
          cases stands.symm.trans sameStands
          exact absurd broken visited.not_breaks
  | afterAgain named _ inductionHypothesis =>
      cases again with
      | nameless unnamed | bodiless unnamed | inside unnamed | afterFirst unnamed =>
          cases named.symm.trans unnamed
      | afterAgain _ later => exact inductionHypothesis later
  | afterFirst unnamed minted stands visited _ inductionHypothesis =>
      cases again with
      | nameless _ tooLong => cases minted.symm.trans tooLong
      | bodiless _ _ faulty => cases stands.symm.trans faulty
      | inside _ sameMinted sameStands broken =>
          cases minted.symm.trans sameMinted
          cases stands.symm.trans sameStands
          exact absurd broken visited.not_breaks
      | afterAgain named => cases named.symm.trans unnamed
      | afterFirst _ sameMinted sameStands sameVisited later =>
          cases minted.symm.trans sameMinted
          cases stands.symm.trans sameStands
          obtain ⟨rfl, rfl⟩ := visited.unique sameVisited
          exact inductionHypothesis later

/-- The outcomes of a number of renderings are determined by the names before. -/
theorem Renders.unique
    {node : Node String} {outcomes others : List (Except Failure Signature)}
    (renders : Renders body node ledger outcomes after)
    (again : Renders body node ledger others otherAfter)
    (sameLength : others.length = outcomes.length) : others = outcomes ∧ otherAfter = after := by
  induction renders generalizing others otherAfter with
  | done =>
      cases List.length_eq_zero_iff.mp sameLength
      cases again
      exact ⟨rfl, rfl⟩
  | signature visited _ inductionHypothesis =>
      cases again with
      | done => cases sameLength
      | signature sameVisited later =>
          obtain ⟨rfl, rfl⟩ := visited.unique sameVisited
          obtain ⟨rfl, rfl⟩ := inductionHypothesis later (Nat.succ.inj sameLength)
          exact ⟨rfl, rfl⟩
      | failure broken _ => exact absurd broken visited.not_breaks
  | failure broken _ inductionHypothesis =>
      cases again with
      | done => cases sameLength
      | signature visited _ => exact absurd broken visited.not_breaks
      | failure sameBroken later =>
          obtain ⟨rfl, rfl⟩ := broken.unique sameBroken
          obtain ⟨rfl, rfl⟩ := inductionHypothesis later (Nat.succ.inj sameLength)
          exact ⟨rfl, rfl⟩

end SchemaSignature
