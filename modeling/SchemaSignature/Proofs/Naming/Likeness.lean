import SchemaSignature.Proofs.Naming.Names
import SchemaSignature.Proofs.Naming.Visits
import SchemaSignature.Proofs.Outcome
import SchemaSignature.Proofs.Signature.Likeness

/-!
Names do not depend on which of several constructors that are written alike the nodes consist of. If
references stand for nodes that are written alike, the same references are expanded at the same
places, under the same names, and everything that comes of it is written alike.
-/

namespace SchemaSignature

namespace Ledger

/-- The names with the canonical forms of what has been declared. -/
def canonical (ledger : Ledger) : Ledger :=
  { ledger with
    namer := { ledger.namer with
      declarations := ledger.namer.declarations.map (Prod.map id Node.canonical) } }

/-- Two ledgers differ at most in declarations that are written alike. -/
def Alike (ledger other : Ledger) : Prop :=
  other.canonical = ledger.canonical

variable {ledger other : Ledger}

theorem canonical_declare (ledger : Ledger) (name : String) (expansion : Signature) :
    (ledger.declare name expansion).canonical =
      ledger.canonical.declare name expansion.canonical := by
  unfold canonical declare Namer.declare
  simp only [Table.setIfAbsent_map Function.injective_id, id]

namespace Alike

variable (alike : ledger.Alike other)

include alike

theorem nameOf?_eq (reference : String) : other.nameOf? reference = ledger.nameOf? reference := by
  have same : other.canonical.names = ledger.canonical.names := congrArg Ledger.names alike
  exact congrArg (List.lookup reference) same

theorem nextName_eq : other.nextName = ledger.nextName := by
  have same : other.canonical.nextName = ledger.canonical.nextName := congrArg nextName alike
  exact same

theorem count_eq : other.namer.count = ledger.namer.count := by
  have same : other.canonical.namer.count = ledger.canonical.namer.count :=
    congrArg (fun canonical : Ledger => canonical.namer.count) (show other.canonical = _ from alike)
  exact same

theorem claim (reference name : String) :
    (ledger.claim reference name).Alike (other.claim reference name) :=
  congrArg (Ledger.claim · reference name) alike

theorem skip : ledger.skip.Alike other.skip :=
  congrArg Ledger.skip alike

theorem declare (name : String) {expansion otherExpansion : Signature}
    (expansionsAlike : expansion.Alike otherExpansion) :
    (ledger.declare name expansion).Alike (other.declare name otherExpansion) := by
  rw [Alike, canonical_declare, canonical_declare, alike, expansionsAlike]

end Alike

end Ledger

/-- References of a known kind stand for nodes that are written alike. -/
structure StandAlike (known : String → Prop)
    (body otherBody : String → Except Failure (Node String)) : Prop where
  closed : ∀ reference node, known reference → body reference = .ok node →
    ∀ inside ∈ node.keys, known inside
  stands : ∀ reference, known reference →
    Outcome.Matches Node.Alike (body reference) (otherBody reference)

/-- References of a known kind that stand for nothing are refused for the same reason. -/
def RefuseAlike (known : String → Prop) (body otherBody : String → Except Failure (Node String)) :
    Prop :=
  ∀ reference cause otherCause, known reference → body reference = .error cause →
    otherBody reference = .error otherCause → otherCause = cause

section Alike

variable {known : String → Prop} {body otherBody : String → Except Failure (Node String)}
  {ledger after : Ledger} {references : List String} (bodies : StandAlike known body otherBody)

include bodies

theorem StandAlike.exists_node
    {reference : String} {node : Node String} (isKnown : known reference)
    (stands : body reference = .ok node) :
    ∃ otherNode, otherBody reference = .ok otherNode ∧ node.Alike otherNode := by
  have matched := bodies.stands reference isKnown
  rw [stands] at matched
  exact matched.exists_of_ok

/-- Visiting the same references gives signatures that are written alike. -/
theorem Visits.alike
    {signatures : List Signature} (visited : Visits body ledger references signatures after)
    (allKnown : ∀ reference ∈ references, known reference) {other : Ledger}
    (alike : ledger.Alike other) :
    ∃ others otherAfter, Visits otherBody other references others otherAfter ∧
      others.map Node.canonical = signatures.map Node.canonical ∧ after.Alike otherAfter := by
  induction visited generalizing other with
  | done => exact ⟨[], other, .done other, rfl, alike⟩
  | @again ledger after reference name rest signatures named _ inductionHypothesis =>
      have restKnown := fun other isRest => allKnown other (List.mem_cons_of_mem _ isRest)
      obtain ⟨others, otherAfter, visited, sameOthers, alikeAfter⟩ :=
        inductionHypothesis restKnown alike
      refine ⟨.lazy name :: others, otherAfter, .again ((alike.nameOf?_eq _).trans named) visited,
        ?_, alikeAfter⟩
      rw [List.map_cons, List.map_cons, sameOthers]
  | @first ledger expanded after reference name rest node parts signatures unnamed minted stands
      _ _ inside later =>
      have isKnown := allKnown reference List.mem_cons_self
      have restKnown := fun other isRest => allKnown other (List.mem_cons_of_mem _ isRest)
      obtain ⟨otherNode, otherStands, nodesAlike⟩ := bodies.exists_node isKnown stands
      obtain ⟨otherParts, otherExpanded, visitedInside, sameParts, alikeExpanded⟩ :=
        inside (bodies.closed reference node isKnown stands) (alike.claim reference name)
      rw [← nodesAlike.keys_eq] at visitedInside
      have filledAlike := nodesAlike.fill sameParts
      obtain ⟨others, otherAfter, visitedLater, sameOthers, alikeAfter⟩ :=
        later restKnown (alikeExpanded.declare name filledAlike)
      refine ⟨otherNode.fill otherParts :: others, otherAfter,
        .first ((alike.nameOf?_eq _).trans unnamed) (alike.nextName_eq.trans minted) otherStands
          visitedInside visitedLater, ?_, alikeAfter⟩
      rw [List.map_cons, List.map_cons, sameOthers, filledAlike]

/-- Visiting the same references breaks off at the same place, and for the same reason if references
are refused alike. -/
theorem Breaks.alike
    {failure : Failure} (broken : Breaks body ledger references failure after)
    (allKnown : ∀ reference ∈ references, known reference) {other : Ledger}
    (alike : ledger.Alike other) :
    ∃ otherFailure otherAfter, Breaks otherBody other references otherFailure otherAfter ∧
      after.Alike otherAfter ∧ (RefuseAlike known body otherBody → otherFailure = failure) := by
  induction broken generalizing other with
  | nameless unnamed tooLong =>
      exact ⟨_, _, .nameless ((alike.nameOf?_eq _).trans unnamed) (alike.nextName_eq.trans tooLong),
        alike.skip, fun _ => rfl⟩
  | @bodiless ledger reference name rest failure unnamed minted faulty =>
      have isKnown := allKnown reference List.mem_cons_self
      have matched := bodies.stands reference isKnown
      rw [faulty] at matched
      obtain ⟨otherFailure, otherFaulty⟩ := matched.exists_of_error
      exact ⟨otherFailure, _, .bodiless ((alike.nameOf?_eq _).trans unnamed)
        (alike.nextName_eq.trans minted) otherFaulty, alike.claim reference name,
        fun refuse => refuse reference _ _ isKnown faulty otherFaulty⟩
  | @inside ledger after reference name rest node failure unnamed minted stands _
      inductionHypothesis =>
      have isKnown := allKnown reference List.mem_cons_self
      obtain ⟨otherNode, otherStands, nodesAlike⟩ := bodies.exists_node isKnown stands
      obtain ⟨otherFailure, otherAfter, brokenInside, alikeAfter, sameCause⟩ :=
        inductionHypothesis (bodies.closed reference node isKnown stands)
          (alike.claim reference name)
      rw [← nodesAlike.keys_eq] at brokenInside
      exact ⟨otherFailure, otherAfter, .inside ((alike.nameOf?_eq _).trans unnamed)
        (alike.nextName_eq.trans minted) otherStands brokenInside, alikeAfter, sameCause⟩
  | afterAgain named _ inductionHypothesis =>
      have restKnown := fun other isRest => allKnown other (List.mem_cons_of_mem _ isRest)
      obtain ⟨otherFailure, otherAfter, broken, rest⟩ := inductionHypothesis restKnown alike
      exact ⟨otherFailure, otherAfter, .afterAgain ((alike.nameOf?_eq _).trans named) broken, rest⟩
  | @afterFirst ledger expanded after reference name rest node parts failure unnamed minted stands
      visited _ inductionHypothesis =>
      have isKnown := allKnown reference List.mem_cons_self
      have restKnown := fun other isRest => allKnown other (List.mem_cons_of_mem _ isRest)
      obtain ⟨otherNode, otherStands, nodesAlike⟩ := bodies.exists_node isKnown stands
      obtain ⟨otherParts, otherExpanded, visitedInside, sameParts, alikeExpanded⟩ :=
        visited.alike bodies (bodies.closed reference node isKnown stands)
          (alike.claim reference name)
      rw [← nodesAlike.keys_eq] at visitedInside
      obtain ⟨otherFailure, otherAfter, broken, rest⟩ :=
        inductionHypothesis restKnown (alikeExpanded.declare name (nodesAlike.fill sameParts))
      exact ⟨otherFailure, otherAfter, .afterFirst ((alike.nameOf?_eq _).trans unnamed)
        (alike.nextName_eq.trans minted) otherStands visitedInside broken, rest⟩

/-- Rendering nodes that are written alike any number of times gives signatures that are written
alike, and fails in the same renderings; for the same reasons if references are refused alike. -/
theorem Renders.alike
    {node otherNode : Node String} {outcomes : List (Except Failure Signature)}
    (renders : Renders body node ledger outcomes after) (nodesAlike : node.Alike otherNode)
    (allKnown : ∀ reference ∈ node.keys, known reference) {other : Ledger}
    (alike : ledger.Alike other) :
    ∃ others otherAfter, Renders otherBody otherNode other others otherAfter ∧
      List.Forall₂ (Outcome.Matches Node.Alike) outcomes others ∧ after.Alike otherAfter ∧
      (RefuseAlike known body otherBody →
        List.Forall₂ (Outcome.Coincides Node.Alike) outcomes others) := by
  induction renders generalizing other with
  | done => exact ⟨[], other, .done other, .nil, alike, fun _ => .nil⟩
  | signature visited _ inductionHypothesis =>
      obtain ⟨otherParts, otherMiddle, otherVisited, sameParts, alikeMiddle⟩ :=
        visited.alike bodies allKnown alike
      rw [← nodesAlike.keys_eq] at otherVisited
      obtain ⟨others, otherAfter, otherRenders, matched, alikeAfter, coinciding⟩ :=
        inductionHypothesis alikeMiddle
      have signaturesAlike := nodesAlike.fill sameParts
      exact ⟨_, otherAfter, .signature otherVisited otherRenders, .cons (.done signaturesAlike) matched,
        alikeAfter, fun refuse => .cons (.done signaturesAlike) (coinciding refuse)⟩
  | failure broken _ inductionHypothesis =>
      obtain ⟨otherFailure, otherMiddle, otherBroken, alikeMiddle, sameCause⟩ :=
        broken.alike bodies allKnown alike
      rw [← nodesAlike.keys_eq] at otherBroken
      obtain ⟨others, otherAfter, otherRenders, matched, alikeAfter, coinciding⟩ :=
        inductionHypothesis alikeMiddle
      refine ⟨_, otherAfter, .failure otherBroken otherRenders, .cons (.failed _ _) matched,
        alikeAfter, fun refuse => .cons ?_ (coinciding refuse)⟩
      rw [sameCause refuse]
      exact .failed _

end Alike

end SchemaSignature
