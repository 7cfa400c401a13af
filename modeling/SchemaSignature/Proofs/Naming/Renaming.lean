import SchemaSignature.Proofs.Naming.Growth
import SchemaSignature.Proofs.Naming.Visits
import SchemaSignature.Proofs.Outcome

/-!
Names do not depend on how references are spelled. If references are renamed, with different ones
renamed differently, and each stands for the same node as before up to the renaming, the same
references are expanded at the same places, under the same names.
-/

namespace SchemaSignature

namespace Node

variable {key other last : Type} (rename : key → other)

theorem mapMembers_eq_map (members : List (Node key)) :
    mapMembers rename members = members.map (map rename) := by
  induction members with
  | nil => rfl
  | cons first rest inductionHypothesis =>
      rw [mapMembers, inductionHypothesis, List.map_cons]

theorem mapEntries_eq_map (entries : List (String × Node key)) :
    mapEntries rename entries = entries.map (Prod.map id (map rename)) := by
  induction entries with
  | nil => rfl
  | cons first rest inductionHypothesis =>
      obtain ⟨name, node⟩ := first
      rw [mapEntries, inductionHypothesis, List.map_cons, Prod.map_apply, id]

mutual

theorem map_id : (node : Node key) → map id node = node
  | .primitive _ | .literals _ | .made _ | .watched _ | .lazy _ => by
      simp only [map, id]
  | .fields presence entries => by
      rw [map, mapEntries_id entries]
  | .container kind element => by
      rw [map, map_id element]
  | .group kind members => by
      rw [map, mapMembers_id members]

theorem mapEntries_id : (entries : List (String × Node key)) → mapEntries id entries = entries
  | [] => rfl
  | (name, node) :: rest => by
      rw [mapEntries, map_id node, mapEntries_id rest]

theorem mapMembers_id : (members : List (Node key)) → mapMembers id members = members
  | [] => rfl
  | node :: rest => by
      rw [mapMembers, map_id node, mapMembers_id rest]

end

mutual

theorem keys_map : (node : Node key) → keys (map rename node) = (keys node).map rename
  | .primitive _ | .literals _ | .made _ | .watched _ | .lazy _ => by
      simp only [map, keys, List.map_nil, List.map_cons]
  | .fields _ entries => by
      simp only [map, keys]
      exact keysOfEntries_mapEntries entries
  | .container _ element => by
      simp only [map, keys]
      exact keys_map element
  | .group _ members => by
      simp only [map, keys]
      exact keysOfMembers_mapMembers members

theorem keysOfEntries_mapEntries :
    (entries : List (String × Node key)) →
      keysOfEntries (mapEntries rename entries) = (keysOfEntries entries).map rename
  | [] => rfl
  | (_, node) :: rest => by
      rw [mapEntries, keysOfEntries, keysOfEntries, keys_map node, keysOfEntries_mapEntries rest,
        List.map_append]

theorem keysOfMembers_mapMembers :
    (members : List (Node key)) →
      keysOfMembers (mapMembers rename members) = (keysOfMembers members).map rename
  | [] => rfl
  | node :: rest => by
      rw [mapMembers, keysOfMembers, keysOfMembers, keys_map node, keysOfMembers_mapMembers rest,
        List.map_append]

end

mutual

/-- What a node is filled with does not depend on its keys. -/
theorem fill_map :
    (node : Node key) → (parts : List (Node last)) → fill (map rename node) parts = fill node parts
  | .primitive _, _ | .literals _, _ | .made _, _ | .watched _, _ | .lazy _, _ => by
      simp only [map, fill]
  | .fields _ entries, parts => by
      simp only [map, fill, fillEntries_mapEntries entries parts]
  | .container _ element, parts => by
      simp only [map, fill, fill_map element parts]
  | .group _ members, parts => by
      simp only [map, fill, fillMembers_mapMembers members parts]

theorem fillEntries_mapEntries :
    (entries : List (String × Node key)) → (parts : List (Node last)) →
      fillEntries (mapEntries rename entries) parts = fillEntries entries parts
  | [], _ => by simp only [mapEntries, fillEntries]
  | (_, node) :: rest, parts => by
      simp only [mapEntries, fillEntries, keys_map, List.length_map, fill_map node,
        fillEntries_mapEntries rest]

theorem fillMembers_mapMembers :
    (members : List (Node key)) → (parts : List (Node last)) →
      fillMembers (mapMembers rename members) parts = fillMembers members parts
  | [], _ => by simp only [mapMembers, fillMembers]
  | node :: rest, parts => by
      simp only [mapMembers, fillMembers, keys_map, List.length_map, fill_map node,
        fillMembers_mapMembers rest]

end

mutual

/-- Renaming the leaves of a filled node is renaming those of the parts. -/
theorem map_fill :
    (node : Node last) → (parts : List (Node key)) →
      map rename (fill node parts) = fill node (parts.map (map rename))
  | .primitive _, _ | .literals _, _ | .made _, _ | .watched _, _ => by
      simp only [fill, map]
  | .lazy _, parts => by
      cases parts with
      | nil => simp only [fill, List.headD_nil, map, List.map_nil]
      | cons part rest => simp only [fill, List.headD_cons, List.map_cons]
  | .fields _ entries, parts => by
      simp only [fill, map, mapEntries_fillEntries entries parts]
  | .container _ element, parts => by
      simp only [fill, map, map_fill element parts]
  | .group _ members, parts => by
      simp only [fill, map, mapMembers_fillMembers members parts]

theorem mapEntries_fillEntries :
    (entries : List (String × Node last)) → (parts : List (Node key)) →
      mapEntries rename (fillEntries entries parts) =
        fillEntries entries (parts.map (map rename))
  | [], _ => by simp only [fillEntries, mapEntries]
  | (_, node) :: rest, parts => by
      simp only [fillEntries, mapEntries, map_fill node, mapEntries_fillEntries rest,
        List.map_take, List.map_drop]

theorem mapMembers_fillMembers :
    (members : List (Node last)) → (parts : List (Node key)) →
      mapMembers rename (fillMembers members parts) =
        fillMembers members (parts.map (map rename))
  | [], _ => by simp only [fillMembers, mapMembers]
  | node :: rest, parts => by
      simp only [fillMembers, mapMembers, map_fill node, mapMembers_fillMembers rest,
        List.map_take, List.map_drop]

end

end Node

/-! ## Renamed names -/

/-- References of a known kind are renamed apart, and stand for the same nodes up to the renaming. -/
structure Renames (rename : String → String) (known : String → Prop)
    (body otherBody : String → Except Failure (Node String)) : Prop where
  apart : ∀ one other, known one → known other → rename one = rename other → one = other
  closed : ∀ reference node, known reference → body reference = .ok node →
    ∀ inside ∈ node.keys, known inside
  stands : ∀ reference, known reference →
    Outcome.Matches (fun node renamed => renamed = node.map rename) (body reference)
      (otherBody (rename reference))

namespace Ledger

def renamed (rename : String → String) (ledger : Ledger) : Ledger :=
  { ledger with names := ledger.names.map fun entry => (rename entry.1, entry.2) }

variable {rename : String → String} {known : String → Prop} {ledger : Ledger}

theorem renamed_claim (ledger : Ledger) (reference name : String) :
    (ledger.claim reference name).renamed rename =
      (ledger.renamed rename).claim (rename reference) name := by
  simp [renamed, claim]

theorem nameOf?_renamed
    (apart : ∀ one other, known one → known other → rename one = rename other → one = other)
    (allKnown : ∀ reference ∈ ledger.names.map Prod.fst, known reference) {reference : String}
    (isKnown : known reference) :
    (ledger.renamed rename).nameOf? (rename reference) = ledger.nameOf? reference := by
  obtain ⟨names, namer⟩ := ledger
  simp only [nameOf?, renamed] at allKnown ⊢
  induction names with
  | nil => rfl
  | cons first rest inductionHypothesis =>
      have firstKnown : known first.1 := allKnown first.1 List.mem_cons_self
      have restKnown := inductionHypothesis fun other later =>
        allKnown other (List.mem_cons_of_mem _ later)
      have sameTest : (rename reference == rename first.1) = (reference == first.1) := by
        rw [Bool.eq_iff_iff, beq_iff_eq, beq_iff_eq]
        exact ⟨apart reference first.1 isKnown firstKnown, congrArg rename⟩
      rw [List.map_cons, List.lookup_cons, List.lookup_cons, sameTest, restKnown]

end Ledger

section Renaming

variable {rename : String → String} {known : String → Prop}
  {body otherBody : String → Except Failure (Node String)} {ledger after : Ledger}
  {references : List String} (renames : Renames rename known body otherBody)

include renames

theorem Renames.exists_node
    {reference : String} {node : Node String} (isKnown : known reference)
    (stands : body reference = .ok node) :
    otherBody (rename reference) = .ok (node.map rename) := by
  have matched := renames.stands reference isKnown
  rw [stands] at matched
  obtain ⟨renamed, same, rfl⟩ := matched.exists_of_ok
  exact same

/-- Visiting renamed references gives the same signatures. -/
theorem Visits.renamed
    {signatures : List Signature} (visited : Visits body ledger references signatures after)
    (allKnown : ∀ reference ∈ references, known reference) (apart : ledger.Apart known) :
    Visits otherBody (ledger.renamed rename) (references.map rename) signatures
      (after.renamed rename) := by
  induction visited with
  | done => exact .done _
  | again named _ inductionHypothesis =>
      have isKnown := allKnown _ List.mem_cons_self
      have restKnown := fun other isRest => allKnown other (List.mem_cons_of_mem _ isRest)
      have sameName := Ledger.nameOf?_renamed renames.apart apart.known isKnown
      exact .again (sameName.trans named) (inductionHypothesis restKnown apart)
  | @first ledger expanded after reference name rest node parts signatures unnamed minted stands
      visited _ inside later =>
      have isKnown := allKnown reference List.mem_cons_self
      have restKnown := fun other isRest => allKnown other (List.mem_cons_of_mem _ isRest)
      have insideKnown := renames.closed reference node isKnown stands
      have claimedApart : (ledger.claim reference name).Apart known :=
        (Ledger.Step.claim isKnown unnamed minted).apart apart
      have expandedApart : (expanded.declare name (node.fill parts)).Apart known := by
        have grown := (visited.grows renames.closed insideKnown).apart claimedApart
        exact ⟨grown.once, grown.known⟩
      have visitsInside := inside insideKnown claimedApart
      rw [Ledger.renamed_claim, ← Node.keys_map] at visitsInside
      have visitsLater := later restKnown expandedApart
      rw [← Node.fill_map rename node parts] at visitsLater ⊢
      have sameName := Ledger.nameOf?_renamed renames.apart apart.known isKnown
      exact .first (sameName.trans unnamed) minted (renames.exists_node isKnown stands) visitsInside
        visitsLater

/-- Visiting renamed references breaks off at the same place. -/
theorem Breaks.renamed
    {failure : Failure} (broken : Breaks body ledger references failure after)
    (allKnown : ∀ reference ∈ references, known reference) (apart : ledger.Apart known) :
    ∃ otherFailure, Breaks otherBody (ledger.renamed rename) (references.map rename) otherFailure
      (after.renamed rename) := by
  induction broken with
  | nameless unnamed tooLong =>
      have isKnown := allKnown _ List.mem_cons_self
      have sameName := Ledger.nameOf?_renamed renames.apart apart.known isKnown
      exact ⟨_, .nameless (sameName.trans unnamed) tooLong⟩
  | @bodiless ledger reference name rest failure unnamed minted faulty =>
      have isKnown := allKnown _ List.mem_cons_self
      have matched := renames.stands reference isKnown
      rw [faulty] at matched
      obtain ⟨otherFailure, otherFaulty⟩ := matched.exists_of_error
      have sameName := Ledger.nameOf?_renamed renames.apart apart.known isKnown
      rw [Ledger.renamed_claim]
      exact ⟨otherFailure, .bodiless (sameName.trans unnamed) minted otherFaulty⟩
  | @inside ledger after reference name rest node failure unnamed minted stands _
      inductionHypothesis =>
      have isKnown := allKnown _ List.mem_cons_self
      obtain ⟨otherFailure, broken⟩ := inductionHypothesis
        (renames.closed reference node isKnown stands)
        ((Ledger.Step.claim isKnown unnamed minted).apart apart)
      rw [Ledger.renamed_claim, ← Node.keys_map] at broken
      have sameName := Ledger.nameOf?_renamed renames.apart apart.known isKnown
      exact ⟨otherFailure,
        .inside (sameName.trans unnamed) minted (renames.exists_node isKnown stands) broken⟩
  | afterAgain named _ inductionHypothesis =>
      have isKnown := allKnown _ List.mem_cons_self
      have restKnown := fun other isRest => allKnown other (List.mem_cons_of_mem _ isRest)
      obtain ⟨otherFailure, broken⟩ := inductionHypothesis restKnown apart
      have sameName := Ledger.nameOf?_renamed renames.apart apart.known isKnown
      exact ⟨otherFailure, .afterAgain (sameName.trans named) broken⟩
  | @afterFirst ledger expanded after reference name rest node parts failure unnamed minted stands
      visited _ inductionHypothesis =>
      have isKnown := allKnown reference List.mem_cons_self
      have restKnown := fun other isRest => allKnown other (List.mem_cons_of_mem _ isRest)
      have insideKnown := renames.closed reference node isKnown stands
      have claimedApart : (ledger.claim reference name).Apart known :=
        (Ledger.Step.claim isKnown unnamed minted).apart apart
      have expandedApart : (expanded.declare name (node.fill parts)).Apart known := by
        have grown := (visited.grows renames.closed insideKnown).apart claimedApart
        exact ⟨grown.once, grown.known⟩
      have visitsInside := visited.renamed renames insideKnown claimedApart
      rw [Ledger.renamed_claim, ← Node.keys_map] at visitsInside
      obtain ⟨otherFailure, broken⟩ := inductionHypothesis restKnown expandedApart
      rw [← Node.fill_map rename node parts] at broken
      have sameName := Ledger.nameOf?_renamed renames.apart apart.known isKnown
      exact ⟨otherFailure, .afterFirst (sameName.trans unnamed) minted
        (renames.exists_node isKnown stands) visitsInside broken⟩

/-- Rendering a renamed node any number of times gives the same signatures, and fails in the same
renderings. -/
theorem Renders.renamed
    {node : Node String} {outcomes : List (Except Failure Signature)}
    (renders : Renders body node ledger outcomes after)
    (allKnown : ∀ reference ∈ node.keys, known reference) (apart : ledger.Apart known) :
    ∃ others, Renders otherBody (node.map rename) (ledger.renamed rename) others
        (after.renamed rename) ∧
      List.Forall₂ (Outcome.Matches Eq) outcomes others := by
  induction renders with
  | done => exact ⟨[], .done _, .nil⟩
  | signature visited _ inductionHypothesis =>
      have grown := (visited.grows renames.closed allKnown).apart apart
      obtain ⟨others, renders, matched⟩ := inductionHypothesis grown
      have otherVisited := visited.renamed renames allKnown apart
      rw [← Node.keys_map] at otherVisited
      refine ⟨_, .signature otherVisited renders, .cons ?_ matched⟩
      rw [Node.fill_map]
      exact .done rfl
  | failure broken _ inductionHypothesis =>
      have grown := (broken.grows renames.closed allKnown).apart apart
      obtain ⟨others, renders, matched⟩ := inductionHypothesis grown
      obtain ⟨otherFailure, otherBroken⟩ := broken.renamed renames allKnown apart
      rw [← Node.keys_map] at otherBroken
      exact ⟨_, .failure otherBroken renders, .cons (.failed _ _) matched⟩

end Renaming

end SchemaSignature
