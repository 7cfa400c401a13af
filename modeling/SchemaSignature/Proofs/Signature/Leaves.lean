import Mathlib.Data.List.Forall2
import SchemaSignature.Signature.Node

/-!
The lazy leaves of a node as a list, from left to right. A node is filled by putting one tree in the
place of each leaf; the layers of a filled node are the filled parts of the node.
-/

namespace SchemaSignature.Node

variable {key other : Type}

theorem keysOfMembers_eq_flatMap (members : List (Node key)) :
    keysOfMembers members = members.flatMap keys := by
  induction members with
  | nil => rfl
  | cons first rest inductionHypothesis =>
      rw [keysOfMembers, inductionHypothesis, List.flatMap_cons]

theorem keysOfEntries_eq_flatMap (entries : List (String × Node key)) :
    keysOfEntries entries = entries.flatMap fun entry => keys entry.2 := by
  induction entries with
  | nil => rfl
  | cons first rest inductionHypothesis =>
      rw [keysOfEntries, inductionHypothesis, List.flatMap_cons]

mutual

/-- The node with the given trees in the places of its lazy leaves, from left to right. There has to
be a tree for every leaf. -/
def fill : Node key → List (Node other) → Node other
  | .primitive kind, _ => .primitive kind
  | .literals values, _ => .literals values
  | .fields presence entries, parts => .fields presence (fillEntries entries parts)
  | .container kind element, parts => .container kind (fill element parts)
  | .group kind members, parts => .group kind (fillMembers members parts)
  | .lazy _, parts => parts.headD (.made "")
  | .made text, _ => .made text
  | .watched name, _ => .made name

def fillEntries : List (String × Node key) → List (Node other) → List (String × Node other)
  | [], _ => []
  | (name, node) :: rest, parts =>
      (name, fill node (parts.take (keys node).length)) ::
        fillEntries rest (parts.drop (keys node).length)

def fillMembers : List (Node key) → List (Node other) → List (Node other)
  | [], _ => []
  | node :: rest, parts =>
      fill node (parts.take (keys node).length) ::
        fillMembers rest (parts.drop (keys node).length)

end

theorem fillEntries_append
    (name : String) (node : Node key) (rest : List (String × Node key))
    {parts : List (Node other)} (laterParts : List (Node other))
    (sameLength : parts.length = (keys node).length) :
    fillEntries ((name, node) :: rest) (parts ++ laterParts) =
      (name, fill node parts) :: fillEntries rest laterParts := by
  rw [fillEntries, ← sameLength, List.take_left, List.drop_left]

theorem fillMembers_append
    (node : Node key) (rest : List (Node key))
    {parts : List (Node other)} (laterParts : List (Node other))
    (sameLength : parts.length = (keys node).length) :
    fillMembers (node :: rest) (parts ++ laterParts) =
      fill node parts :: fillMembers rest laterParts := by
  rw [fillMembers, ← sameLength, List.take_left, List.drop_left]

/-- A list with one part for each leaf of two lists of leaves falls into the parts for either. -/
theorem exists_parts_append
    {left right : List key} {parts : List (Node other)}
    (sameLength : parts.length = (left ++ right).length) :
    ∃ leftParts rightParts, parts = leftParts ++ rightParts ∧
      leftParts.length = left.length ∧ rightParts.length = right.length := by
  rw [List.length_append] at sameLength
  refine ⟨parts.take left.length, parts.drop left.length,
    (List.take_append_drop _ _).symm, ?_, ?_⟩
  · rw [List.length_take]
    omega
  · rw [List.length_drop]
    omega

mutual

/-- The leaves of a filled node are those of the trees that it is filled with. -/
theorem keys_fill :
    (node : Node key) → (parts : List (Node other)) → parts.length = (keys node).length →
      keys (fill node parts) = parts.flatMap keys
  | .primitive _, parts, sameLength | .literals _, parts, sameLength
  | .made _, parts, sameLength | .watched _, parts, sameLength => by
      rw [List.length_eq_zero_iff.mp sameLength]
      simp only [fill, keys, List.flatMap_nil]
  | .fields _ entries, parts, sameLength => by
      simp only [fill, keys]
      exact keysOfEntries_fillEntries entries parts (by simpa only [keys] using sameLength)
  | .container _ element, parts, sameLength => by
      simp only [fill, keys]
      exact keys_fill element parts (by simpa only [keys] using sameLength)
  | .group _ members, parts, sameLength => by
      simp only [fill, keys]
      exact keysOfMembers_fillMembers members parts (by simpa only [keys] using sameLength)
  | .lazy _, parts, sameLength => by
      obtain ⟨part, rfl⟩ := List.length_eq_one_iff.mp sameLength
      simp only [fill, List.headD_cons, List.flatMap_singleton]

theorem keysOfEntries_fillEntries :
    (entries : List (String × Node key)) → (parts : List (Node other)) →
      parts.length = (keysOfEntries entries).length →
      keysOfEntries (fillEntries entries parts) = parts.flatMap keys
  | [], parts, sameLength => by
      rw [List.length_eq_zero_iff.mp sameLength]
      rfl
  | (name, node) :: rest, parts, sameLength => by
      obtain ⟨ownParts, laterParts, rfl, ownLength, laterLength⟩ := exists_parts_append sameLength
      rw [fillEntries_append name node rest laterParts ownLength, keysOfEntries,
        keys_fill node ownParts ownLength, keysOfEntries_fillEntries rest laterParts laterLength,
        List.flatMap_append]

theorem keysOfMembers_fillMembers :
    (members : List (Node key)) → (parts : List (Node other)) →
      parts.length = (keysOfMembers members).length →
      keysOfMembers (fillMembers members parts) = parts.flatMap keys
  | [], parts, sameLength => by
      rw [List.length_eq_zero_iff.mp sameLength]
      rfl
  | node :: rest, parts, sameLength => by
      obtain ⟨ownParts, laterParts, rfl, ownLength, laterLength⟩ := exists_parts_append sameLength
      rw [fillMembers_append node rest laterParts ownLength, keysOfMembers,
        keys_fill node ownParts ownLength, keysOfMembers_fillMembers rest laterParts laterLength,
        List.flatMap_append]

end

theorem mem_keys_fill
    {node : Node key} {parts : List (Node other)} (sameLength : parts.length = node.keys.length)
    {leaf : other} : leaf ∈ (node.fill parts).keys ↔ ∃ part ∈ parts, leaf ∈ part.keys := by
  rw [keys_fill node parts sameLength, List.mem_flatMap]

/-! ## Leaves that stand for trees -/

/-- A tree is the node with, in the place of each leaf, a tree that the leaf stands for. -/
def FillsTo (standsFor : key → Node other → Prop) (node : Node key) (tree : Node other) : Prop :=
  ∃ parts, List.Forall₂ standsFor node.keys parts ∧ tree = node.fill parts

theorem exists_of_mem_right
    {whole part : Type} {related : whole → part → Prop} {wholes : List whole} {parts : List part}
    (each : List.Forall₂ related wholes parts) {inner : part} (isPart : inner ∈ parts) :
    ∃ outer ∈ wholes, related outer inner := by
  induction each with
  | nil => cases isPart
  | cons first _ inductionHypothesis =>
      rcases List.mem_cons.mp isPart with isFirst | later
      · exact ⟨_, List.mem_cons_self, isFirst ▸ first⟩
      · obtain ⟨outer, isOuter, isRelated⟩ := inductionHypothesis later
        exact ⟨outer, List.mem_cons_of_mem _ isOuter, isRelated⟩

section Layers

variable {standsFor : key → Node other → Prop}

theorem fillsTo_lazy_iff {leaf : key} {tree : Node other} :
    FillsTo standsFor (.lazy leaf) tree ↔ standsFor leaf tree := by
  constructor
  · rintro ⟨parts, each, rfl⟩
    obtain ⟨part, _, stands, rest, rfl⟩ := List.forall₂_cons_left_iff.mp each
    exact stands
  · intro stands
    exact ⟨[tree], .cons stands .nil, rfl⟩

theorem FillsTo.container
    {kind : Container} {element : Node key} {tree : Node other}
    (filled : FillsTo standsFor (.container kind element) tree) :
    ∃ inner, tree = .container kind inner ∧ FillsTo standsFor element inner := by
  obtain ⟨parts, each, rfl⟩ := filled
  exact ⟨fill element parts, rfl, parts, each, rfl⟩

theorem forall₂_fillMembers
    (members : List (Node key)) {parts : List (Node other)}
    (each : List.Forall₂ standsFor (keysOfMembers members) parts) :
    List.Forall₂ (FillsTo standsFor) members (fillMembers members parts) := by
  induction members generalizing parts with
  | nil => exact .nil
  | cons node rest inductionHypothesis =>
      have own := List.forall₂_take (keys node).length each
      have later := List.forall₂_drop (keys node).length each
      rw [keysOfMembers, List.take_left] at own
      rw [keysOfMembers, List.drop_left] at later
      exact .cons ⟨_, own, rfl⟩ (inductionHypothesis later)

theorem forall₂_fillEntries
    (entries : List (String × Node key)) {parts : List (Node other)}
    (each : List.Forall₂ standsFor (keysOfEntries entries) parts) :
    List.Forall₂ (fun entry filled => entry.1 = filled.1 ∧ FillsTo standsFor entry.2 filled.2)
      entries (fillEntries entries parts) := by
  induction entries generalizing parts with
  | nil => exact .nil
  | cons entry rest inductionHypothesis =>
      obtain ⟨name, node⟩ := entry
      have own := List.forall₂_take (keys node).length each
      have later := List.forall₂_drop (keys node).length each
      rw [keysOfEntries, List.take_left] at own
      rw [keysOfEntries, List.drop_left] at later
      exact .cons ⟨rfl, _, own, rfl⟩ (inductionHypothesis later)

theorem FillsTo.group
    {kind : Grouping} {members : List (Node key)} {tree : Node other}
    (filled : FillsTo standsFor (.group kind members) tree) :
    ∃ inner, tree = .group kind inner ∧ List.Forall₂ (FillsTo standsFor) members inner := by
  obtain ⟨parts, each, rfl⟩ := filled
  exact ⟨fillMembers members parts, rfl, forall₂_fillMembers members each⟩

theorem FillsTo.fields
    {presence : Presence} {entries : List (String × Node key)} {tree : Node other}
    (filled : FillsTo standsFor (.fields presence entries) tree) :
    ∃ inner, tree = .fields presence inner ∧
      List.Forall₂ (fun entry filled => entry.1 = filled.1 ∧ FillsTo standsFor entry.2 filled.2)
        entries inner := by
  obtain ⟨parts, each, rfl⟩ := filled
  exact ⟨fillEntries entries parts, rfl, forall₂_fillEntries entries each⟩

end Layers

end SchemaSignature.Node
