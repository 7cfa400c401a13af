import SchemaSignature.Proofs.Document.DistinctKeys
import SchemaSignature.Proofs.Document.Sessions
import SchemaSignature.Proofs.Naming.Appearances

/-!
The references of a document and its table of declarations. The references that appear in a rendering
are those that are met when the document is drafted, and the table has one entry for each of them.
-/

namespace SchemaSignature.Document

variable {root : Json} {appearances : Appearances}

/-! ## The references that appear are met -/

theorem isMet_of_mem_references
    {seen : List String} (follows : appearances.Follows (body root) seen)
    (headsMet : ∀ reference ∈ appearances.heads, IsMet root reference) :
    ∀ reference ∈ appearances.references, IsMet root reference := by
  induction appearances generalizing seen with
  | none =>
      intro reference appears
      cases appears
  | again head later inductionHypothesis =>
      intro reference appears
      rcases List.mem_cons.mp appears with isHead | isLater
      · exact isHead ▸ headsMet head List.mem_cons_self
      · exact inductionHypothesis follows.2
          (fun other isHead => headsMet other (List.mem_cons_of_mem _ isHead)) reference isLater
  | first head target inside later insideHypothesis laterHypothesis =>
      obtain ⟨_, stands, sameHeads, insideFollows, laterFollows⟩ := follows
      have headMet := headsMet head List.mem_cons_self
      have insideMet : ∀ reference ∈ inside.heads, IsMet root reference := by
        intro reference isHead
        rw [sameHeads] at isHead
        exact isMet_of_body headMet stands isHead
      intro reference appears
      rcases List.mem_cons.mp appears with isHead | isDeeper
      · exact isHead ▸ headMet
      · rcases List.mem_append.mp isDeeper with isInside | isLater
        · exact insideHypothesis insideFollows insideMet reference isInside
        · exact laterHypothesis laterFollows
            (fun other isHead => headsMet other (List.mem_cons_of_mem _ isHead)) reference isLater

/-! ## The references that are met appear -/

theorem keys_subset_references
    (follows : appearances.Follows (body root) []) {reference : String}
    (appears : reference ∈ appearances.references) :
    ∃ target, body root reference = .ok target ∧ target.keys ⊆ appearances.references := by
  have isOrdered := Appearances.mem_order follows appears
  obtain ⟨expansion, isExpansion⟩ := Appearances.exists_mem_expansions id isOrdered
  obtain ⟨target, inside, _, stands, heads, _, among, _⟩ :=
    Appearances.exists_of_mem_expansions follows isExpansion
  refine ⟨target, stands, ?_⟩
  rw [← heads]
  exact List.Subset.trans inside.heads_subset_references among

/-- Everything that is drafted is drafted as a part of the document or of what a reference that
appears points to. -/
theorem exists_host_of_reached
    {node : Node String} (drafted : (root.draft root).outcome = .ok node)
    (heads : appearances.heads = node.keys) (follows : appearances.Follows (body root) [])
    (distinct : root.DistinctKeys) {schema : Json} (reached : Reached root schema) :
    ∃ host hostNode, Within root host schema ∧ host.DistinctKeys ∧
      (root.draft host).outcome = .ok hostNode ∧ hostNode.keys ⊆ appearances.references := by
  -- A reference in a part of a host is a leaf of the host, so that it appears and has a node.
  induction reached with
  | document =>
      refine ⟨root, node, .refl root, distinct, drafted, ?_⟩
      rw [← heads]
      exact appearances.heads_subset_references
  | part _ isPart inductionHypothesis =>
      obtain ⟨host, hostNode, within, hostDistinct, hostDrafted, appear⟩ := inductionHypothesis
      exact ⟨host, hostNode, within.snoc isPart, hostDistinct, hostDrafted, appear⟩
  | @target schema value reference _ refers resolved inductionHypothesis =>
      obtain ⟨host, hostNode, within, hostDistinct, hostDrafted, appear⟩ := inductionHypothesis
      have appears := appear (mem_keys_of_within hostDrafted within hostDistinct.namesApart refers)
      obtain ⟨target, stands, targetAppear⟩ := keys_subset_references follows appears
      obtain ⟨pointed, resolvedPointed, targetDrafted⟩ := body_eq_ok_iff.mp stands
      rw [resolved] at resolvedPointed
      cases resolvedPointed
      have valueDistinct := Json.hereditary_distinctKeys.of_resolve distinct resolved
      exact ⟨value, target, .refl value, valueDistinct, targetDrafted, targetAppear⟩

/-- The references that appear in a rendering are those that are met. -/
theorem mem_references_iff_isMet
    {node : Node String} (drafted : (root.draft root).outcome = .ok node)
    (heads : appearances.heads = node.keys) (follows : appearances.Follows (body root) [])
    (distinct : root.DistinctKeys) {reference : String} :
    reference ∈ appearances.references ↔ IsMet root reference := by
  constructor
  · refine isMet_of_mem_references follows ?_ reference
    intro head isHead
    rw [heads] at isHead
    exact isMet_of_mem_keys .document drafted isHead
  · rintro ⟨schema, reached, refers⟩
    obtain ⟨host, hostNode, within, hostDistinct, hostDrafted, appear⟩ :=
      exists_host_of_reached drafted heads follows distinct reached
    exact appear (mem_keys_of_within hostDrafted within hostDistinct.namesApart refers)

/-! ## The table of declarations -/

theorem mem_declarations_of_leaf
    {node : Node String} {name : String → String} (heads : appearances.heads = node.keys)
    (follows : appearances.Follows (body root) []) {leaf : String}
    (isLeaf : leaf ∈ (node.fill (appearances.parts name)).keys ∨
      ∃ entry ∈ appearances.declarations name, leaf ∈ entry.2.keys) :
    leaf ∈ (appearances.declarations name).map Prod.fst := by
  have named : ∃ reference ∈ appearances.references, leaf = name reference := by
    rcases isLeaf with inSignature | ⟨_, isDeclared, inExpansion⟩
    · have sameLength : (appearances.parts name).length = node.keys.length := by
        rw [Appearances.length_parts, heads]
      rw [Node.keys_fill node _ sameLength] at inSignature
      exact Appearances.exists_of_mem_keys_parts follows inSignature
    · obtain ⟨entry, isEntry, rfl⟩ := List.mem_map.mp isDeclared
      obtain ⟨target, inside, before, _, insideHeads, insideFollows, among, expansion⟩ :=
        Appearances.exists_of_mem_expansions follows isEntry
      have sameLength : (inside.parts name).length = target.keys.length := by
        rw [Appearances.length_parts, insideHeads]
      rw [expansion, Node.keys_fill target _ sameLength] at inExpansion
      obtain ⟨reference, appears, same⟩ :=
        Appearances.exists_of_mem_keys_parts insideFollows inExpansion
      exact ⟨reference, among appears, same⟩
  obtain ⟨reference, appears, rfl⟩ := named
  have isOrdered := Appearances.mem_order follows appears
  rw [(Appearances.declarations_keys_perm name appearances).mem_iff]
  exact List.mem_map.mpr ⟨reference, isOrdered, rfl⟩

/-- The first rendering of a document with a fresh namer counts and declares the references that are
met. -/
theorem exists_references_of_renderings
    {root : Json} {stem : String} {start : Nat} {bind : Bool} {signature : Signature}
    (distinct : root.DistinctKeys)
    (rendered : (session root { stem := stem, count := start } bind 1).renderings =
      .ok [.ok signature]) :
    ∃ references : List String, references.Nodup ∧
      (∀ reference, reference ∈ references ↔ IsMet root reference) ∧
      (session root { stem := stem, count := start } bind 1).namer.count =
        start + references.length ∧
      (session root { stem := stem, count := start } bind 1).namer.declarations.length =
        references.length := by
  obtain ⟨node, after, drafted, renders, namerAfter⟩ := exists_renders_of_renderings rendered
  cases renders with
  | @signature _ middle _ parts _ visited later =>
      cases later
      obtain ⟨appearances, heads, follows, describes⟩ := visited.exists_appearances
      have described := describes (fun reference => (after.nameOf? reference).getD "")
        fun reference given named => by rw [named, Option.getD_some]
      have inOrder := Appearances.order_eq_eraseDups follows
      refine ⟨appearances.order, described.nodup_names.of_map _, fun reference => ?_, ?_, ?_⟩
      · rw [inOrder, List.mem_eraseDups]
        exact mem_references_iff_isMet drafted heads follows distinct
      · rw [namerAfter]
        exact described.count
      · have sameLength := (Appearances.declarations_keys_perm
          (fun reference => (after.nameOf? reference).getD "") appearances).length_eq
        rw [List.length_map, List.length_map] at sameLength
        rw [namerAfter, described.declarations_eq rfl, sameLength]

/-- The table of declarations is the graph of the references that are met. After the first rendering
of a document with a fresh namer, the references in their first appearances from left to right, the
expansions included, have the numbers from the first one on; the namer has counted them; their names
are the keys of the table, each once, in the order in which the expansions end; and no other name
occurs. -/
theorem declarations_eq_references
    {root : Json} {stem : String} {start : Nat} {bind : Bool} {signature : Signature}
    (distinct : root.DistinctKeys)
    (rendered : (session root { stem := stem, count := start } bind 1).renderings =
      .ok [.ok signature]) :
    ∃ (node : Node String) (appearances : Appearances) (name : String → String),
      (root.draft root).outcome = .ok node ∧
      appearances.heads = node.keys ∧
      appearances.Follows (body root) [] ∧
      signature = node.fill (appearances.parts name) ∧
      (∀ reference, reference ∈ appearances.references.eraseDups ↔ IsMet root reference) ∧
      appearances.references.eraseDups.map name =
        (List.range' (start + 1) appearances.references.eraseDups.length).map
          (fun number => stem ++ toString number) ∧
      (session root { stem := stem, count := start } bind 1).namer.count =
        start + appearances.references.eraseDups.length ∧
      (session root { stem := stem, count := start } bind 1).namer.declarations =
        appearances.declarations name ∧
      (appearances.declarations name).map Prod.fst = appearances.finished.map name ∧
      (appearances.finished.map name).Perm (appearances.references.eraseDups.map name) ∧
      (appearances.finished.map name).Nodup ∧
      ∀ leaf, (leaf ∈ signature.keys ∨
          ∃ entry ∈ appearances.declarations name, leaf ∈ entry.2.keys) →
        leaf ∈ (appearances.declarations name).map Prod.fst := by
  obtain ⟨node, after, drafted, renders, namerAfter⟩ := exists_renders_of_renderings rendered
  cases renders with
  | @signature _ middle _ parts _ visited later =>
      cases later
      obtain ⟨appearances, heads, follows, describes⟩ := visited.exists_appearances
      have described := describes (fun reference => (after.nameOf? reference).getD "")
        fun reference given named => by rw [named, Option.getD_some]
      have inOrder := Appearances.order_eq_eraseDups follows
      have perm := appearances.finished_perm_order.map fun reference =>
        (after.nameOf? reference).getD ""
      refine ⟨node, appearances, fun reference => (after.nameOf? reference).getD "", drafted, heads,
        follows, by rw [described.signatures], ?_, ?_, ?_, ?_, ?_, ?_, ?_, ?_⟩
      · intro reference
        rw [List.mem_eraseDups]
        exact mem_references_iff_isMet drafted heads follows distinct
      · rw [← inOrder]
        exact described.names_eq
      · rw [← inOrder, namerAfter]
        exact described.count
      · rw [namerAfter]
        exact described.declarations_eq rfl
      · rw [← Appearances.expansions_map_fst, Appearances.declarations, List.map_map, List.map_map]
        rfl
      · rw [← inOrder]
        exact perm
      · exact perm.nodup_iff.mpr described.nodup_names
      · intro leaf isLeaf
        rw [described.signatures] at isLeaf
        exact mem_declarations_of_leaf heads follows isLeaf

/-- A tree whose leaves are labelled with nested lists. -/
def labelledTree : Json :=
  .obj [("$ref", .str "#/definitions/tree"),
    ("definitions", .obj
      [("tree", .obj [("type", .str "object"), ("properties", .obj
          [("left", .obj [("$ref", .str "#/definitions/tree")]),
            ("label", .obj [("$ref", .str "#/definitions/label")])])]),
        ("label", .obj [("type", .str "array"),
          ("items", .obj [("$ref", .str "#/definitions/label")])])])]

theorem declarations_eq_references_labelledTree :
    labelledTree.DistinctKeys ∧
    (session labelledTree { stem := "$Ref", count := 2 } true 1).renderings =
      .ok [.ok (.fields .optional
        [("left", .lazy "$Ref3"), ("label", .container .array (.lazy "$Ref4"))])] ∧
    ∃ (appearances : Appearances) (name : String → String),
      (∀ reference, reference ∈ appearances.references.eraseDups ↔ IsMet labelledTree reference) ∧
      appearances.references.eraseDups.map name =
        (List.range' 3 appearances.references.eraseDups.length).map
          (fun number => "$Ref" ++ toString number) ∧
      (session labelledTree { stem := "$Ref", count := 2 } true 1).namer.count =
        2 + appearances.references.eraseDups.length ∧
      (session labelledTree { stem := "$Ref", count := 2 } true 1).namer.declarations =
        appearances.declarations name := by
  have distinct : labelledTree.DistinctKeys := by
    simp [labelledTree, Json.DistinctKeys, Json.DistinctKeysOfMembers]
  have rendered : (session labelledTree { stem := "$Ref", count := 2 } true 1).renderings =
      .ok [.ok (.fields .optional
        [("left", .lazy "$Ref3"), ("label", .container .array (.lazy "$Ref4"))])] := rfl
  obtain ⟨_, appearances, name, _, _, _, _, met, names, count, declarations, _⟩ :=
    declarations_eq_references distinct rendered
  exact ⟨distinct, rendered, appearances, name, met, names, count, declarations⟩

end SchemaSignature.Document
