import SchemaSignature.Proofs.Document.RelabelledForms
import SchemaSignature.Proofs.Document.RenamedDrafts
import SchemaSignature.Proofs.Document.Sessions

/-!
Sessions of a document and of a relabelling. The keys of definitions, their order, and definitions
that no reference leads to make no difference: the renderings have the same signatures, the same ones
fail, and the namer ends in the same state, with the same declarations.
-/

namespace SchemaSignature.Document

theorem Reachable.subschema
    {root schema subschema : Json} (reachable : Reachable root schema)
    (isPart : subschema ∈ (root.form schema).subschemas) : Reachable root subschema := by
  cases schema with
  | obj keywords => exact reachable.part (Form.holds_of_mem_subschemas isPart)
  | bool value => cases value <;> cases isPart
  | _ => cases isPart

theorem Reachable.within
    {root schema inner : Json} (reachable : Reachable root schema)
    (within : Within root schema inner) : Reachable root inner := by
  induction within with
  | refl => exact reachable
  | part isPart _ inductionHypothesis => exact inductionHypothesis (reachable.subschema isPart)

/-- The leaves of the draft of a reachable schema are references of reachable schemas. -/
theorem refers_of_mem_keys
    {root schema : Json} (reachable : Reachable root schema) {node : Node String}
    (drafted : (root.draft schema).outcome = .ok node) {reference : String}
    (isKey : reference ∈ node.keys) : Refers root reference := by
  obtain ⟨inner, within, refers⟩ := exists_within_of_mem_keys drafted isKey
  have innerReachable := reachable.within within
  cases inner with
  | obj keywords => exact ⟨keywords, innerReachable, (Form.found_of_mem_targets refers).1⟩
  | bool value => cases value <;> cases refers
  | _ => cases refers

theorem Refers.reachable
    {root value : Json} {reference : String} (refers : Refers root reference)
    (resolved : Pointer.resolve root reference = .ok value) : Reachable root value := by
  obtain ⟨keywords, reachable, found⟩ := refers
  exact reachable.target found resolved

theorem Reachable.references_subset
    {root schema : Json} (reachable : Reachable root schema) : schema.references ⊆ root.references := by
  have hereditary := Json.hereditary_references root.references
  induction reachable with
  | document => exact List.Subset.refl _
  | part _ held inductionHypothesis => exact hereditary.of_holds inductionHypothesis held
  | target _ _ resolved _ => exact hereditary.of_resolve (List.Subset.refl _) resolved

theorem Refers.mem_references
    {root : Json} {reference : String} (refers : Refers root reference) :
    reference ∈ root.references := by
  obtain ⟨keywords, reachable, found⟩ := refers
  have isMember := Json.mem_of_member? found
  exact reachable.references_subset (Json.mem_references_of_mem_members isMember)

/-- A document is relabelled if this can be seen at the only reference that it has. -/
theorem relabels_of_one
    {rename : String → String} {root other : Json} {key : String}
    (only : ∀ reference ∈ root.references, reference = Pointer.definition key)
    (document : other.withoutDefinitions = root.withoutDefinitions.renamed rename .schema)
    (definition : other.definition? (rename key) =
      (root.definition? key).map (Json.renamed rename .schema)) :
    Relabels rename root other where
  spelled reference refers := ⟨key, only reference refers.mem_references⟩
  document := document
  definitions := by
    intro given refers
    have sameKey := Pointer.definition_injective (only _ refers.mem_references)
    rw [sameKey]
    exact definition

section Relabelling

variable {rename : String → String} {root other : Json} (relabels : Relabels rename root other)
  (keyed : root.KeysDefinitions) (otherKeyed : other.KeysDefinitions)
  (apart : Apart rename (Mentions root))

include relabels keyed otherKeyed apart

/-- Corresponding schemas have the same draft up to the renaming of references. -/
theorem Relabels.draft
    {schema otherSchema : Json} (reachable : Reachable root schema)
    (corresponds : Corresponds rename root other schema otherSchema) :
    Form.Agree (Pointer.renamed rename) (root.draft schema).outcome
      (other.draft otherSchema).outcome := by
  induction schema using Json.descent_induction root generalizing otherSchema with
  | step schema inductionHypothesis =>
      have renamed := relabels.form keyed otherKeyed apart reachable corresponds
      rw [Json.draft_eq, Json.draft_eq]
      refine Form.assemble_renamed _ renamed ?_
      intro subschema isPart
      exact inductionHypothesis subschema isPart (reachable.subschema isPart) (.renamed subschema)

theorem Relabels.renames :
    Renames (Pointer.renamed rename) (Refers root) (body root) (body other) where
  apart one second refers otherRefers same :=
    apart.renamed_inj one second (Or.inl refers) (Or.inl otherRefers) same
  closed := by
    intro reference node refers stands inside isKey
    obtain ⟨schema, resolved, drafted⟩ := body_eq_ok_iff.mp stands
    exact refers_of_mem_keys (refers.reachable resolved) drafted isKey
  stands := by
    intro reference refers
    unfold body
    rcases (relabels.resolve keyed otherKeyed refers).outcomes with
      ⟨_, _, failed, otherFailed⟩ | ⟨schema, _, resolved, otherResolved, rfl⟩
    · rw [failed, otherFailed]
      exact .failed _ _
    · rw [resolved, otherResolved]
      exact relabels.draft keyed otherKeyed apart (refers.reachable resolved) (.renamed schema)

end Relabelling

/-- Two sessions agree if both documents are refused, or the same renderings succeed, with the same
signatures; and if their namers end in the same state. -/
def Session.Agrees (one other : Session) : Prop :=
  Outcome.Matches (List.Forall₂ (Outcome.Matches Eq)) one.renderings other.renderings ∧
    other.namer = one.namer

/-- A session does not depend on the keys and the order of definitions, nor on definitions that are
not reachable, as long as references that are mentioned are told apart and definitions are found by
key. -/
theorem session_agrees
    {rename : String → String} {root other : Json} (relabels : Relabels rename root other)
    (keyed : root.KeysDefinitions) (otherKeyed : other.KeysDefinitions)
    (apart : Apart rename (Mentions root)) (namer : Namer) (bind : Bool) (count : Nat) :
    (session root namer bind count).Agrees (session other namer bind count) := by
  have drafts := relabels.draft keyed otherKeyed apart .document .document
  have renames := relabels.renames keyed otherKeyed apart
  rcases drafts.outcomes with
    ⟨failure, otherFailure, failed, otherFailed⟩ | ⟨node, _, drafted, otherDrafted, rfl⟩
  · refine ⟨?_, ?_⟩
    · rw [renderings_of_draft_error failed, renderings_of_draft_error otherFailed]
      exact .failed _ _
    · rw [session_namer_of_draft_error failed, session_namer_of_draft_error otherFailed]
  · obtain ⟨outcomes, after, renders, sameLength, rendered, namerAfter⟩ :=
      renders_of_draft_ok drafted namer bind count
    obtain ⟨otherOutcomes, otherAfter, otherRenders, otherLength, otherRendered, otherNamerAfter⟩ :=
      renders_of_draft_ok otherDrafted namer bind count
    have known : ∀ reference ∈ node.keys, Refers root reference :=
      fun reference isKey => refers_of_mem_keys .document drafted isKey
    have start : Ledger.Apart (Refers root) { namer := namer } :=
      ⟨List.nodup_nil, fun _ impossible => by cases impossible⟩
    obtain ⟨renamed, rendersRenamed, matched⟩ := renders.renamed renames known start
    have sameCount : renamed.length = otherOutcomes.length := by
      rw [← matched.length_eq, sameLength, otherLength]
    obtain ⟨rfl, rfl⟩ := otherRenders.unique rendersRenamed sameCount
    refine ⟨?_, ?_⟩
    · rw [rendered, otherRendered]
      exact .done matched
    · rw [namerAfter, otherNamerAfter]
      rfl

/-! ## A relabelled tree -/

/-- A tree of arrays, with a definition under a key that has to be escaped. -/
def tree : Json :=
  .obj [("anyOf", .arr [.obj [("$ref", .str "#/$defs/a~1b")], .obj [("type", .str "null")]]),
    ("$defs", .obj [
      ("a/b", .obj [("type", .str "array"), ("items", .obj [("$ref", .str "#/$defs/a~1b")])]),
      ("unused", .int 5)])]

/-- The tree with a tilde in front of the key, and other definitions that are not used. -/
def relabelledTree : Json :=
  .obj [
    ("$defs", .obj [("unused", .obj [("$ref", .str "#")]), ("more", .null),
      ("~a/b", .obj [("type", .str "array"), ("items", .obj [("$ref", .str "#/$defs/~0a~1b")])])]),
    ("anyOf", .arr [.obj [("$ref", .str "#/$defs/~0a~1b")], .obj [("type", .str "null")]])]

theorem prepend_injective (front : String) : Function.Injective (front ++ ·) := by
  intro key other same
  have sameCharacters := congrArg String.toList same
  simp only [String.toList_append] at sameCharacters
  exact String.toList_inj.mp (List.append_cancel_left sameCharacters)

theorem apart_of_injective
    {rename : String → String} (injective : Function.Injective rename) (kind : String → Prop) :
    Apart rename kind :=
  fun _ _ _ _ same => injective same

theorem session_agrees_tree :
    Relabels ("~" ++ ·) tree relabelledTree ∧ tree.KeysDefinitions ∧
      relabelledTree.KeysDefinitions ∧ Apart ("~" ++ ·) (Mentions tree) ∧
      (session tree Namer.standard true 2).Agrees (session relabelledTree Namer.standard true 2) := by
  have only : ∀ reference ∈ tree.references, reference = Pointer.definition "a/b" := by
    have listed : tree.references = List.replicate 2 (Pointer.definition "a/b") := rfl
    intro reference isListed
    rw [listed] at isListed
    exact List.eq_of_mem_replicate isListed
  have relabels : Relabels ("~" ++ ·) tree relabelledTree := relabels_of_one only rfl rfl
  have keyed : tree.KeysDefinitions := fun _ impossible => by cases impossible
  have otherKeyed : relabelledTree.KeysDefinitions := fun _ impossible => by cases impossible
  have apart : Apart ("~" ++ ·) (Mentions tree) := apart_of_injective (prepend_injective "~") _
  exact ⟨relabels, keyed, otherKeyed, apart,
    session_agrees relabels keyed otherKeyed apart Namer.standard true 2⟩

/-! ## Where keys matter -/

/-- A document with a list of one definition, which it refers to as one with a key. -/
def listedDefinition (key : String) : Json :=
  .obj [("$ref", .str (Pointer.definition key)), ("$defs", .arr [.obj [("type", .str "string")]])]

/-- A choice with one member. Its tag is the one that is mapped to the reference; if there is none it
is looked up in the definition, which does not declare a valid one. -/
def mappedChoice (key : String) : Json :=
  .obj [("oneOf", .arr [.obj [("$ref", .str (Pointer.definition key))]]),
    ("discriminator", .obj [("propertyName", .str "kind"),
      ("mapping", .obj [("tag", .str "#/$defs/Z")])]),
    ("$defs", .obj [(key, .obj [("properties", .obj [("kind", .obj [("enum", .int 5)])])])])]

/-- Gives the key `Z` to one definition. -/
def renameA (key : String) : String :=
  if key = "A" then "Z" else key

/-- Keys matter if they are places in a list of definitions; and they do if a reference becomes one
that a discriminator maps a tag to although nothing refers to it. -/
theorem listed_or_mapped_not_agrees :
    (Relabels ("a" ++ ·) (listedDefinition "0") (listedDefinition "a0") ∧
      Apart ("a" ++ ·) (Mentions (listedDefinition "0")) ∧
      ¬(session (listedDefinition "0") Namer.standard true 2).Agrees
        (session (listedDefinition "a0") Namer.standard true 2)) ∧
    Relabels renameA (mappedChoice "A") (mappedChoice "Z") ∧
      (mappedChoice "A").KeysDefinitions ∧ (mappedChoice "Z").KeysDefinitions ∧
      Apart renameA (Refers (mappedChoice "A")) ∧
      ¬(session (mappedChoice "A") Namer.standard true 2).Agrees
        (session (mappedChoice "Z") Namer.standard true 2) := by
  have onlyListed : ∀ reference ∈ (listedDefinition "0").references,
      reference = Pointer.definition "0" :=
    fun reference isListed => List.mem_singleton.mp isListed
  have onlyMember : ∀ reference ∈ (mappedChoice "A").references,
      reference = Pointer.definition "A" :=
    fun reference isListed => List.mem_singleton.mp isListed
  have keyed : (mappedChoice "A").KeysDefinitions := fun _ impossible => by cases impossible
  have otherKeyed : (mappedChoice "Z").KeysDefinitions := fun _ impossible => by cases impossible
  refine ⟨⟨relabels_of_one onlyListed rfl rfl, apart_of_injective (prepend_injective "a") _, ?_⟩,
    relabels_of_one onlyMember rfl rfl, keyed, otherKeyed, ?_, ?_⟩
  · rintro ⟨matched, _⟩
    cases matched
  · intro key other refers otherRefers _
    have isA := Pointer.definition_injective (onlyMember _ refers.mem_references)
    have otherIsA := Pointer.definition_injective (onlyMember _ otherRefers.mem_references)
    rw [isA, otherIsA]
  · rintro ⟨matched, _⟩
    cases matched

end SchemaSignature.Document
