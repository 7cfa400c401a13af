import SchemaSignature.Proofs.Document.Sessions
import SchemaSignature.Proofs.Naming.Appearances
import SchemaSignature.Proofs.Signature.Unfolding

/-!
The meaning of a signature with names. A first rendering of a document and its table of declarations
unfold to the same tree as the document itself does when each reference is replaced by the node that
it stands for.
-/

namespace SchemaSignature

/-- The signature that a name has been declared to stand for. -/
def Namer.expansion? (namer : Namer) (name : String) : Option Signature :=
  namer.declarations.lookup name

/-- What a reference means: the node that it stands for, if there is one. -/
def meaning (body : String → Except Failure (Node String)) (reference : String) :
    Option (Node String) :=
  (body reference).toOption

theorem meaning_eq_some_iff
    {body : String → Except Failure (Node String)} {reference : String} {node : Node String} :
    meaning body reference = some node ↔ body reference = .ok node := by
  unfold meaning
  cases body reference with
  | ok stands => simp [Except.toOption]
  | error failure => simp [Except.toOption]

/-! ## Signatures that express nodes -/

section Expressing

variable {body : String → Except Failure (Node String)} {name : String → String}
  {known : List String}

/-- How a signature writes a reference: as its name, or written out with appearances of known
references inside. -/
inductive Writes (body : String → Except Failure (Node String)) (name : String → String)
    (known : List String) : String → Signature → Prop where
  | named {reference : String} (isKnown : reference ∈ known) :
      Writes body name known reference (.lazy (name reference))
  | written {reference : String} {target : Node String} {inside : Appearances}
      {before : List String}
      (stands : body reference = .ok target)
      (heads : inside.heads = target.keys)
      (follows : inside.Follows body before)
      (among : inside.references ⊆ known) :
      Writes body name known reference (target.fill (inside.parts name))

/-- A signature expresses a node: its references are written in the places of the leaves. -/
abbrev Expresses (body : String → Except Failure (Node String)) (name : String → String)
    (known : List String) : Node String → Signature → Prop :=
  Node.FillsTo (Writes body name known)

theorem forall₂_writes
    {appearances : Appearances} {before : List String}
    (follows : appearances.Follows body before) (among : appearances.references ⊆ known) :
    List.Forall₂ (Writes body name known) appearances.heads (appearances.parts name) := by
  induction appearances generalizing before with
  | none => exact .nil
  | again reference later inductionHypothesis =>
      have laterAmong : later.references ⊆ known :=
        fun other appears => among (List.mem_cons_of_mem _ appears)
      have isKnown : reference ∈ known := among List.mem_cons_self
      exact .cons (.named isKnown) (inductionHypothesis follows.2 laterAmong)
  | first reference target inside later _ laterHypothesis =>
      obtain ⟨_, stands, heads, insideFollows, laterFollows⟩ := follows
      have insideAmong : inside.references ⊆ known := fun other appears =>
        among (List.mem_cons_of_mem _ (List.mem_append_left _ appears))
      have laterAmong : later.references ⊆ known := fun other appears =>
        among (List.mem_cons_of_mem _ (List.mem_append_right _ appears))
      exact .cons (.written stands heads insideFollows insideAmong)
        (laterHypothesis laterFollows laterAmong)

theorem expresses_fill
    {node : Node String} {appearances : Appearances} {before : List String}
    (heads : appearances.heads = node.keys) (follows : appearances.Follows body before)
    (among : appearances.references ⊆ known) :
    Expresses body name known node (node.fill (appearances.parts name)) :=
  ⟨appearances.parts name, heads ▸ forall₂_writes follows among, rfl⟩

/-- A signature that expresses a constructor has that constructor. -/
theorem layer_of_expresses
    {node : Node String} {signature : Signature}
    (expresses : Expresses body name known node signature) (notLazy : ∀ leaf, node ≠ .lazy leaf) :
    Node.Layer (Expresses body name known) node signature := by
  cases node with
  | primitive kind =>
      obtain ⟨parts, _, rfl⟩ := expresses
      exact .primitive kind
  | literals values =>
      obtain ⟨parts, _, rfl⟩ := expresses
      exact .literals values
  | fields presence entries =>
      obtain ⟨inner, rfl, each⟩ := expresses.fields
      exact .fields each
  | container kind element =>
      obtain ⟨inner, rfl, isElement⟩ := expresses.container
      exact .container isElement
  | group kind members =>
      obtain ⟨inner, rfl, each⟩ := expresses.group
      exact .group each
  | lazy leaf => exact absurd rfl (notLazy leaf)
  | made text =>
      obtain ⟨parts, _, rfl⟩ := expresses
      exact .made text
  | watched text =>
      obtain ⟨parts, _, rfl⟩ := expresses
      exact .watched text

/-- A table of expansions has an entry for the name of every known reference, which expresses what
the reference stands for. -/
def Declares (expansion? : String → Option Signature) (body : String → Except Failure (Node String))
    (name : String → String) (known : List String) : Prop :=
  ∀ reference ∈ known, ∃ target expansion, body reference = .ok target ∧
    expansion? (name reference) = some expansion ∧ Expresses body name known target expansion

variable {expansion? : String → Option Signature}

/-- A chain of references in a node is matched by its signature, which has written out the links of
the chain or names them. -/
theorem exists_leads_of_expresses
    (declared : Declares expansion? body name known)
    {node shape : Node String} {signature : Signature}
    (expresses : Expresses body name known node signature)
    (leads : Node.Leads (meaning body) node shape) (notLazy : ∀ leaf, shape ≠ .lazy leaf) :
    ∃ otherShape, Node.Leads expansion? signature otherShape ∧
      Node.Layer (Expresses body name known) shape otherShape := by
  induction leads generalizing signature with
  | stop node => exact ⟨signature, .stop signature, layer_of_expresses expresses notLazy⟩
  | @follow reference node shape stands _ inductionHypothesis =>
      rw [meaning_eq_some_iff] at stands
      cases Node.fillsTo_lazy_iff.mp expresses with
      | named isKnown =>
          obtain ⟨target, expansion, standsTarget, found, expressesTarget⟩ :=
            declared reference isKnown
          rw [stands] at standsTarget
          cases standsTarget
          obtain ⟨otherShape, further, layer⟩ := inductionHypothesis expressesTarget notLazy
          exact ⟨otherShape, .follow found further, layer⟩
      | written standsTarget heads follows among =>
          rw [stands] at standsTarget
          cases standsTarget
          exact inductionHypothesis (expresses_fill heads follows among) notLazy

/-- What a signature has written out is a chain of references: at its end stands a reference that the
signature names, or a constructor. -/
theorem exists_end_of_written
    {inside : Appearances} {node : Node String} {before : List String}
    (heads : inside.heads = node.keys) (follows : inside.Follows body before)
    (among : inside.references ⊆ known) :
    ∃ last, (∀ shape, Node.Leads (meaning body) last shape → Node.Leads (meaning body) node shape) ∧
      ((∃ reference ∈ known, last = .lazy reference ∧
          node.fill (inside.parts name) = .lazy (name reference)) ∨
        Node.Layer (Expresses body name known) last (node.fill (inside.parts name))) := by
  induction inside generalizing node before with
  | none =>
      have notLazy : ∀ leaf, node ≠ .lazy leaf := by
        rintro leaf rfl
        cases heads
      exact ⟨node, fun _ leads => leads,
        Or.inr (layer_of_expresses (expresses_fill heads follows among) notLazy)⟩
  | again reference later _ =>
      by_cases isLazy : ∃ leaf, node = .lazy leaf
      · obtain ⟨leaf, rfl⟩ := isLazy
        have sameLeaf : reference = leaf := (List.cons.inj heads).1
        exact ⟨.lazy leaf, fun _ leads => leads,
          Or.inl ⟨reference, among List.mem_cons_self, by rw [sameLeaf], rfl⟩⟩
      · have notLazy : ∀ leaf, node ≠ .lazy leaf := fun leaf same => isLazy ⟨leaf, same⟩
        exact ⟨node, fun _ leads => leads,
          Or.inr (layer_of_expresses (expresses_fill heads follows among) notLazy)⟩
  | first reference target inside later insideHypothesis _ =>
      by_cases isLazy : ∃ leaf, node = .lazy leaf
      · obtain ⟨leaf, rfl⟩ := isLazy
        obtain ⟨_, stands, insideHeads, insideFollows, _⟩ := follows
        have sameLeaf : reference = leaf := (List.cons.inj heads).1
        have insideAmong : inside.references ⊆ known := fun other appears =>
          among (List.mem_cons_of_mem _ (List.mem_append_left _ appears))
        obtain ⟨last, further, ends⟩ := insideHypothesis insideHeads insideFollows insideAmong
        have means := meaning_eq_some_iff.mpr stands
        rw [← sameLeaf]
        exact ⟨last, fun shape leads => .follow means (further shape leads), ends⟩
      · have notLazy : ∀ leaf, node ≠ .lazy leaf := fun leaf same => isLazy ⟨leaf, same⟩
        exact ⟨node, fun _ leads => leads,
          Or.inr (layer_of_expresses (expresses_fill heads follows among) notLazy)⟩

theorem exists_end_of_expresses
    {node : Node String} {signature : Signature}
    (expresses : Expresses body name known node signature) :
    ∃ last, (∀ shape, Node.Leads (meaning body) last shape → Node.Leads (meaning body) node shape) ∧
      ((∃ reference ∈ known, last = .lazy reference ∧ signature = .lazy (name reference)) ∨
        Node.Layer (Expresses body name known) last signature) := by
  by_cases isLazy : ∃ leaf, node = .lazy leaf
  · obtain ⟨leaf, rfl⟩ := isLazy
    cases Node.fillsTo_lazy_iff.mp expresses with
    | named isKnown =>
        exact ⟨.lazy leaf, fun _ leads => leads, Or.inl ⟨leaf, isKnown, rfl, rfl⟩⟩
    | written stands heads follows among =>
        obtain ⟨last, further, ends⟩ := exists_end_of_written heads follows among
        have means := meaning_eq_some_iff.mpr stands
        exact ⟨last, fun shape leads => .follow means (further shape leads), ends⟩
  · have notLazy : ∀ leaf, node ≠ .lazy leaf := fun leaf same => isLazy ⟨leaf, same⟩
    have layer := layer_of_expresses expresses notLazy
    exact ⟨node, fun _ leads => leads, Or.inr layer⟩

theorem exists_leads_of_expansions
    (declared : Declares expansion? body name known)
    {node : Node String} {signature shape : Signature}
    (expresses : Expresses body name known node signature)
    (leads : Node.Leads expansion? signature shape) (notLazy : ∀ leaf, shape ≠ .lazy leaf) :
    ∃ nodeShape, Node.Leads (meaning body) node nodeShape ∧
      Node.Layer (Expresses body name known) nodeShape shape := by
  induction leads generalizing node with
  | stop signature =>
      obtain ⟨last, further, ⟨reference, _, _, isName⟩ | layer⟩ :=
        exists_end_of_expresses expresses
      · exact absurd isName (notLazy _)
      · exact ⟨last, further last (.stop last), layer⟩
  | @follow leaf expansion shape found _ inductionHypothesis =>
      obtain ⟨last, further, ⟨reference, isKnown, rfl, isName⟩ | layer⟩ :=
        exists_end_of_expresses expresses
      · cases isName
        obtain ⟨target, declaredExpansion, stands, foundExpansion, expressesTarget⟩ :=
          declared reference isKnown
        rw [found] at foundExpansion
        cases foundExpansion
        obtain ⟨nodeShape, leadsTarget, layer⟩ := inductionHypothesis expressesTarget notLazy
        have leadsLast : Node.Leads (meaning body) (.lazy reference) nodeShape :=
          .follow (meaning_eq_some_iff.mpr stands) leadsTarget
        exact ⟨nodeShape, further nodeShape leadsLast, layer⟩
      · cases layer

theorem Appearances.Describes.declares
    {appearances : Appearances} {ledger after : Ledger} {signatures : List Signature}
    (describes : appearances.Describes name ledger signatures after)
    (follows : appearances.Follows body []) (fresh : ledger.namer.declarations = []) :
    Declares after.namer.expansion? body name appearances.references := by
  intro reference appears
  have isOrdered := Appearances.mem_order follows appears
  obtain ⟨expansion, isExpansion⟩ := Appearances.exists_mem_expansions name isOrdered
  obtain ⟨target, inside, before, stands, heads, insideFollows, among, same⟩ :=
    Appearances.exists_of_mem_expansions follows isExpansion
  refine ⟨target, expansion, stands, describes.lookup_name fresh isExpansion, ?_⟩
  cases same
  exact expresses_fill heads insideFollows among

end Expressing

namespace Document

/-- Collapsing references to names preserves meaning. The first rendering of a document with a fresh
namer unfolds, through the declarations of its names, to the same tree as the node of the document
does when each reference is replaced by the draft of what it points to, as deeply as that unfolds. -/
theorem unfolds_signature_iff
    {root : Json} {namer : Namer} {bind : Bool} {signature : Signature}
    (fresh : namer.declarations = [])
    (rendered : (session root namer bind 1).renderings = .ok [.ok signature]) :
    ∃ node, (root.draft root).outcome = .ok node ∧
      (∀ depth tree, Node.Unfolds (meaning (body root)) depth node tree ↔
        Node.Unfolds (session root namer bind 1).namer.expansion? depth signature tree) ∧
      ∀ depth tree other,
        Node.Unfolds (session root namer bind 1).namer.expansion? depth signature tree →
        Node.Unfolds (session root namer bind 1).namer.expansion? depth signature other →
        tree = other := by
  obtain ⟨node, after, drafted, renders, namerAfter⟩ := exists_renders_of_renderings rendered
  refine ⟨node, drafted, ?_, fun depth tree other unfolds otherUnfolds =>
    unfolds.unique otherUnfolds⟩
  cases renders with
  | @signature _ middle _ parts _ visited later =>
      cases later
      obtain ⟨appearances, heads, follows, describes⟩ := visited.exists_appearances
      have described := describes (fun reference => (after.nameOf? reference).getD "")
        fun reference given named => by rw [named, Option.getD_some]
      intro depth tree
      rw [described.signatures, namerAfter]
      have declares : Declares after.namer.expansion? (body root)
          (fun reference => (after.nameOf? reference).getD "") appearances.references :=
        described.declares follows fresh
      exact Node.unfolds_iff_of_simulation
        (fun isExpressed leads notLazy => exists_leads_of_expresses declares isExpressed leads notLazy)
        (fun isExpressed leads notLazy => exists_leads_of_expansions declares isExpressed leads notLazy)
        (expresses_fill heads follows (List.Subset.refl _)) depth tree

/-- A list whose items are lists of the same kind, under a reference to its definition. -/
def recursiveList : Json :=
  .obj [("$ref", .str "#/definitions/t"),
    ("definitions", .obj [("t", .obj [("type", .str "array"),
      ("items", .obj [("$ref", .str "#/definitions/t")])])])]

theorem unfolds_signature_iff_recursiveList :
    Namer.standard.declarations = [] ∧
    (session recursiveList Namer.standard true 1).renderings =
      .ok [.ok (.container .array (.lazy "$Ref1"))] ∧
    ∃ node, (recursiveList.draft recursiveList).outcome = .ok node ∧
      (∀ depth tree, Node.Unfolds (meaning (body recursiveList)) depth node tree ↔
        Node.Unfolds (session recursiveList Namer.standard true 1).namer.expansion? depth
          (.container .array (.lazy "$Ref1")) tree) ∧
      ∀ depth tree other,
        Node.Unfolds (session recursiveList Namer.standard true 1).namer.expansion? depth
          (.container .array (.lazy "$Ref1")) tree →
        Node.Unfolds (session recursiveList Namer.standard true 1).namer.expansion? depth
          (.container .array (.lazy "$Ref1")) other →
        tree = other :=
  ⟨rfl, rfl, unfolds_signature_iff rfl rfl⟩

end Document

end SchemaSignature
