import SchemaSignature.Proofs.Naming.History

/-!
Rendering a node a second time. A rendering that succeeds leaves a name for every lazy leaf of the
node, whatever has been rendered inside. Names stay, so that from then on each leaf is rendered as its
name, no body is looked at, and nothing is minted or declared. The first result differs from the later
ones only in the leaves that it gave names to: there it has the expansions that it declared under
these names.
-/

namespace SchemaSignature

namespace Node

variable {key : Type}

mutual

/-- The names of the watched leaves, from left to right. -/
def watches : Node key → List String
  | .primitive _ | .literals _ | .made _ | .lazy _ => []
  | .watched name => [name]
  | .fields _ entries => watchesOfEntries entries
  | .container _ element => watches element
  | .group _ members => watchesOfMembers members

def watchesOfEntries : List (String × Node key) → List String
  | [] => []
  | (_, node) :: rest => watches node ++ watchesOfEntries rest

def watchesOfMembers : List (Node key) → List String
  | [] => []
  | node :: rest => watches node ++ watchesOfMembers rest

end

end Node

namespace Desk

variable {key own : Type} [BEq key] [LawfulBEq key]

/-- What a lazy leaf has been rendered as in a history: as the name that it has, or as the expansion
that was declared under its name when the history gave it the name. -/
inductive Settled (history : List (Move key)) (after : Desk key own) (leaf : key) :
    Signature → Prop where
  | named {name : String} (named : after.nameOf? leaf = some name) :
      Settled history after leaf (.lazy name)
  | expanded {name : String} {namer : Nat} {expansion : Signature}
      (named : after.nameOf? leaf = some name)
      (claimed : Move.claimed leaf namer name true ∈ history)
      (declared : Move.declared namer name expansion ∈ history) :
      Settled history after leaf expansion

variable {desk middle after : Desk key own} {earlier later : List (Move key)} {leaf : key}
  {leaves : List key} {part : Signature} {parts : List Signature}

omit [LawfulBEq key] in
theorem Settled.exists_name (settled : Settled earlier after leaf part) :
    ∃ name, after.nameOf? leaf = some name := by
  cases settled with
  | named named => exact ⟨_, named⟩
  | expanded named _ _ => exact ⟨_, named⟩

theorem Settled.of_earlier
    (settled : Settled earlier middle leaf part) (evolves : middle.Evolves later after) :
    Settled (earlier ++ later) after leaf part := by
  have lasts := evolves.records.lasts
  cases settled with
  | named named => exact .named (lasts.names _ _ named)
  | expanded named claimed declared =>
      exact .expanded (lasts.names _ _ named) (List.mem_append_left _ claimed)
        (List.mem_append_left _ declared)

omit [LawfulBEq key] in
theorem Settled.of_later (settled : Settled later after leaf part) (earlier : List (Move key)) :
    Settled (earlier ++ later) after leaf part := by
  cases settled with
  | named named => exact .named named
  | expanded named claimed declared =>
      exact .expanded named (List.mem_append_right _ claimed) (List.mem_append_right _ declared)

/-- The leaves of a desk are settled as the given parts by a history that leads to another desk. -/
def Settles (desk : Desk key own) (history : List (Move key)) (leaves : List key)
    (parts : List Signature) (after : Desk key own) : Prop :=
  desk.Evolves history after ∧ List.Forall₂ (Settled history after) leaves parts

omit [LawfulBEq key] in
theorem settles_nil (evolves : desk.Evolves earlier after) : desk.Settles earlier [] [] after :=
  ⟨evolves, .nil⟩

theorem Settles.append
    {otherLeaves : List key} {otherParts : List Signature}
    (before : desk.Settles earlier leaves parts middle)
    (thereafter : middle.Settles later otherLeaves otherParts after) :
    desk.Settles (earlier ++ later) (leaves ++ otherLeaves) (parts ++ otherParts) after := by
  have settled : List.Forall₂ (Settled (earlier ++ later) after) leaves parts :=
    before.2.imp fun _ _ each => each.of_earlier thereafter.1
  have settledLater : List.Forall₂ (Settled (earlier ++ later) after) otherLeaves otherParts :=
    thereafter.2.imp fun _ _ each => each.of_later earlier
  exact ⟨before.1.trans thereafter.1, List.rel_append settled settledLater⟩

end Desk

/-! ## The first rendering -/

section Traversal

variable {key own : Type} [BEq key] {expand : key → Work key own Signature}
  {watch : String → Work key own Unit}

mutual

/-- If expanding a leaf settles it, rebuilding a node settles all its leaves. -/
theorem Node.settles_traverse [LawfulBEq key]
    (expands : ∀ leaf desk part after, (expand leaf).runOn desk = (.ok part, after) →
      ∃ history, Desk.Settles desk history [leaf] [part] after)
    (watches : ∀ name, Work.Keeps Desk.Develops (watch name)) :
    (node : Node key) → ∀ {desk after : Desk key own} {result : Signature},
      (node.traverse expand watch).runOn desk = (.ok result, after) →
        ∃ history parts, desk.Settles history node.keys parts after ∧ result = node.fill parts
  | .primitive _, _, _, _, ran | .literals _, _, _, _, ran | .made _, _, _, _, ran => by
      rw [traverse, Work.runOn_pure] at ran
      cases ran
      exact ⟨[], [], Desk.settles_nil (.rest _), by rw [fill]⟩
  | .watched name, desk, after, _, ran => by
      rw [traverse] at ran
      obtain ⟨_, middle, reported, rest⟩ := Work.runOn_bind_eq_ok_iff.mp ran
      cases rest
      have develops := watches name desk
      rw [reported] at develops
      obtain ⟨history, evolves⟩ := develops
      exact ⟨history, [], Desk.settles_nil evolves, by rw [fill]⟩
  | .lazy leaf, desk, after, result, ran => by
      rw [traverse] at ran
      obtain ⟨history, settles⟩ := expands leaf desk result after ran
      exact ⟨history, [result], settles, by rw [fill, List.headD_cons]⟩
  | .fields _ entries, _, _, _, ran => by
      rw [traverse] at ran
      obtain ⟨inner, middle, ranInner, rest⟩ := Work.runOn_bind_eq_ok_iff.mp ran
      cases rest
      obtain ⟨history, parts, settles, rfl⟩ :=
        Node.settles_traverseEntries expands watches entries ranInner
      exact ⟨history, parts, by rw [keys]; exact settles, by rw [fill]⟩
  | .container _ element, _, _, _, ran => by
      rw [traverse] at ran
      obtain ⟨inner, middle, ranInner, rest⟩ := Work.runOn_bind_eq_ok_iff.mp ran
      cases rest
      obtain ⟨history, parts, settles, rfl⟩ :=
        Node.settles_traverse expands watches element ranInner
      exact ⟨history, parts, by rw [keys]; exact settles, by rw [fill]⟩
  | .group _ members, _, _, _, ran => by
      rw [traverse] at ran
      obtain ⟨inner, middle, ranInner, rest⟩ := Work.runOn_bind_eq_ok_iff.mp ran
      cases rest
      obtain ⟨history, parts, settles, rfl⟩ :=
        Node.settles_traverseMembers expands watches members ranInner
      exact ⟨history, parts, by rw [keys]; exact settles, by rw [fill]⟩

theorem Node.settles_traverseEntries [LawfulBEq key]
    (expands : ∀ leaf desk part after, (expand leaf).runOn desk = (.ok part, after) →
      ∃ history, Desk.Settles desk history [leaf] [part] after)
    (watches : ∀ name, Work.Keeps Desk.Develops (watch name)) :
    (entries : List (String × Node key)) →
      ∀ {desk after : Desk key own} {results : List (String × Signature)},
        (Node.traverseEntries expand watch entries).runOn desk = (.ok results, after) →
          ∃ history parts, desk.Settles history (Node.keysOfEntries entries) parts after ∧
            results = Node.fillEntries entries parts
  | [], _, _, _, ran => by
      rw [traverseEntries, Work.runOn_pure] at ran
      cases ran
      exact ⟨[], [], Desk.settles_nil (.rest _), by rw [fillEntries]⟩
  | (name, node) :: rest, _, _, _, ran => by
      rw [traverseEntries] at ran
      obtain ⟨first, middle, ranFirst, ran⟩ := Work.runOn_bind_eq_ok_iff.mp ran
      obtain ⟨others, last, ranOthers, done⟩ := Work.runOn_bind_eq_ok_iff.mp ran
      cases done
      obtain ⟨earlier, parts, settles, rfl⟩ := Node.settles_traverse expands watches node ranFirst
      obtain ⟨later, otherParts, settlesLater, rfl⟩ :=
        Node.settles_traverseEntries expands watches rest ranOthers
      refine ⟨earlier ++ later, parts ++ otherParts, ?_, ?_⟩
      · rw [keysOfEntries]
        exact settles.append settlesLater
      · exact (fillEntries_append name node rest otherParts settles.2.length_eq.symm).symm

theorem Node.settles_traverseMembers [LawfulBEq key]
    (expands : ∀ leaf desk part after, (expand leaf).runOn desk = (.ok part, after) →
      ∃ history, Desk.Settles desk history [leaf] [part] after)
    (watches : ∀ name, Work.Keeps Desk.Develops (watch name)) :
    (members : List (Node key)) → ∀ {desk after : Desk key own} {results : List Signature},
      (Node.traverseMembers expand watch members).runOn desk = (.ok results, after) →
        ∃ history parts, desk.Settles history (Node.keysOfMembers members) parts after ∧
          results = Node.fillMembers members parts
  | [], _, _, _, ran => by
      rw [traverseMembers, Work.runOn_pure] at ran
      cases ran
      exact ⟨[], [], Desk.settles_nil (.rest _), by rw [fillMembers]⟩
  | node :: rest, _, _, _, ran => by
      rw [traverseMembers] at ran
      obtain ⟨first, middle, ranFirst, ran⟩ := Work.runOn_bind_eq_ok_iff.mp ran
      obtain ⟨others, last, ranOthers, done⟩ := Work.runOn_bind_eq_ok_iff.mp ran
      cases done
      obtain ⟨earlier, parts, settles, rfl⟩ := Node.settles_traverse expands watches node ranFirst
      obtain ⟨later, otherParts, settlesLater, rfl⟩ :=
        Node.settles_traverseMembers expands watches rest ranOthers
      refine ⟨earlier ++ later, parts ++ otherParts, ?_, ?_⟩
      · rw [keysOfMembers]
        exact settles.append settlesLater
      · exact (fillMembers_append node rest otherParts settles.2.length_eq.symm).symm

end

end Traversal

namespace Desk

variable {key own : Type} [BEq key] {desk after : Desk key own} {leaf : key} {index : Nat}
  {name : String} {first : Bool}

/-- Entering a leaf without a name gives it one. -/
theorem evolves_of_runOn_enter
    (unnamed : desk.nameOf? leaf = none)
    (ran : (Work.enter leaf index).runOn desk = (.ok (name, first), after)) :
    first = true ∧ desk.Evolves [.claimed leaf index name true] after := by
  rw [Work.enter] at ran
  obtain ⟨⟨given, isFirst⟩, middle, claimed, rest⟩ := Work.runOn_bind_eq_ok_iff.mp ran
  rcases minted : (Work.mint index).runOn desk with ⟨outcome, last⟩
  cases outcome with
  | error failure =>
      rw [Work.runOn_claim_of_not_minted unnamed minted] at claimed
      cases claimed
  | ok fresh =>
      have taken := Work.runOn_claim_of_minted unnamed minted
      rw [taken] at claimed
      cases claimed
      cases rest
      refine ⟨rfl, .move (.claimed taken) ?_⟩
      refine .idle ?_ (.rest _)
      exact ⟨rfl, rfl, List.filterMap_append.trans (List.append_nil _)⟩

end Desk

namespace Workshop

variable {key own : Type} [BEq key] [LawfulBEq key] {workshop : Workshop key own}

/-- Expanding a leaf settles it: as its name, if it has one, and otherwise as what is declared under
the name that it is given. -/
theorem settles_expandWith
    (steps : workshop.Steps Desk.Develops) {inner : key → Work key own Signature}
    (inside : ∀ leaf, Work.Keeps Desk.Develops (inner leaf)) (leaf : key)
    (desk : Desk key own) (part : Signature) (after : Desk key own)
    (ran : (workshop.expandWith inner leaf).runOn desk = (.ok part, after)) :
    ∃ history, desk.Settles history [leaf] [part] after := by
  cases named : desk.nameOf? leaf with
  | some name =>
      rw [workshop.runOn_expandWith_of_named named] at ran
      cases ran
      exact ⟨[], .rest _, .cons (.named named) .nil⟩
  | none =>
      rw [runOn_expandWith_eq] at ran
      generalize (workshop.bound leaf).getD desk.currentNamer = namer at ran
      rw [expandUnder] at ran
      obtain ⟨⟨name, first⟩, entered, claimed, ran⟩ := Work.runOn_bind_eq_ok_iff.mp ran
      obtain ⟨rfl, entering⟩ := Desk.evolves_of_runOn_enter named claimed
      rw [if_pos rfl] at ran
      obtain ⟨expansion, last, rendered, ran⟩ := Work.runOn_bind_eq_ok_iff.mp ran
      obtain ⟨done, final, declared, ran⟩ := Work.runOn_bind_eq_ok_iff.mp ran
      cases ran
      have develops := steps.renderBody Desk.cumulative_develops inside leaf entered
      rw [rendered] at develops
      obtain ⟨history, evolves⟩ := develops
      have declaring : last.Evolves [.declared namer name part] after :=
        .move (.declared declared) (.rest _)
      have whole := (entering.trans evolves).trans declaring
      have isClaimed : Move.claimed leaf namer name true ∈
          [Move.claimed leaf namer name true] ++ history ++ [Move.declared namer name part] := by
        simp
      have isDeclared : Move.declared namer name part ∈
          [Move.claimed leaf namer name true] ++ history ++ [Move.declared namer name part] := by
        simp
      have kept := whole.records.claims leaf namer name true isClaimed
      exact ⟨_, whole, .cons (.expanded kept isClaimed isDeclared) .nil⟩

theorem settles_expand
    (steps : workshop.Steps Desk.Develops) (depth : Nat) (leaf : key) (desk : Desk key own)
    (part : Signature) (after : Desk key own)
    (ran : (workshop.expand depth leaf).runOn desk = (.ok part, after)) :
    ∃ history, desk.Settles history [leaf] [part] after := by
  have cumulative : Desk.Cumulative (Desk.Develops : Desk key own → Desk key own → Prop) :=
    Desk.cumulative_develops
  cases depth with
  | zero =>
      exact settles_expandWith steps (fun _ => cumulative.throw .outOfFuel) leaf desk part after ran
  | succ depth =>
      exact settles_expandWith steps (steps.expand cumulative depth) leaf desk part after ran

/-- A rendering that succeeds settles the lazy leaves of the node. -/
theorem settles_render
    (steps : workshop.Steps Desk.Develops) {depth : Nat} {node : Node key} {desk after : Desk key own}
    {first : Signature} (ran : (workshop.render depth node).runOn desk = (.ok first, after)) :
    ∃ history parts, desk.Settles history node.keys parts after ∧ first = node.fill parts :=
  node.settles_traverse (settles_expand steps depth) steps.watch ran

end Workshop

/-! ## Later renderings -/

section Later

variable {key own : Type} [BEq key] {expand : key → Work key own Signature}
  {watch : String → Work key own Unit} {see : own → String → own} {name : key → String}

mutual

/-- If a leaf with a name is rendered as its name, a node whose leaves have names is rebuilt from
them, and only what is watched leaves a trace. -/
theorem Node.runOn_traverse_of_named
    (expands : ∀ leaf (desk : Desk key own), desk.nameOf? leaf = some (name leaf) →
      (expand leaf).runOn desk = (.ok (.lazy (name leaf)), desk))
    (watches : ∀ seen (desk : Desk key own),
      (watch seen).runOn desk = (.ok (), { desk with own := see desk.own seen })) :
    (node : Node key) → (desk : Desk key own) →
      (∀ leaf ∈ node.keys, desk.nameOf? leaf = some (name leaf)) →
        (node.traverse expand watch).runOn desk =
          (.ok (node.fill (node.keys.map fun leaf => .lazy (name leaf))),
            { desk with own := node.watches.foldl see desk.own })
  | .primitive _, _, _ | .literals _, _, _ | .made _, _, _ => rfl
  | .watched seen, desk, _ => by
      rw [traverse, Work.runOn_bind_of_ok (watches seen desk)]
      rfl
  | .lazy leaf, desk, named => by
      rw [traverse, expands leaf desk (named leaf List.mem_cons_self)]
      rfl
  | .fields _ entries, desk, named => by
      rw [traverse, Work.runOn_bind_of_ok
        (Node.runOn_traverseEntries_of_named expands watches entries desk named)]
      rfl
  | .container _ element, desk, named => by
      rw [traverse,
        Work.runOn_bind_of_ok (Node.runOn_traverse_of_named expands watches element desk named)]
      rfl
  | .group _ members, desk, named => by
      rw [traverse, Work.runOn_bind_of_ok
        (Node.runOn_traverseMembers_of_named expands watches members desk named)]
      rfl

theorem Node.runOn_traverseEntries_of_named
    (expands : ∀ leaf (desk : Desk key own), desk.nameOf? leaf = some (name leaf) →
      (expand leaf).runOn desk = (.ok (.lazy (name leaf)), desk))
    (watches : ∀ seen (desk : Desk key own),
      (watch seen).runOn desk = (.ok (), { desk with own := see desk.own seen })) :
    (entries : List (String × Node key)) → (desk : Desk key own) →
      (∀ leaf ∈ Node.keysOfEntries entries, desk.nameOf? leaf = some (name leaf)) →
        (Node.traverseEntries expand watch entries).runOn desk =
          (.ok (Node.fillEntries entries
              ((Node.keysOfEntries entries).map fun leaf => .lazy (name leaf))),
            { desk with own := (Node.watchesOfEntries entries).foldl see desk.own })
  | [], _, _ => rfl
  | (label, node) :: rest, desk, named => by
      have namedFirst : ∀ leaf ∈ node.keys, desk.nameOf? leaf = some (name leaf) :=
        fun leaf isKey => named leaf (List.mem_append_left _ isKey)
      have namedLater : ∀ leaf ∈ Node.keysOfEntries rest, desk.nameOf? leaf = some (name leaf) :=
        fun leaf isKey => named leaf (List.mem_append_right _ isKey)
      have ran := Node.runOn_traverse_of_named expands watches node desk namedFirst
      have ranLater := Node.runOn_traverseEntries_of_named expands watches rest
        { desk with own := node.watches.foldl see desk.own } namedLater
      rw [traverseEntries, Work.runOn_bind_of_ok ran, Work.runOn_bind_of_ok ranLater,
        watchesOfEntries, List.foldl_append, keysOfEntries, List.map_append,
        fillEntries_append label node rest _ (List.length_map _)]
      rfl

theorem Node.runOn_traverseMembers_of_named
    (expands : ∀ leaf (desk : Desk key own), desk.nameOf? leaf = some (name leaf) →
      (expand leaf).runOn desk = (.ok (.lazy (name leaf)), desk))
    (watches : ∀ seen (desk : Desk key own),
      (watch seen).runOn desk = (.ok (), { desk with own := see desk.own seen })) :
    (members : List (Node key)) → (desk : Desk key own) →
      (∀ leaf ∈ Node.keysOfMembers members, desk.nameOf? leaf = some (name leaf)) →
        (Node.traverseMembers expand watch members).runOn desk =
          (.ok (Node.fillMembers members
              ((Node.keysOfMembers members).map fun leaf => .lazy (name leaf))),
            { desk with own := (Node.watchesOfMembers members).foldl see desk.own })
  | [], _, _ => rfl
  | node :: rest, desk, named => by
      have namedFirst : ∀ leaf ∈ node.keys, desk.nameOf? leaf = some (name leaf) :=
        fun leaf isKey => named leaf (List.mem_append_left _ isKey)
      have namedLater : ∀ leaf ∈ Node.keysOfMembers rest, desk.nameOf? leaf = some (name leaf) :=
        fun leaf isKey => named leaf (List.mem_append_right _ isKey)
      have ran := Node.runOn_traverse_of_named expands watches node desk namedFirst
      have ranLater := Node.runOn_traverseMembers_of_named expands watches rest
        { desk with own := node.watches.foldl see desk.own } namedLater
      rw [traverseMembers, Work.runOn_bind_of_ok ran, Work.runOn_bind_of_ok ranLater,
        watchesOfMembers, List.foldl_append, keysOfMembers, List.map_append,
        fillMembers_append node rest _ (List.length_map _)]
      rfl

end

/-- A node whose leaves have names is rendered from the names, whatever the bodies of the leaves. -/
theorem Workshop.runOn_render_of_named
    {workshop : Workshop key own}
    (watches : ∀ seen (desk : Desk key own),
      (workshop.watch seen).runOn desk = (.ok (), { desk with own := see desk.own seen }))
    (depth : Nat) {node : Node key} {desk : Desk key own}
    (named : ∀ leaf ∈ node.keys, desk.nameOf? leaf = some (name leaf)) :
    (workshop.render depth node).runOn desk =
      (.ok (node.fill (node.keys.map fun leaf => .lazy (name leaf))),
        { desk with own := node.watches.foldl see desk.own }) :=
  node.runOn_traverse_of_named
    (fun _ _ namedLeaf => workshop.runOn_expand_of_named namedLeaf depth) watches desk named

end Later

/-! ## Whichever namer is chosen -/

namespace Workshop

variable {key own : Type} [BEq key]

/-- The signature of a node, rendered under a chosen namer or under the one that is active. -/
def renderWith (workshop : Workshop key own) (depth : Nat) (node : Node key) :
    Option Nat → Work key own Signature
  | some namer => workshop.renderUnder depth namer node
  | none => workshop.render depth node

/-- The workshop with other bodies for the lazy leaves. -/
def withBodies (workshop : Workshop key own) (bodies : key → Work key own (Node key)) :
    Workshop key own :=
  { workshop with body := bodies }

variable {workshop : Workshop key own} {depth : Nat} {node : Node key} {chosen : Option Nat}
  {desk after : Desk key own}

/-- A rendering that succeeds settles the lazy leaves of the node, whichever namer is chosen. -/
theorem settles_renderWith
    [LawfulBEq key] (steps : workshop.Steps Desk.Develops) {first : Signature}
    (ran : (workshop.renderWith depth node chosen).runOn desk = (.ok first, after)) :
    ∃ history parts, desk.Settles history node.keys parts after ∧ first = node.fill parts := by
  cases chosen with
  | none => exact settles_render steps ran
  | some namer =>
      rw [renderWith, renderUnder, Work.runOn_withActive] at ran
      rcases rendered : (workshop.render depth node).runOn { desk with active := some namer }
        with ⟨outcome, last⟩
      rw [rendered] at ran
      cases ran
      obtain ⟨history, parts, settles, filled⟩ := settles_render steps rendered
      -- choosing a namer and going back to the one before does not concern the names
      have choosing : desk.Evolves [] { desk with active := some namer } := by
        refine .idle ?_ (.rest _)
        exact ⟨rfl, rfl, rfl⟩
      have goingBack : last.Evolves [] { last with active := desk.active } := by
        refine .idle ?_ (.rest _)
        exact ⟨rfl, rfl, rfl⟩
      have whole := ((Desk.settles_nil choosing).append settles).append (Desk.settles_nil goingBack)
      simp only [List.nil_append, List.append_nil] at whole
      exact ⟨history, parts, whole, filled⟩

theorem runOn_renderWith_of_named
    {see : own → String → own} {name : key → String}
    (watches : ∀ seen (desk : Desk key own),
      (workshop.watch seen).runOn desk = (.ok (), { desk with own := see desk.own seen }))
    (named : ∀ leaf ∈ node.keys, desk.nameOf? leaf = some (name leaf)) :
    (workshop.renderWith depth node chosen).runOn desk =
      (.ok (node.fill (node.keys.map fun leaf => .lazy (name leaf))),
        { desk with own := node.watches.foldl see desk.own }) := by
  cases chosen with
  | none => exact runOn_render_of_named watches depth named
  | some namer =>
      have namedThere : ∀ leaf ∈ node.keys,
          ({ desk with active := some namer } : Desk key own).nameOf? leaf = some (name leaf) :=
        named
      rw [renderWith, renderUnder, Work.runOn_withActive,
        runOn_render_of_named watches depth namedThere]

end Workshop

end SchemaSignature
