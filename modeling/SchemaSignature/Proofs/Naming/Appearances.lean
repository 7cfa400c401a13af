import SchemaSignature.Proofs.Naming.Names
import SchemaSignature.Proofs.Naming.Visits

/-!
The references of a rendering in the order in which they appear. A visit comes to a tree of
appearances: at its first appearance a reference is written out, with the references inside in their
order, and at every other one it is written as its name. Names are given in the order of the first
appearances, and declared in the order in which these end.
-/

namespace SchemaSignature

/-- The references in a row of rendered leaves. -/
inductive Appearances where
  | none
  /-- A reference that is written as its name. -/
  | again (reference : String) (later : Appearances)
  /-- A reference that is written out, as the node that it stands for. -/
  | first (reference : String) (target : Node String) (inside later : Appearances)

namespace Appearances

/-- The references of the leaves themselves. -/
def heads : Appearances → List String
  | none => []
  | again reference later => reference :: later.heads
  | first reference _ _ later => reference :: later.heads

/-- All references from left to right, those in expansions included. -/
def references : Appearances → List String
  | none => []
  | again reference later => reference :: later.references
  | first reference _ inside later => reference :: (inside.references ++ later.references)

/-- The references that are written out, in the order in which they begin. -/
def order : Appearances → List String
  | none => []
  | again _ later => later.order
  | first reference _ inside later => reference :: (inside.order ++ later.order)

/-- The references that are written out, in the order in which they end. -/
def finished : Appearances → List String
  | none => []
  | again _ later => later.finished
  | first reference _ inside later => inside.finished ++ reference :: later.finished

/-- The rendered leaves, given the name of each reference. -/
def parts (name : String → String) : Appearances → List Signature
  | none => []
  | again reference later => .lazy (name reference) :: later.parts name
  | first _ target inside later => target.fill (inside.parts name) :: later.parts name

/-- What each reference that is written out expands to, in the order in which they end. -/
def expansions (name : String → String) : Appearances → List (String × Signature)
  | none => []
  | again _ later => later.expansions name
  | first reference target inside later =>
      inside.expansions name ++ (reference, target.fill (inside.parts name)) :: later.expansions name

/-- The table of declarations of the references that are written out. -/
def declarations (name : String → String) (appearances : Appearances) : List (String × Signature) :=
  (appearances.expansions name).map fun entry => (name entry.1, entry.2)

/-- A reference is written as its name if it has appeared before, and written out with the leaves of
the node that it stands for if it has not. `seen` are the references that have appeared. -/
def Follows (body : String → Except Failure (Node String)) : List String → Appearances → Prop
  | _, none => True
  | seen, again reference later => reference ∈ seen ∧ later.Follows body seen
  | seen, first reference target inside later =>
      reference ∉ seen ∧ body reference = .ok target ∧ inside.heads = target.keys ∧
        inside.Follows body (seen ++ [reference]) ∧
        later.Follows body (seen ++ reference :: inside.order)

section Order

variable {body : String → Except Failure (Node String)}

theorem length_parts (name : String → String) (appearances : Appearances) :
    (appearances.parts name).length = appearances.heads.length := by
  induction appearances with
  | none => rfl
  | again _ _ inductionHypothesis => exact congrArg (· + 1) inductionHypothesis
  | first _ _ _ _ _ inductionHypothesis => exact congrArg (· + 1) inductionHypothesis

theorem expansions_map_fst (name : String → String) (appearances : Appearances) :
    (appearances.expansions name).map Prod.fst = appearances.finished := by
  induction appearances with
  | none => rfl
  | again _ _ inductionHypothesis => exact inductionHypothesis
  | first reference target inside later insideHypothesis laterHypothesis =>
      rw [expansions, finished, List.map_append, List.map_cons, insideHypothesis, laterHypothesis]

theorem declarations_first
    (name : String → String) (reference : String) (target : Node String)
    (inside later : Appearances) :
    (first reference target inside later).declarations name =
      inside.declarations name ++
        (name reference, target.fill (inside.parts name)) :: later.declarations name := by
  rw [declarations, expansions, List.map_append, List.map_cons]
  rfl

/-- The references end in another order than they begin in, but they are the same. -/
theorem finished_perm_order (appearances : Appearances) :
    appearances.finished.Perm appearances.order := by
  induction appearances with
  | none => exact .nil
  | again _ _ inductionHypothesis => exact inductionHypothesis
  | first reference target inside later insideHypothesis laterHypothesis =>
      have both := insideHypothesis.append laterHypothesis
      rw [finished, order]
      exact List.perm_middle.trans (both.cons reference)

theorem removeAll_append_singleton (list seen : List String) (reference : String) :
    list.removeAll (seen ++ [reference]) =
      (list.removeAll seen).filter fun other => !other == reference := by
  simp only [List.removeAll, List.filter_filter]
  apply List.filter_congr
  intro other _
  rw [Bool.eq_iff_iff]
  simp [and_comm]

theorem removeAll_removeAll
    {list seen inside order : List String} {reference : String}
    (sameMembers : ∀ other, other ∈ order ↔ other ∈ inside.removeAll (seen ++ [reference])) :
    (list.removeAll (seen ++ [reference])).removeAll (inside.removeAll (seen ++ [reference])) =
      list.removeAll (seen ++ reference :: order) := by
  rw [List.removeAll, List.removeAll, List.removeAll, List.filter_filter]
  apply List.filter_congr
  intro other _
  rw [Bool.eq_iff_iff]
  simp only [sameMembers, List.removeAll, List.elem_eq_contains, Bool.and_eq_true,
    Bool.not_eq_true', List.contains_eq_mem, decide_eq_false_iff_not, List.mem_append,
    List.mem_cons, List.not_mem_nil, List.mem_filter]
  tauto

theorem exists_mem_expansions
    (name : String → String) {appearances : Appearances} {reference : String}
    (isOrdered : reference ∈ appearances.order) :
    ∃ expansion, (reference, expansion) ∈ appearances.expansions name := by
  have isFinished := appearances.finished_perm_order.mem_iff.mpr isOrdered
  rw [← expansions_map_fst name] at isFinished
  obtain ⟨⟨_, expansion⟩, isEntry, rfl⟩ := List.mem_map.mp isFinished
  exact ⟨expansion, isEntry⟩

/-- Declared names are those of the references that have been written out. -/
theorem declarations_keys_perm (name : String → String) (appearances : Appearances) :
    ((appearances.declarations name).map Prod.fst).Perm (appearances.order.map name) := by
  have keys : (appearances.declarations name).map Prod.fst = appearances.finished.map name := by
    rw [← expansions_map_fst name appearances, declarations, List.map_map, List.map_map]
    rfl
  rw [keys]
  exact (finished_perm_order appearances).map name

/-- What is written out is what appears for the first time. -/
theorem order_eq_eraseDups_removeAll
    {appearances : Appearances} {seen : List String} (follows : appearances.Follows body seen) :
    appearances.order = (appearances.references.removeAll seen).eraseDups := by
  induction appearances generalizing seen with
  | none => rfl
  | again reference later inductionHypothesis =>
      have isSeen : seen.contains reference = true := List.contains_iff_mem.mpr follows.1
      rw [order, references, inductionHypothesis follows.2, List.cons_removeAll, isSeen]
      rfl
  | first reference target inside later insideHypothesis laterHypothesis =>
      obtain ⟨unseen, _, _, insideFollows, laterFollows⟩ := follows
      have insideOrder := insideHypothesis insideFollows
      have laterOrder := laterHypothesis laterFollows
      have notSeen : seen.contains reference = false := by
        rw [← Bool.not_eq_true, List.contains_iff_mem]
        exact unseen
      have sameMembers : ∀ other, other ∈ inside.order ↔
          other ∈ inside.references.removeAll (seen ++ [reference]) := by
        intro other
        rw [insideOrder, List.mem_eraseDups]
      have split : (inside.references ++ later.references).removeAll (seen ++ [reference]) =
          inside.references.removeAll (seen ++ [reference]) ++
            later.references.removeAll (seen ++ [reference]) :=
        List.filter_append _ _
      rw [order, references, List.cons_removeAll, notSeen, if_pos rfl,
        List.eraseDups_cons, ← removeAll_append_singleton, split, List.eraseDups_append,
        removeAll_removeAll sameMembers, ← insideOrder, ← laterOrder]

theorem order_eq_eraseDups
    {appearances : Appearances} (follows : appearances.Follows body []) :
    appearances.order = appearances.references.eraseDups := by
  rw [order_eq_eraseDups_removeAll follows, List.removeAll_nil]

theorem mem_order
    {appearances : Appearances} (follows : appearances.Follows body []) {reference : String}
    (appears : reference ∈ appearances.references) : reference ∈ appearances.order := by
  rw [order_eq_eraseDups follows, List.mem_eraseDups]
  exact appears

theorem heads_subset_references (appearances : Appearances) :
    appearances.heads ⊆ appearances.references := by
  induction appearances with
  | none => exact List.Subset.refl _
  | again reference later inductionHypothesis =>
      exact List.cons_subset_cons reference inductionHypothesis
  | first reference target inside later _ laterHypothesis =>
      exact List.cons_subset_cons reference
        (List.subset_append_of_subset_right _ laterHypothesis)

/-- Every leaf of a rendered reference is the name of a reference that appears. -/
theorem exists_of_mem_keys_parts
    {name : String → String} {appearances : Appearances} {seen : List String}
    (follows : appearances.Follows body seen) {leaf : String}
    (isLeaf : leaf ∈ (appearances.parts name).flatMap Node.keys) :
    ∃ reference ∈ appearances.references, leaf = name reference := by
  induction appearances generalizing seen with
  | none => cases isLeaf
  | again reference later inductionHypothesis =>
      rw [parts, List.flatMap_cons] at isLeaf
      rcases List.mem_append.mp isLeaf with isFirst | isLater
      · exact ⟨reference, List.mem_cons_self, List.mem_singleton.mp isFirst⟩
      · obtain ⟨other, appears, same⟩ := inductionHypothesis follows.2 isLater
        exact ⟨other, List.mem_cons_of_mem _ appears, same⟩
  | first reference target inside later insideHypothesis laterHypothesis =>
      obtain ⟨_, _, sameHeads, insideFollows, laterFollows⟩ := follows
      have sameLength : (inside.parts name).length = target.keys.length := by
        rw [length_parts, sameHeads]
      rw [parts, List.flatMap_cons, Node.keys_fill target _ sameLength] at isLeaf
      rcases List.mem_append.mp isLeaf with isInside | isLater
      · obtain ⟨other, appears, same⟩ := insideHypothesis insideFollows isInside
        exact ⟨other, List.mem_cons_of_mem _ (List.mem_append_left _ appears), same⟩
      · obtain ⟨other, appears, same⟩ := laterHypothesis laterFollows isLater
        exact ⟨other, List.mem_cons_of_mem _ (List.mem_append_right _ appears), same⟩

/-- A reference that is written out expands to the node that it stands for, filled with appearances
among those of the whole. -/
theorem exists_of_mem_expansions
    {name : String → String} {appearances : Appearances} {seen : List String}
    (follows : appearances.Follows body seen) {entry : String × Signature}
    (isEntry : entry ∈ appearances.expansions name) :
    ∃ (target : Node String) (inside : Appearances) (before : List String),
      body entry.1 = .ok target ∧ inside.heads = target.keys ∧
      inside.Follows body before ∧ inside.references ⊆ appearances.references ∧
      entry.2 = target.fill (inside.parts name) := by
  induction appearances generalizing seen with
  | none => cases isEntry
  | again reference later inductionHypothesis =>
      obtain ⟨target, inside, before, stands, heads, insideFollows, among, expansion⟩ :=
        inductionHypothesis follows.2 isEntry
      exact ⟨target, inside, before, stands, heads, insideFollows,
        List.subset_cons_of_subset _ among, expansion⟩
  | first reference target inside later insideHypothesis laterHypothesis =>
      obtain ⟨_, stands, sameHeads, insideFollows, laterFollows⟩ := follows
      rcases List.mem_append.mp isEntry with isInside | isHere
      · obtain ⟨other, deeper, before, standsOther, heads, deeperFollows, among, expansion⟩ :=
          insideHypothesis insideFollows isInside
        exact ⟨other, deeper, before, standsOther, heads, deeperFollows,
          List.subset_cons_of_subset _ (List.subset_append_of_subset_left _ among), expansion⟩
      · rcases List.mem_cons.mp isHere with same | isLater
        · rw [same]
          exact ⟨target, inside, seen ++ [reference], stands, sameHeads, insideFollows,
            List.subset_cons_of_subset _ (List.subset_append_left _ _), rfl⟩
        · obtain ⟨other, deeper, before, standsOther, heads, deeperFollows, among, expansion⟩ :=
            laterHypothesis laterFollows isLater
          exact ⟨other, deeper, before, standsOther, heads, deeperFollows,
            List.subset_cons_of_subset _ (List.subset_append_of_subset_right _ among), expansion⟩

end Order

end Appearances

/-! ## Visits come to appearances -/

/-- What a visit has done to the ledger, given the name of each reference. -/
structure Appearances.Describes (appearances : Appearances) (name : String → String)
    (ledger : Ledger) (signatures : List Signature) (after : Ledger) : Prop where
  signatures : signatures = appearances.parts name
  names : after.names = ledger.names ++ appearances.order.map fun reference => (reference, name reference)
  numbered : appearances.order.map (fun reference => Except.ok (name reference)) =
    (List.range' (ledger.namer.count + 1) appearances.order.length).map ledger.namer.nameOf
  stem : after.namer.stem = ledger.namer.stem
  count : after.namer.count = ledger.namer.count + appearances.order.length
  declarations : after.namer.declarations =
    (appearances.declarations name).foldl
      (fun table entry => Table.setIfAbsent (· == ·) entry.1 entry.2 table)
      ledger.namer.declarations

namespace Ledger

theorem nameOf?_isSome_iff {ledger : Ledger} {reference : String} :
    (ledger.nameOf? reference).isSome = true ↔ reference ∈ ledger.names.map Prod.fst := by
  rw [nameOf?, List.lookup_isSome_iff, List.mem_map]
  constructor
  · rintro ⟨entry, isEntry, same⟩
    exact ⟨entry, isEntry, (beq_iff_eq.mp same).symm⟩
  · rintro ⟨entry, isEntry, rfl⟩
    exact ⟨entry, isEntry, beq_self_eq_true _⟩

end Ledger

namespace Appearances.Describes

variable {name : String → String} {ledger expanded after : Ledger}
  {inside later : Appearances} {reference given : String} {node : Node String}
  {parts signatures : List Signature}

theorem none (name : String → String) (ledger : Ledger) :
    Appearances.none.Describes name ledger [] ledger :=
  ⟨rfl, (List.append_nil _).symm, rfl, rfl, rfl, rfl⟩

theorem again
    (described : later.Describes name ledger signatures after) (sameName : name reference = given) :
    (Appearances.again reference later).Describes name ledger (.lazy given :: signatures) after :=
  ⟨by rw [described.signatures, parts, sameName], described.names, described.numbered,
    described.stem, described.count, described.declarations⟩

theorem keys_eq (described : later.Describes name ledger signatures after) :
    after.names.map Prod.fst = ledger.names.map Prod.fst ++ later.order := by
  rw [described.names, List.map_append, List.map_map]
  exact congrArg (_ ++ ·) (List.map_id _)

theorem first
    (ofInside : inside.Describes name (ledger.claim reference given) parts expanded)
    (ofLater : later.Describes name (expanded.declare given (node.fill parts)) signatures after)
    (sameName : name reference = given) (minted : ledger.nextName = .ok given) :
    (Appearances.first reference node inside later).Describes name ledger
      (node.fill parts :: signatures) after := by
  have expandedCount : expanded.namer.count = ledger.namer.count + 1 + inside.order.length :=
    ofInside.count
  have orderLength : (Appearances.first reference node inside later).order.length =
      inside.order.length + later.order.length + 1 := by
    rw [order, List.length_cons, List.length_append]
  refine ⟨?signatures, ?names, ?numbered, ofLater.stem.trans ofInside.stem, ?count, ?declarations⟩
  case signatures => rw [ofLater.signatures, Appearances.parts, ofInside.signatures]
  case names =>
    have declaredNames : (expanded.declare given (node.fill parts)).names = expanded.names := rfl
    rw [ofLater.names, declaredNames, ofInside.names, Ledger.claim, order, List.map_cons,
      List.map_append, sameName]
    simp only [List.append_assoc, List.cons_append, List.nil_append]
  case numbered =>
    have expandedNameOf : (expanded.declare given (node.fill parts)).namer.nameOf =
        ledger.namer.nameOf :=
      Namer.nameOf_eq_of_stem_eq ofInside.stem
    have insideNumbered : inside.order.map (fun reference => Except.ok (name reference)) =
        (List.range' (ledger.namer.count + 1 + 1) inside.order.length).map ledger.namer.nameOf :=
      ofInside.numbered
    have laterNumbered : later.order.map (fun reference => Except.ok (name reference)) =
        (List.range' (expanded.namer.count + 1) later.order.length).map ledger.namer.nameOf :=
      expandedNameOf ▸ ofLater.numbered
    have startLater : expanded.namer.count + 1 =
        ledger.namer.count + 1 + 1 + inside.order.length := by
      rw [expandedCount]
      omega
    rw [orderLength, List.range'_succ, order, List.map_cons, List.map_cons, List.map_append,
      insideNumbered, laterNumbered, startLater, ← List.map_append, List.range'_append_1, sameName]
    exact congrArg (· :: _) minted.symm
  case count =>
    have declaredCount : (expanded.declare given (node.fill parts)).namer.count =
        expanded.namer.count := rfl
    rw [ofLater.count, declaredCount, expandedCount, orderLength]
    omega
  case declarations =>
    have declaredTable : (expanded.declare given (node.fill parts)).namer.declarations =
        Table.setIfAbsent (· == ·) given (node.fill parts) expanded.namer.declarations := rfl
    have claimedTable : (ledger.claim reference given).namer.declarations =
        ledger.namer.declarations := rfl
    rw [ofLater.declarations, declaredTable, ofInside.declarations, claimedTable,
      declarations_first, List.foldl_append, List.foldl_cons, sameName, ofInside.signatures]

end Appearances.Describes

theorem Visits.exists_appearances
    {body : String → Except Failure (Node String)} {ledger after : Ledger}
    {references : List String} {signatures : List Signature}
    (visited : Visits body ledger references signatures after) :
    ∃ appearances : Appearances, appearances.heads = references ∧
      appearances.Follows body (ledger.names.map Prod.fst) ∧
      ∀ name, (∀ reference given, after.nameOf? reference = some given → name reference = given) →
        appearances.Describes name ledger signatures after := by
  induction visited with
  | done ledger =>
      exact ⟨.none, rfl, trivial, fun name _ => .none name ledger⟩
  | @again ledger after reference given rest signatures named later inductionHypothesis =>
      obtain ⟨appearances, heads, follows, describes⟩ := inductionHypothesis
      refine ⟨.again reference appearances, congrArg (reference :: ·) heads, ⟨?_, follows⟩, ?_⟩
      · rw [← Ledger.nameOf?_isSome_iff, named]
        rfl
      · intro name agrees
        exact (describes name agrees).again
          (agrees reference given (Ledger.nameOf?_eq_some_of_grown later.names_grown named))
  | @first ledger expanded after reference given rest node insideParts signatures unnamed minted
      stands inside later insideHypothesis laterHypothesis =>
      obtain ⟨insideAppearances, insideHeads, insideFollows, insideDescribes⟩ := insideHypothesis
      obtain ⟨laterAppearances, laterHeads, laterFollows, laterDescribes⟩ := laterHypothesis
      have grown : expanded.names <+: after.names := later.names_grown
      have agreesInside : ∀ {name : String → String},
          (∀ reference given, after.nameOf? reference = some given → name reference = given) →
            ∀ reference given, expanded.nameOf? reference = some given → name reference = given :=
        fun agrees reference given named =>
          agrees reference given (Ledger.nameOf?_eq_some_of_grown grown named)
      have isUnnamed : reference ∉ ledger.names.map Prod.fst := by
        rw [← Ledger.nameOf?_isSome_iff, unnamed]
        exact Bool.false_ne_true
      have claimedKeys : (ledger.claim reference given).names.map Prod.fst =
          ledger.names.map Prod.fst ++ [reference] := by
        rw [Ledger.claim, List.map_append, List.map_singleton]
      -- What is seen after the expansion does not depend on how references are named.
      have expandedKeys : expanded.names.map Prod.fst =
          ledger.names.map Prod.fst ++ reference :: insideAppearances.order := by
        have described := insideDescribes (fun reference => (after.nameOf? reference).getD "")
          (agreesInside fun reference given named => by rw [named, Option.getD_some])
        rw [described.keys_eq, claimedKeys, List.append_assoc, List.singleton_append]
      rw [claimedKeys] at insideFollows
      refine ⟨.first reference node insideAppearances laterAppearances,
        congrArg (reference :: ·) laterHeads,
        ⟨isUnnamed, stands, insideHeads, insideFollows, expandedKeys ▸ laterFollows⟩, ?_⟩
      intro name agrees
      have claimed := Ledger.nameOf?_claim_self unnamed given
      have sameName : name reference = given := agreesInside agrees reference given
        (Ledger.nameOf?_eq_some_of_grown inside.names_grown claimed)
      exact (insideDescribes name (agreesInside agrees)).first (laterDescribes name agrees)
        sameName minted

section Fresh

variable {body : String → Except Failure (Node String)} {appearances : Appearances}
  {name : String → String} {ledger after : Ledger} {signatures : List Signature}

namespace Appearances.Describes

theorem map_numbered_of_map_nameOf
    {namer : Namer} {references : List String} {numbers : List Nat}
    (same : references.map (fun reference => Except.ok (name reference)) =
      numbers.map namer.nameOf) :
    references.map name = numbers.map (Namer.numbered namer.stem) := by
  induction references generalizing numbers with
  | nil =>
      rw [List.map_nil] at same
      rw [List.map_eq_nil_iff.mp same.symm, List.map_nil, List.map_nil]
  | cons reference rest inductionHypothesis =>
      cases numbers with
      | nil => cases same
      | cons number others =>
          rw [List.map_cons, List.map_cons] at same
          have sameFirst := (List.cons.inj same).1
          rw [List.map_cons, List.map_cons, inductionHypothesis (List.cons.inj same).2,
            Namer.eq_numbered_of_nameOf sameFirst.symm]

/-- The names are numbered in the order of the first appearances. -/
theorem names_eq (describes : appearances.Describes name ledger signatures after) :
    appearances.order.map name =
      (List.range' (ledger.namer.count + 1) appearances.order.length).map
        (Namer.numbered ledger.namer.stem) := by
  exact map_numbered_of_map_nameOf describes.numbered

theorem nodup_names (describes : appearances.Describes name ledger signatures after) :
    (appearances.order.map name).Nodup := by
  rw [describes.names_eq]
  exact List.Nodup.map (Namer.numbered_injective _) (List.nodup_range' ..)

theorem declarations_eq
    (describes : appearances.Describes name ledger signatures after)
    (fresh : ledger.namer.declarations = []) :
    after.namer.declarations = appearances.declarations name := by
  have different : ((appearances.declarations name).map Prod.fst).Nodup :=
    (declarations_keys_perm name appearances).nodup_iff.mpr describes.nodup_names
  rw [describes.declarations, fresh, Table.foldl_setIfAbsent (by simpa using different),
    List.nil_append]

theorem lookup_name
    (describes : appearances.Describes name ledger signatures after)
    (fresh : ledger.namer.declarations = [])
    {reference : String} {expansion : Signature}
    (isExpansion : (reference, expansion) ∈ appearances.expansions name) :
    after.namer.declarations.lookup (name reference) = some expansion := by
  rw [describes.declarations_eq fresh]
  have different : ((Appearances.declarations name appearances).map Prod.fst).Nodup :=
    (declarations_keys_perm name appearances).nodup_iff.mpr describes.nodup_names
  exact Table.lookup_eq_some_of_mem different
    (List.mem_map.mpr ⟨(reference, expansion), isExpansion, rfl⟩)

end Appearances.Describes

end Fresh

end SchemaSignature
