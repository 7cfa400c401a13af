import SchemaSignature.Proofs.Outcome
import SchemaSignature.Proofs.Signature.Leaves
import SchemaSignature.Signature.Construction

/-!
Construction from nodes. Given nodes as parts, a constructor can fail by the number of its members
only. A table keeps its entries in order as long as their keys are all different.
-/

namespace SchemaSignature

namespace Table

variable {key value : Type} {same : key → key → Bool}

theorem find?_eq_map (test : key → Bool) (entries : List (key × value)) :
    find? test entries = (entries.find? fun entry => test entry.1).map Prod.snd := by
  induction entries with
  | nil => rfl
  | cons first rest inductionHypothesis =>
      obtain ⟨name, content⟩ := first
      rw [find?, inductionHypothesis, List.find?_cons]
      cases test name <;> rfl

theorem exists_mem_of_find?
    {test : key → Bool} {entries : List (key × value)} {content : value}
    (found : find? test entries = some content) : ∃ entry ∈ entries, entry.2 = content := by
  rw [find?_eq_map] at found
  obtain ⟨entry, isFirst, same⟩ := Option.map_eq_some_iff.mp found
  exact ⟨entry, List.mem_of_find?_eq_some isFirst, same⟩

theorem set_of_absent
    {name : key} {entries : List (key × value)} (absent : ∀ entry ∈ entries, same entry.1 name = false)
    (content : value) :
    set same name content entries = entries ++ [(name, content)] := by
  induction entries with
  | nil => rfl
  | cons first rest inductionHypothesis =>
      obtain ⟨firstName, firstContent⟩ := first
      have firstDiffers := absent (firstName, firstContent) List.mem_cons_self
      have restAbsent := fun entry later => absent entry (List.mem_cons_of_mem _ later)
      simp only at firstDiffers
      simp [set, firstDiffers, inductionHypothesis restAbsent]

theorem mem_set
    {name : key} {content : value} {entries : List (key × value)} {entry : key × value}
    (isEntry : entry ∈ set same name content entries) :
    entry ∈ entries ∨ entry.2 = content := by
  induction entries with
  | nil =>
      rw [set, List.mem_singleton] at isEntry
      exact Or.inr (by rw [isEntry])
  | cons first rest inductionHypothesis =>
      obtain ⟨firstName, firstContent⟩ := first
      rw [set] at isEntry
      split at isEntry
      · rcases List.mem_cons.mp isEntry with isFirst | later
        · exact Or.inr (by rw [isFirst])
        · exact Or.inl (List.mem_cons_of_mem _ later)
      · rcases List.mem_cons.mp isEntry with isFirst | later
        · exact Or.inl (List.mem_cons.mpr (Or.inl isFirst))
        · exact (inductionHypothesis later).imp_left (List.mem_cons_of_mem _)

theorem name_of_mem_set
    {name : key} {content : value} {entries : List (key × value)} {entry : key × value}
    (isEntry : entry ∈ set same name content entries) :
    entry.1 = name ∨ ∃ old ∈ entries, entry.1 = old.1 := by
  induction entries with
  | nil =>
      rw [set, List.mem_singleton] at isEntry
      exact Or.inl (by rw [isEntry])
  | cons first rest inductionHypothesis =>
      obtain ⟨firstName, firstContent⟩ := first
      have firstIsOld : (firstName, firstContent) ∈ (firstName, firstContent) :: rest :=
        List.mem_cons_self
      rw [set] at isEntry
      split at isEntry
      · rcases List.mem_cons.mp isEntry with isFirst | later
        · exact Or.inr ⟨_, firstIsOld, by rw [isFirst]⟩
        · exact Or.inr ⟨entry, List.mem_cons_of_mem _ later, rfl⟩
      · rcases List.mem_cons.mp isEntry with isFirst | later
        · exact Or.inr ⟨_, firstIsOld, by rw [isFirst]⟩
        · rcases inductionHypothesis later with isNew | ⟨old, isOld, sameName⟩
          · exact Or.inl isNew
          · exact Or.inr ⟨old, List.mem_cons_of_mem _ isOld, sameName⟩

/-- Changing keys, so that the same ones are the same as before, and contents of a table commutes with
setting an entry. -/
theorem set_map
    {newKey newValue : Type} {sameNew : newKey → newKey → Bool} {changeKey : key → newKey}
    (change : value → newValue) {name : key} {entries : List (key × value)}
    (steady : ∀ entry ∈ entries, sameNew (changeKey entry.1) (changeKey name) = same entry.1 name)
    (content : value) :
    set sameNew (changeKey name) (change content) (entries.map (Prod.map changeKey change)) =
      (set same name content entries).map (Prod.map changeKey change) := by
  induction entries with
  | nil => rfl
  | cons first rest inductionHypothesis =>
      have firstSteady := steady first List.mem_cons_self
      have restSet := inductionHypothesis fun entry later => steady entry (List.mem_cons_of_mem _ later)
      obtain ⟨firstName, firstContent⟩ := first
      simp only [List.map_cons, Prod.map_apply, set, firstSteady]
      by_cases isSame : same firstName name = true
      · simp only [if_pos isSame, List.map_cons, Prod.map_apply]
      · simp only [if_neg isSame, List.map_cons, Prod.map_apply, restSet]

theorem set_map_content
    {newValue : Type} (change : value → newValue) (name : key) (content : value)
    (entries : List (key × value)) :
    set same name (change content) (entries.map (Prod.map id change)) =
      (set same name content entries).map (Prod.map id change) :=
  @set_map key value same key newValue same id change name entries (fun _ _ => rfl) content

theorem find?_map
    {newKey newValue : Type} {changeKey : key → newKey} (change : value → newValue)
    {test : key → Bool} {newTest : newKey → Bool} {entries : List (key × value)}
    (steady : ∀ entry ∈ entries, newTest (changeKey entry.1) = test entry.1) :
    find? newTest (entries.map (Prod.map changeKey change)) = (find? test entries).map change := by
  induction entries with
  | nil => rfl
  | cons first rest inductionHypothesis =>
      have firstSteady := steady first List.mem_cons_self
      have restFound :=
        inductionHypothesis fun entry later => steady entry (List.mem_cons_of_mem _ later)
      obtain ⟨firstName, firstContent⟩ := first
      simp only [List.map_cons, Prod.map_apply, find?, firstSteady, restFound]
      cases test firstName with
      | true => rfl
      | false => rfl

theorem length_set_of_present
    {name : key} {content : value} {entries : List (key × value)}
    (present : ¬ ∀ entry ∈ entries, same entry.1 name = false) :
    (set same name content entries).length = entries.length := by
  induction entries with
  | nil => exact absurd (List.forall_mem_nil _) present
  | cons first rest inductionHypothesis =>
      obtain ⟨firstName, firstContent⟩ := first
      cases isSame : same firstName name with
      | true => simp [set, isSame]
      | false =>
          have restPresent : ¬ ∀ entry ∈ rest, same entry.1 name = false :=
            fun restAbsent => present (List.forall_mem_cons.mpr ⟨isSame, restAbsent⟩)
          simp [set, isSame, inductionHypothesis restPresent]

theorem length_set_cases
    (same : key → key → Bool) (name : key) (content : value) (entries : List (key × value)) :
    (set same name content entries).length = entries.length ∨
      set same name content entries = entries ++ [(name, content)] := by
  by_cases absent : ∀ entry ∈ entries, same entry.1 name = false
  · exact Or.inr (set_of_absent absent content)
  · exact Or.inl (length_set_of_present absent)

end Table

section Keyed

variable {content : Type}

theorem keyedTable_fold
    {entries : List (Json × content)} (table : List (Json × content))
    (keys : ∀ entry ∈ entries, entry.1.isKey = true) :
    ∃ result,
      entries.foldlM
          (fun table entry =>
            if entry.1.isKey then .ok (Table.set Json.equal entry.1 entry.2 table)
            else .error (.misuse (.notAKey entry.1.kind)))
          table = (.ok result : Except Failure (List (Json × content))) ∧
        result.length ≤ table.length + entries.length ∧
        (result.length = table.length + entries.length → result = table ++ entries) := by
  induction entries generalizing table with
  | nil => exact ⟨table, rfl, Nat.le_refl _, fun _ => (List.append_nil table).symm⟩
  | cons first rest inductionHypothesis =>
      have firstKey := keys first List.mem_cons_self
      have restKeys := fun entry later => keys entry (List.mem_cons_of_mem _ later)
      obtain ⟨result, folded, bound, exact_⟩ :=
        inductionHypothesis (Table.set Json.equal first.1 first.2 table) restKeys
      refine ⟨result, ?_, ?_, ?_⟩
      · rw [List.foldlM_cons, if_pos firstKey, Outcome.bind_ok]
        exact folded
      · rcases Table.length_set_cases Json.equal first.1 first.2 table with short | added
        · rw [short] at bound
          rw [List.length_cons]
          omega
        · rw [added, List.length_append, List.length_singleton] at bound
          rw [List.length_cons]
          omega
      · intro full
        rw [List.length_cons] at full
        rcases Table.length_set_cases Json.equal first.1 first.2 table with short | added
        · rw [short] at bound
          omega
        · rw [added] at exact_
          rw [exact_ (by rw [List.length_append, List.length_singleton]; omega),
            List.append_assoc, List.singleton_append]

/-- A table of entries with keys for keys exists, and if it is as long as the list of entries then it
is that list. -/
theorem keyedTable_of_keys
    {entries : List (Json × content)} (keys : ∀ entry ∈ entries, entry.1.isKey = true) :
    ∃ table, keyedTable entries = .ok table ∧ table.length ≤ entries.length ∧
      (table.length = entries.length → table = entries) := by
  obtain ⟨table, folded, bound, exact_⟩ := keyedTable_fold [] keys
  rw [List.length_nil, Nat.zero_add] at bound exact_
  exact ⟨table, folded, bound, exact_⟩

/-- Changing keys, so that equal ones are equal as before, and contents of entries changes their table
alike. -/
theorem keyedTable_map
    {newContent : Type} (kind : Json → Prop) (changeKey : Json → Json)
    (isKey_change : ∀ key, (changeKey key).isKey = key.isKey)
    (steady : ∀ one other, kind one → kind other →
      Json.equal (changeKey one) (changeKey other) = Json.equal one other)
    (change : content → newContent) {entries : List (Json × content)}
    (kinds : ∀ entry ∈ entries, entry.1.isKey = true → kind entry.1) :
    Outcome.Matches
      (fun table changed =>
        changed = table.map (Prod.map changeKey change) ∧ ∀ entry ∈ table, kind entry.1)
      (keyedTable entries) (keyedTable (entries.map (Prod.map changeKey change))) := by
  have fold (table : List (Json × content)) (tableKinds : ∀ entry ∈ table, kind entry.1) :
      Outcome.Matches
        (fun table changed =>
          changed = table.map (Prod.map changeKey change) ∧ ∀ entry ∈ table, kind entry.1)
        (entries.foldlM
          (fun table entry =>
            if entry.1.isKey then .ok (Table.set Json.equal entry.1 entry.2 table)
            else .error (.misuse (.notAKey entry.1.kind)))
          table : Except Failure (List (Json × content)))
        ((entries.map (Prod.map changeKey change)).foldlM
          (fun table entry =>
            if entry.1.isKey then .ok (Table.set Json.equal entry.1 entry.2 table)
            else .error (.misuse (.notAKey entry.1.kind)))
          (table.map (Prod.map changeKey change))) := by
    induction entries generalizing table with
    | nil => exact .done ⟨rfl, tableKinds⟩
    | cons first rest inductionHypothesis =>
        obtain ⟨key, value⟩ := first
        have restKinds := fun entry later => kinds entry (List.mem_cons_of_mem _ later)
        rw [List.map_cons, List.foldlM_cons, List.foldlM_cons]
        simp only [Prod.map_apply, isKey_change]
        by_cases isKey : key.isKey = true
        · have keyKind := kinds (key, value) List.mem_cons_self isKey
          have setKinds : ∀ entry ∈ Table.set Json.equal key value table, kind entry.1 := by
            intro entry isEntry
            rcases Table.name_of_mem_set isEntry with isNew | ⟨old, isOld, sameName⟩
            · exact isNew ▸ keyKind
            · exact sameName ▸ tableKinds old isOld
          have changedSet :=
            Table.set_map change
              (fun entry isEntry => steady entry.1 key (tableKinds entry isEntry) keyKind) value
          rw [if_pos isKey, if_pos isKey, Outcome.bind_ok, Outcome.bind_ok, changedSet]
          exact inductionHypothesis restKinds _ setKinds
        · rw [if_neg isKey, if_neg isKey]
          exact .failed _ _
  exact fold [] fun _ impossible => by cases impossible

end Keyed

namespace Construction

variable {key : Type}

theorem requireNodes_nodes (combinator : String) (index : Nat) (nodes : List (Node key)) :
    requireNodes combinator index (nodes.map .node) = .ok nodes := by
  induction nodes generalizing index with
  | nil => rfl
  | cons first rest inductionHypothesis =>
      simp [requireNodes, requireNode, inductionHypothesis, pure, Except.pure]

theorem requireFields_nodes (entries : List (String × Node key)) :
    requireFields (entries.map fun entry => (.str entry.1, .node entry.2)) = .ok entries := by
  induction entries with
  | nil => rfl
  | cons first rest inductionHypothesis =>
      simp [requireFields, inductionHypothesis, pure, Except.pure]

theorem fields_nodes (presence : Presence) (entries : List (String × Node key)) :
    fields presence (entries.map fun entry => (.str entry.1, .node entry.2)) =
      .ok (.fields presence entries) := by
  simp [fields, requireFields_nodes, pure, Except.pure]

theorem container_node (kind : Container) (element : Node key) :
    container kind (.node element) = .ok (.container kind element) := by
  simp [container, requireNode, pure, Except.pure]

theorem union_nodes {nodes : List (Node key)} (present : nodes ≠ []) :
    union (nodes.map .node) = .ok (.group .union nodes) := by
  simp [union, present, requireNodes_nodes, pure, Except.pure]

theorem sum_nodes (tag : Json) {nodes : List (Node key)} (present : nodes ≠ []) :
    sum tag (nodes.map .node) = .ok (.group .sum nodes) := by
  simp [sum, present, requireNodes_nodes, pure, Except.pure]

theorem tuple_nodes (nodes : List (Node key)) :
    tuple (nodes.map .node) =
      if 1 ≤ nodes.length ∧ nodes.length ≤ 5 then .ok (.group .tuple nodes)
      else .error (.arity "tuple" 1 5 nodes.length) := by
  by_cases within : 1 ≤ nodes.length ∧ nodes.length ≤ 5
  · simp [tuple, requireArity, tupleArity, within, requireNodes_nodes, pure, Except.pure]
  · simp [tuple, requireArity, tupleArity, within]

theorem intersection_nodes (nodes : List (Node key)) :
    intersection (nodes.map .node) =
      if 2 ≤ nodes.length ∧ nodes.length ≤ 5 then .ok (.group .intersection nodes)
      else .error (.arity "intersection" 2 5 nodes.length) := by
  by_cases within : 2 ≤ nodes.length ∧ nodes.length ≤ 5
  · simp [intersection, requireArity, intersectionArity, within, requireNodes_nodes, pure, Except.pure]
  · simp [intersection, requireArity, intersectionArity, within]

/-- A node of values has their literals, one at least. -/
theorem exists_of_literals
    {values : List Json} {node : Node key} (made : literals values = .ok node) :
    ∃ listed, node = .literals listed ∧ listed ≠ [] ∧
      List.Forall₂ (fun value literal => Literal.ofJson? value = some literal) values listed := by
  have each : ∀ {listed}, values.mapM requireLiteral = .ok listed →
      List.Forall₂ (fun value literal => Literal.ofJson? value = some literal) values listed := by
    clear made
    induction values with
    | nil =>
        intro listed mapped
        cases mapped
        exact .nil
    | cons first rest inductionHypothesis =>
        intro listed mapped
        rw [List.mapM_cons] at mapped
        obtain ⟨literal, required, mapped⟩ := Outcome.bind_eq_ok_iff.mp mapped
        obtain ⟨others, restMapped, mapped⟩ := Outcome.bind_eq_ok_iff.mp mapped
        cases mapped
        have isLiteral : Literal.ofJson? first = some literal := by
          unfold requireLiteral at required
          split at required
          · next found =>
              cases required
              exact found
          · cases required
        exact .cons isLiteral (inductionHypothesis restMapped)
  cases values with
  | nil => cases made
  | cons first rest =>
      rw [literals, List.isEmpty_cons, if_neg Bool.false_ne_true] at made
      obtain ⟨listed, mapped, made⟩ := Outcome.bind_eq_ok_iff.mp made
      cases made
      refine ⟨listed, rfl, ?_, each mapped⟩
      rintro rfl
      cases each mapped

/-- Values with a literal form make a node without leaves. -/
theorem literals_of_literals
    {values : List Json} (present : values ≠ [])
    (each : ∀ value ∈ values, (Literal.ofJson? value).isSome = true) :
    ∃ listed, (literals values : Except Failure (Node key)) = .ok (.literals listed) := by
  have mapped : ∃ listed, values.mapM requireLiteral = .ok listed := by
    clear present
    induction values with
    | nil => exact ⟨[], rfl⟩
    | cons first rest inductionHypothesis =>
        obtain ⟨listed, restMapped⟩ :=
          inductionHypothesis fun value later => each value (List.mem_cons_of_mem _ later)
        obtain ⟨literal, found⟩ := Option.isSome_iff_exists.mp (each first List.mem_cons_self)
        exact ⟨literal :: listed, by
          simp [List.mapM_cons, requireLiteral, found, restMapped, pure, Except.pure]⟩
  obtain ⟨listed, mapped⟩ := mapped
  exact ⟨listed, by simp [literals, present, mapped, pure, Except.pure]⟩

end Construction

end SchemaSignature
