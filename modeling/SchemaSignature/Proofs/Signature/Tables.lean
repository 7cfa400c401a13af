import SchemaSignature.Proofs.Signature.Construction

/-!
Which keys a table of values has, and how many. Values that can be keys are compared by their content,
so that being equal is transitive. A table has an entry for a value exactly if one of the entries that
it has been made from is equal to it, which does not depend on the order of these entries, and it finds
the last of them. It is as long as the list of these entries exactly if no two of them are equal.
-/

namespace SchemaSignature

namespace Json

theorem equal_text_iff {text : String} {value : Json} :
    equal (.str text) value = true ↔ value = .str text := by
  cases value with
  | str other => simpa [equal] using eq_comm
  | _ => simp [equal, quantity?]

theorem equal_iff_text {text : String} {value : Json} :
    equal value (.str text) = true ↔ value = .str text := by
  cases value <;> simp [equal, quantity?]

/-- What a value that can be a key is compared by: null has no content. -/
def content? : Json → Option (String ⊕ Quantity)
  | .str text => some (.inl text)
  | value => value.quantity?.map .inr

theorem equal_iff_of_isKey
    {one other : Json} (isKey : one.isKey = true) (otherIsKey : other.isKey = true) :
    equal one other = true ↔ one.content? = other.content? := by
  cases one <;> cases isKey <;> cases other <;> cases otherIsKey <;>
    simp [equal, content?, quantity?]

end Json

namespace Table

variable {key value : Type} {same : key → key → Bool}

theorem find?_append (test : key → Bool) (entries others : List (key × value)) :
    find? test (entries ++ others) = (find? test entries).or (find? test others) := by
  simp only [find?_eq_map, List.find?_append]
  cases entries.find? fun entry => test entry.1 <;> rfl

/-- Setting an entry changes what is found by the tests that its name passes, if the names that pass
a test which this one passes are those that are the same. -/
theorem find?_set
    {test : key → Bool} {name : key} {entries : List (key × value)}
    (respects : ∀ entry ∈ entries, same entry.1 name = true → test entry.1 = test name)
    (joins : ∀ entry ∈ entries, test name = true → test entry.1 = true → same entry.1 name = true)
    (content : value) :
    find? test (set same name content entries) =
      if test name then some content else find? test entries := by
  induction entries with
  | nil => rfl
  | cons first rest inductionHypothesis =>
      have firstRespects := respects first List.mem_cons_self
      have firstJoins := joins first List.mem_cons_self
      have restFound :=
        inductionHypothesis (fun entry later => respects entry (List.mem_cons_of_mem _ later))
          fun entry later => joins entry (List.mem_cons_of_mem _ later)
      obtain ⟨firstName, firstContent⟩ := first
      rw [set]
      by_cases isSame : same firstName name = true
      · rw [if_pos isSame, find?, find?, firstRespects isSame]
        cases test name <;> rfl
      · rw [if_neg isSame, find?, find?, restFound]
        by_cases passes : test firstName = true
        · have nameFails : ¬ test name = true := fun passesToo => isSame (firstJoins passesToo passes)
          rw [if_pos passes, if_neg nameFails, if_pos passes]
        · rw [if_neg passes, if_neg passes]

end Table

section Keyed

variable {content : Type}

/-- What is found under a name, before and after entries are added: the last of these for it, or else
what was found before. -/
theorem keyedTable_fold_find
    {entries table result : List (Json × content)}
    (tableKeys : ∀ entry ∈ table, entry.1.isKey = true)
    (folded : entries.foldlM
        (fun table entry =>
          if entry.1.isKey then .ok (Table.set Json.equal entry.1 entry.2 table)
          else .error (.misuse (.notAKey entry.1.kind)))
        table = (.ok result : Except Failure (List (Json × content))))
    {name : Json} (isKey : name.isKey = true) :
    (∀ entry ∈ entries, entry.1.isKey = true) ∧
      Table.find? (Json.equal · name) result =
        (Table.find? (Json.equal · name) entries.reverse).or
          (Table.find? (Json.equal · name) table) := by
  induction entries generalizing table with
  | nil =>
      cases folded
      exact ⟨List.forall_mem_nil _, rfl⟩
  | cons first rest inductionHypothesis =>
      rw [List.foldlM_cons] at folded
      obtain ⟨middle, setFirst, foldedRest⟩ := Outcome.bind_eq_ok_iff.mp folded
      split at setFirst
      · next firstIsKey =>
          cases setFirst
          have middleKeys : ∀ entry ∈ Table.set Json.equal first.1 first.2 table,
              entry.1.isKey = true := by
            intro entry isEntry
            rcases Table.name_of_mem_set isEntry with isNew | ⟨old, isOld, sameName⟩
            · exact isNew ▸ firstIsKey
            · exact sameName ▸ tableKeys old isOld
          have respects : ∀ entry ∈ table, Json.equal entry.1 first.1 = true →
              Json.equal entry.1 name = Json.equal first.1 name := by
            intro entry isEntry equal
            have sameContent :=
              (Json.equal_iff_of_isKey (tableKeys entry isEntry) firstIsKey).mp equal
            rw [Bool.eq_iff_iff, Json.equal_iff_of_isKey (tableKeys entry isEntry) isKey,
              Json.equal_iff_of_isKey firstIsKey isKey, sameContent]
          have joins : ∀ entry ∈ table, Json.equal first.1 name = true →
              Json.equal entry.1 name = true → Json.equal entry.1 first.1 = true := by
            intro entry isEntry firstEqual equal
            rw [Json.equal_iff_of_isKey (tableKeys entry isEntry) firstIsKey,
              (Json.equal_iff_of_isKey (tableKeys entry isEntry) isKey).mp equal,
              (Json.equal_iff_of_isKey firstIsKey isKey).mp firstEqual]
          obtain ⟨restKeys, found⟩ := inductionHypothesis middleKeys foldedRest
          refine ⟨List.forall_mem_cons.mpr ⟨firstIsKey, restKeys⟩, ?_⟩
          rw [found, Table.find?_set respects joins, List.reverse_cons, Table.find?_append,
            Option.or_assoc, Table.find?]
          cases Json.equal first.1 name <;> rfl
      · cases setFirst

/-- A table finds the last of the entries for a value that it has been made from. -/
theorem keyedTable_find
    {entries table : List (Json × content)} (keyed : keyedTable entries = .ok table) {name : Json}
    (isKey : name.isKey = true) :
    Table.find? (Json.equal · name) table = Table.find? (Json.equal · name) entries.reverse := by
  rw [(keyedTable_fold_find (List.forall_mem_nil _) keyed isKey).2]
  exact Option.or_none

/-- A table has an entry for a value if it has been made from one for an equal value. -/
theorem keyedTable_finds
    {entries table : List (Json × content)} (keyed : keyedTable entries = .ok table) {name : Json}
    (isKey : name.isKey = true) :
    (Table.find? (Json.equal · name) table).isSome =
      entries.any fun entry => Json.equal entry.1 name := by
  rw [keyedTable_find keyed isKey, Table.find?_eq_map, Option.isSome_map, List.isSome_find?,
    List.any_reverse]

theorem isKey_of_keyedTable
    {entries table : List (Json × content)} (keyed : keyedTable entries = .ok table) :
    ∀ entry ∈ entries, entry.1.isKey = true :=
  (keyedTable_fold_find (List.forall_mem_nil _) keyed (rfl : Json.null.isKey = true)).1

/-- Adding entries makes a table longer by at most their number, and by their number exactly if none of
them is equal to an old or to another new one. -/
theorem keyedTable_fold_length
    {entries table result : List (Json × content)}
    (folded : entries.foldlM
        (fun table entry =>
          if entry.1.isKey then .ok (Table.set Json.equal entry.1 entry.2 table)
          else .error (.misuse (.notAKey entry.1.kind)))
        table = (.ok result : Except Failure (List (Json × content)))) :
    result.length ≤ table.length + entries.length ∧
      (result.length = table.length + entries.length ↔
        (∀ old ∈ table, ∀ entry ∈ entries, Json.equal old.1 entry.1 = false) ∧
          entries.Pairwise fun one other => Json.equal one.1 other.1 = false) := by
  induction entries generalizing table with
  | nil =>
      cases folded
      exact ⟨Nat.le_refl _, by simp⟩
  | cons first rest inductionHypothesis =>
      rw [List.foldlM_cons] at folded
      obtain ⟨middle, setFirst, foldedRest⟩ := Outcome.bind_eq_ok_iff.mp folded
      split at setFirst
      · cases setFirst
        obtain ⟨bound, exact_⟩ := inductionHypothesis foldedRest
        by_cases absent : ∀ old ∈ table, Json.equal old.1 first.1 = false
        · have added : Table.set Json.equal first.1 first.2 table = table ++ [first] :=
            Table.set_of_absent absent first.2
          rw [added, List.length_append, List.length_singleton] at bound exact_
          rw [List.length_cons]
          refine ⟨by omega, ?_⟩
          rw [show table.length + (rest.length + 1) = table.length + 1 + rest.length by omega, exact_,
            List.forall_mem_append, List.forall_mem_singleton, List.pairwise_cons]
          constructor
          · rintro ⟨⟨apart, firstApart⟩, restApart⟩
            exact ⟨fun old isOld => List.forall_mem_cons.mpr ⟨absent old isOld, apart old isOld⟩,
              firstApart, restApart⟩
          · rintro ⟨apart, firstApart, restApart⟩
            exact ⟨⟨fun old isOld => (List.forall_mem_cons.mp (apart old isOld)).2, firstApart⟩,
              restApart⟩
        · -- The first entry takes the place of an old one, so the table stays too short.
          rw [Table.length_set_of_present absent] at bound
          rw [List.length_cons]
          refine ⟨by omega, ⟨fun full => by omega, fun apart => ?_⟩⟩
          exact absurd (fun old isOld => apart.1 old isOld first List.mem_cons_self) absent
      · cases setFirst

/-- A table is as long as the list of the entries that it has been made from exactly if no two of them
are equal. -/
theorem keyedTable_length_iff
    {entries table : List (Json × content)} (keyed : keyedTable entries = .ok table) :
    table.length = entries.length ↔
      entries.Pairwise fun one other => Json.equal one.1 other.1 = false := by
  have exact_ := (keyedTable_fold_length keyed).2
  simpa using exact_

end Keyed

end SchemaSignature
