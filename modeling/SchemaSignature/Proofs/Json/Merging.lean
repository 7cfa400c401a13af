import SchemaSignature.Json.Merge
import SchemaSignature.Proofs.Document.DistinctKeys
import SchemaSignature.Proofs.Naming.Names

/-!
Merging values. Objects are merged by laying one table over another: the lower one keeps its order,
the keys of the upper one that are new follow in theirs, and a key of both has the value of the upper
one. Merging in memory makes a new object and writes to no other, so whatever was in memory is still
there.
-/

namespace SchemaSignature

/-! ## Tables over tables -/

namespace Table

variable {content : Type}

/-- The lower table with the entries of the upper one set in turn. -/
def overlay (lower upper : List (String × content)) : List (String × content) :=
  upper.foldl (fun merged entry => set (· == ·) entry.1 entry.2 merged) lower

theorem lookup_eq_find? (name : String) (entries : List (String × content)) :
    entries.lookup name = find? (· == name) entries := by
  induction entries with
  | nil => rfl
  | cons first rest inductionHypothesis =>
      obtain ⟨firstName, value⟩ := first
      rw [List.lookup_cons, find?, inductionHypothesis, BEq.comm]
      cases firstName == name <;> rfl

theorem lookup_eq_none_of_not_mem
    {name : String} {entries : List (String × content)} (absent : name ∉ entries.map Prod.fst) :
    entries.lookup name = none := by
  refine List.lookup_eq_none_iff.mpr fun entry isEntry => ?_
  rw [bne_iff_ne]
  rintro rfl
  exact absent (List.mem_map.mpr ⟨entry, isEntry, rfl⟩)

theorem lookup_set (name other : String) (value : content) (entries : List (String × content)) :
    (set (· == ·) name value entries).lookup other =
      if other = name then some value else entries.lookup other := by
  rw [lookup_eq_find?, lookup_eq_find?]
  split
  · next same => rw [same, find?_set_self]
  · next different => rw [find?_set_of_ne different]

theorem keys_set (name : String) (value : content) (entries : List (String × content)) :
    (set (· == ·) name value entries).map Prod.fst =
      if name ∈ entries.map Prod.fst then entries.map Prod.fst
      else entries.map Prod.fst ++ [name] := by
  induction entries with
  | nil => rfl
  | cons first rest inductionHypothesis =>
      obtain ⟨firstName, firstValue⟩ := first
      by_cases isFirst : firstName = name
      · simp [set, isFirst]
      · rw [set, if_neg (by simpa using isFirst), List.map_cons, inductionHypothesis, List.map_cons]
        by_cases later : name ∈ rest.map Prod.fst
        · rw [if_pos later, if_pos (List.mem_cons_of_mem _ later)]
        · have absent : name ∉ firstName :: rest.map Prod.fst :=
            List.not_mem_cons_of_ne_of_not_mem (Ne.symm isFirst) later
          rw [if_neg later, if_neg absent, List.cons_append]

theorem overlay_cons
    (lower : List (String × content)) (name : String) (value : content)
    (upper : List (String × content)) :
    overlay lower ((name, value) :: upper) = overlay (set (· == ·) name value lower) upper :=
  rfl

/-- A key has the value of the upper table, or else that of the lower one. -/
theorem lookup_overlay
    (lower : List (String × content)) {upper : List (String × content)}
    (distinct : (upper.map Prod.fst).Nodup) (name : String) :
    (overlay lower upper).lookup name = (upper.lookup name).or (lower.lookup name) := by
  induction upper generalizing lower with
  | nil => rfl
  | cons first rest inductionHypothesis =>
      obtain ⟨firstName, value⟩ := first
      obtain ⟨isNew, restDistinct⟩ := List.nodup_cons.mp distinct
      rw [overlay_cons, inductionHypothesis _ restDistinct, lookup_set, List.lookup_cons]
      by_cases same : name = firstName
      · subst same
        rw [lookup_eq_none_of_not_mem isNew, if_pos rfl, beq_self_eq_true]
        rfl
      · rw [if_neg same, beq_false_of_ne same]

/-- The keys of the lower table come first, and the new ones of the upper table follow. -/
theorem keys_overlay
    (lower : List (String × content)) {upper : List (String × content)}
    (distinct : (upper.map Prod.fst).Nodup) :
    (overlay lower upper).map Prod.fst =
      lower.map Prod.fst ++ (upper.map Prod.fst).filter (· ∉ lower.map Prod.fst) := by
  induction upper generalizing lower with
  | nil => rw [List.map_nil, List.filter_nil, List.append_nil, overlay, List.foldl_nil]
  | cons first rest inductionHypothesis =>
      obtain ⟨name, value⟩ := first
      obtain ⟨isNew, restDistinct⟩ := List.nodup_cons.mp distinct
      rw [overlay_cons, inductionHypothesis _ restDistinct, keys_set, List.map_cons]
      by_cases present : name ∈ lower.map Prod.fst
      · rw [if_pos present, List.filter_cons_of_neg (by simpa using present)]
      · have sameRest : (rest.map Prod.fst).filter (· ∉ lower.map Prod.fst ++ [name]) =
            (rest.map Prod.fst).filter (· ∉ lower.map Prod.fst) := by
          apply List.filter_congr
          intro other isLater
          have differs : other ≠ name := fun same => isNew (same ▸ isLater)
          simp [differs]
        rw [if_neg present, List.filter_cons_of_pos (by simpa using present), sameRest,
          List.append_assoc, List.singleton_append]

theorem nodup_keys_overlay
    {lower upper : List (String × content)} (distinct : (lower.map Prod.fst).Nodup)
    (upperDistinct : (upper.map Prod.fst).Nodup) : ((overlay lower upper).map Prod.fst).Nodup := by
  rw [keys_overlay lower upperDistinct]
  refine distinct.append (upperDistinct.filter _) ?_
  intro name isLower isNew
  have absent := (List.mem_filter.mp isNew).2
  exact of_decide_eq_true absent isLower

/-- Tables with the same different keys in the same order and the same values are the same. -/
theorem eq_of_lookup_eq
    {one other : List (String × content)} (distinct : (one.map Prod.fst).Nodup)
    (sameKeys : one.map Prod.fst = other.map Prod.fst)
    (sameValues : ∀ name, one.lookup name = other.lookup name) : one = other := by
  induction one generalizing other with
  | nil => exact (List.map_eq_nil_iff.mp sameKeys.symm).symm
  | cons first rest inductionHypothesis =>
      obtain ⟨name, value⟩ := first
      obtain ⟨⟨otherName, otherValue⟩, others, rfl, sameName, sameRest⟩ :=
        List.map_eq_cons_iff.mp sameKeys.symm
      obtain ⟨isNew, restDistinct⟩ := List.nodup_cons.mp distinct
      have isName : otherName = name := sameName
      subst isName
      have sameValue := sameValues otherName
      rw [List.lookup_cons_self, List.lookup_cons_self] at sameValue
      have laterValues : ∀ later, rest.lookup later = others.lookup later := by
        intro later
        by_cases isFirst : later = otherName
        · have absent : otherName ∉ others.map Prod.fst := sameRest ▸ isNew
          rw [isFirst, lookup_eq_none_of_not_mem isNew, lookup_eq_none_of_not_mem absent]
        · have found := sameValues later
          rw [List.lookup_cons, List.lookup_cons, beq_false_of_ne isFirst] at found
          exact found
      rw [Option.some.inj sameValue, inductionHypothesis restDistinct sameRest.symm laterValues]

theorem overlay_assoc
    {lower middle upper : List (String × content)} (lowerDistinct : (lower.map Prod.fst).Nodup)
    (middleDistinct : (middle.map Prod.fst).Nodup) (upperDistinct : (upper.map Prod.fst).Nodup) :
    overlay lower (overlay middle upper) = overlay (overlay lower middle) upper := by
  have aboveDistinct := nodup_keys_overlay middleDistinct upperDistinct
  apply eq_of_lookup_eq (nodup_keys_overlay lowerDistinct aboveDistinct)
  · rw [keys_overlay lower aboveDistinct, keys_overlay middle upperDistinct,
      keys_overlay _ upperDistinct, keys_overlay lower middleDistinct, List.filter_append,
      List.filter_filter, List.append_assoc]
    congr 2
    apply List.filter_congr
    intro name _
    by_cases isLower : name ∈ lower.map Prod.fst
    · simp [isLower]
    · by_cases isMiddle : name ∈ middle.map Prod.fst <;> simp [isLower, isMiddle]
  · intro name
    rw [lookup_overlay _ aboveDistinct, lookup_overlay _ upperDistinct,
      lookup_overlay _ upperDistinct, lookup_overlay _ middleDistinct, Option.or_assoc]

/-- Laid over nothing, a table with different keys is itself. -/
theorem overlay_nil {upper : List (String × content)} (distinct : (upper.map Prod.fst).Nodup) :
    overlay [] upper = upper := by
  have nothingDistinct : (([] : List (String × content)).map Prod.fst).Nodup := List.nodup_nil
  apply eq_of_lookup_eq (nodup_keys_overlay nothingDistinct distinct)
  · rw [keys_overlay [] distinct]
    simp
  · intro name
    rw [lookup_overlay [] distinct, List.lookup_nil, Option.or_none]

end Table

/-! ## Merges of values -/

namespace Json

/-- A value that is there and that has no members. -/
def IsPlain (value : Json) : Prop :=
  value ≠ .null ∧ ∀ members, value ≠ .obj members

theorem isPlain_or_object {value : Json} (present : value ≠ .null) :
    value.IsPlain ∨ ∃ members, value = .obj members := by
  by_cases isObject : ∃ members, value = .obj members
  · exact Or.inr isObject
  · exact Or.inl ⟨present, fun members same => isObject ⟨members, same⟩⟩

theorem intersect_null (value : Json) : intersect value .null = .null := by
  cases value <;> rfl

theorem intersect_objects (lower upper : List (String × Json)) :
    intersect (.obj lower) (.obj upper) = .obj (Table.overlay lower upper) :=
  rfl

theorem intersect_of_isPlain {one : Json} (isPlain : one.IsPlain) (other : Json) :
    intersect one other = other := by
  cases one with
  | null => exact absurd rfl isPlain.1
  | obj members => exact absurd rfl (isPlain.2 members)
  | _ => cases other <;> rfl

theorem intersect_object_of_isPlain
    (members : List (String × Json)) {other : Json} (isPlain : other.IsPlain) :
    intersect (.obj members) other = .obj members := by
  cases other with
  | null => exact absurd rfl isPlain.1
  | obj upper => exact absurd rfl (isPlain.2 upper)
  | _ => rfl

/-- Merging three values gives the same from either side. -/
theorem intersect_assoc
    {one middle other : Json} (onePresent : one ≠ .null) (middlePresent : middle ≠ .null)
    (otherPresent : other ≠ .null) (oneDistinct : one.DistinctKeys)
    (middleDistinct : middle.DistinctKeys) (otherDistinct : other.DistinctKeys) :
    intersect one (intersect middle other) = intersect (intersect one middle) other := by
  rcases isPlain_or_object onePresent with onePlain | ⟨lower, rfl⟩
  · rw [intersect_of_isPlain onePlain, intersect_of_isPlain onePlain]
  rcases isPlain_or_object middlePresent with middlePlain | ⟨between, rfl⟩
  · rw [intersect_of_isPlain middlePlain, intersect_object_of_isPlain lower middlePlain]
  rcases isPlain_or_object otherPresent with otherPlain | ⟨upper, rfl⟩
  · rw [intersect_object_of_isPlain between otherPlain, intersect_objects,
      intersect_object_of_isPlain _ otherPlain]
  · rw [intersect_objects, intersect_objects, intersect_objects, intersect_objects,
      Table.overlay_assoc oneDistinct.1 middleDistinct.1 otherDistinct.1]

end Json

/-! ## Values in memory -/

namespace Memory

/-- What stands for a value: a value without parts for itself, and the place of an array or object. -/
inductive Reference where
  | plain (value : Json)
  | place (address : Nat)

/-- An array or object in memory. Its parts may be parts of others, too. -/
inductive Cell where
  | array (items : List Reference)
  | object (members : List (String × Reference))

end Memory

/-- The arrays and objects made so far, each one at its place. -/
abbrev Memory : Type :=
  List Memory.Cell

namespace Memory

mutual

/-- A reference stands for a value. -/
inductive Holds (memory : Memory) : Reference → Json → Prop where
  | plain {value : Json} (isKey : value.isKey = true) : Holds memory (.plain value) value
  | array {address : Nat} {items : List Reference} {values : List Json}
      (located : memory[address]? = some (.array items)) (each : HoldsItems memory items values) :
      Holds memory (.place address) (.arr values)
  | object {address : Nat} {members : List (String × Reference)} {values : List (String × Json)}
      (located : memory[address]? = some (.object members))
      (each : HoldsMembers memory members values) :
      Holds memory (.place address) (.obj values)

inductive HoldsItems (memory : Memory) : List Reference → List Json → Prop where
  | nil : HoldsItems memory [] []
  | cons {item : Reference} {value : Json} {rest : List Reference} {values : List Json}
      (first : Holds memory item value) (later : HoldsItems memory rest values) :
      HoldsItems memory (item :: rest) (value :: values)

/-- References stand for values under the same keys in the same order. -/
inductive HoldsMembers (memory : Memory) :
    List (String × Reference) → List (String × Json) → Prop where
  | nil : HoldsMembers memory [] []
  | cons {key : String} {member : Reference} {value : Json} {rest : List (String × Reference)}
      {values : List (String × Json)}
      (first : Holds memory member value) (later : HoldsMembers memory rest values) :
      HoldsMembers memory ((key, member) :: rest) ((key, value) :: values)

end

theorem getElem?_of_grown
    {memory grown : Memory} (isPrefix : memory <+: grown) {address : Nat} {cell : Cell}
    (located : memory[address]? = some cell) : grown[address]? = some cell := by
  obtain ⟨more, rfl⟩ := isPrefix
  have within : address < memory.length := (List.getElem?_eq_some_iff.mp located).1
  rw [List.getElem?_append_left within, located]

mutual

/-- What a reference stands for stays when memory grows. -/
theorem Holds.of_grown
    {memory grown : Memory} (isPrefix : memory <+: grown) {reference : Reference} {value : Json} :
    Holds memory reference value → Holds grown reference value
  | .plain isKey => .plain isKey
  | .array located each => .array (getElem?_of_grown isPrefix located) (each.of_grown isPrefix)
  | .object located each => .object (getElem?_of_grown isPrefix located) (each.of_grown isPrefix)

theorem HoldsItems.of_grown
    {memory grown : Memory} (isPrefix : memory <+: grown) {items : List Reference}
    {values : List Json} : HoldsItems memory items values → HoldsItems grown items values
  | .nil => .nil
  | .cons first later => .cons (first.of_grown isPrefix) (later.of_grown isPrefix)

theorem HoldsMembers.of_grown
    {memory grown : Memory} (isPrefix : memory <+: grown) {members : List (String × Reference)}
    {values : List (String × Json)} :
    HoldsMembers memory members values → HoldsMembers grown members values
  | .nil => .nil
  | .cons first later => .cons (first.of_grown isPrefix) (later.of_grown isPrefix)

end

/-! ## Merging in memory -/

def Reference.isNull : Reference → Bool
  | .plain .null => true
  | _ => false

/-- The members of an object. -/
def members? (memory : Memory) : Reference → Option (List (String × Reference))
  | .plain _ => none
  | .place address =>
      match memory[address]? with
      | some (.object members) => some members
      | _ => none

/-- Writes a member of the object at a place. -/
def setMember (memory : Memory) (address : Nat) (member : String × Reference) : Memory :=
  match memory[address]? with
  | some (.object members) =>
      memory.set address (.object (Table.set (· == ·) member.1 member.2 members))
  | _ => memory

/-- Merges two values that are in memory. Unless one of them is null or neither is an object, a new
object is made with the members of the first, if it is an object, and the members of the second are
written to the new object one after the other. -/
def merge (memory : Memory) (first second : Reference) : Reference × Memory :=
  if first.isNull || second.isNull then (second, memory)
  else
    match memory.members? first, memory.members? second with
    | none, none => (second, memory)
    | firstMembers, secondMembers =>
        (.place memory.length,
          (secondMembers.getD []).foldl (fun changed => changed.setMember memory.length)
            (memory ++ [.object (firstMembers.getD [])]))

/-- Writing to the new object leaves the others as they are. -/
theorem foldl_setMember (memory : Memory) (members written : List (String × Reference)) :
    written.foldl (fun changed => changed.setMember memory.length) (memory ++ [.object members]) =
      memory ++ [.object (Table.overlay members written)] := by
  induction written generalizing members with
  | nil => rfl
  | cons first rest inductionHypothesis =>
      have isNew : (memory ++ [Cell.object members])[memory.length]? = some (.object members) :=
        List.getElem?_concat_length
      have changed : setMember (memory ++ [.object members]) memory.length first =
          memory ++ [.object (Table.set (· == ·) first.1 first.2 members)] := by
        rw [setMember, isNew]
        simp
      rw [List.foldl_cons, changed, inductionHypothesis]
      rfl

theorem HoldsMembers.set
    {memory : Memory} {members : List (String × Reference)} {values : List (String × Json)}
    (each : HoldsMembers memory members values) (key : String) {member : Reference} {value : Json}
    (holds : Holds memory member value) :
    HoldsMembers memory (Table.set (· == ·) key member members)
      (Table.set (· == ·) key value values) := by
  induction members generalizing values with
  | nil =>
      cases each
      exact .cons holds .nil
  | cons first rest inductionHypothesis =>
      cases each with
      | @cons name _ _ _ _ held later =>
          rw [Table.set, Table.set]
          split
          · exact .cons holds later
          · exact .cons held (inductionHypothesis later)

theorem HoldsMembers.overlay
    {memory : Memory} {members written : List (String × Reference)}
    {values writtenValues : List (String × Json)} (each : HoldsMembers memory members values)
    (eachWritten : HoldsMembers memory written writtenValues) :
    HoldsMembers memory (Table.overlay members written) (Table.overlay values writtenValues) := by
  induction written generalizing members values writtenValues with
  | nil =>
      cases eachWritten
      exact each
  | cons first rest inductionHypothesis =>
      cases eachWritten with
      | cons held later =>
          rw [Table.overlay_cons, Table.overlay_cons]
          exact inductionHypothesis (each.set _ held) later

section Merging

variable {memory : Memory} {reference : Reference} {value : Json}
  (held : Holds memory reference value)

include held

theorem isNull_iff : reference.isNull = true ↔ value = .null := by
  cases held with
  | plain => cases value <;> simp [Reference.isNull]
  | array => simp [Reference.isNull]
  | object => simp [Reference.isNull]

/-- A reference leads to members exactly if it stands for an object. -/
theorem members?_cases :
    (∀ members, value ≠ .obj members) ∧ memory.members? reference = none ∨
      ∃ members values, value = .obj values ∧ memory.members? reference = some members ∧
        HoldsMembers memory members values := by
  cases held with
  | plain isKey =>
      refine Or.inl ⟨?_, rfl⟩
      rintro members rfl
      cases isKey
  | array located =>
      refine Or.inl ⟨fun members => nofun, ?_⟩
      rw [members?, located]
  | object located each =>
      refine Or.inr ⟨_, _, rfl, ?_, each⟩
      rw [members?, located]

end Merging

/-- The merge of two values in memory stands for their merge, and everything that was in memory is
still there. -/
theorem holds_merge
    {memory : Memory} {first second : Reference} {one other : Json} (held : Holds memory first one)
    (otherHeld : Holds memory second other) (distinct : other.DistinctKeys) :
    Holds (memory.merge first second).2 (memory.merge first second).1 (Json.intersect one other) ∧
      memory <+: (memory.merge first second).2 := by
  -- A new object at the end of memory stands for what its members stand for.
  have concat {members : List (String × Reference)} {values : List (String × Json)}
      (each : HoldsMembers memory members values) :
      Holds (memory ++ [.object members]) (.place memory.length) (.obj values) ∧
        memory <+: memory ++ [.object members] :=
    ⟨.object List.getElem?_concat_length (each.of_grown (List.prefix_append _ _)),
      List.prefix_append _ _⟩
  by_cases oneIsNull : one = .null
  · have same : Json.intersect one other = other := by
      rw [oneIsNull]
      cases other <;> rfl
    rw [merge, (isNull_iff held).mpr oneIsNull, same]
    exact ⟨otherHeld, List.prefix_rfl⟩
  by_cases otherIsNull : other = .null
  · have same : Json.intersect one other = other := by
      rw [otherIsNull, Json.intersect_null]
    rw [merge, (isNull_iff otherHeld).mpr otherIsNull, Bool.or_true, same]
    exact ⟨otherHeld, List.prefix_rfl⟩
  have notNull : (first.isNull || second.isNull) = false := by
    rw [Bool.or_eq_false_iff, Bool.eq_false_iff, Bool.eq_false_iff, Ne, Ne, isNull_iff held,
      isNull_iff otherHeld]
    exact ⟨oneIsNull, otherIsNull⟩
  rw [merge, notNull]
  rcases members?_cases held with ⟨noObject, absent⟩ | ⟨members, values, rfl, found, each⟩ <;>
    rcases members?_cases otherHeld with
      ⟨otherNoObject, otherAbsent⟩ | ⟨written, writtenValues, rfl, otherFound, otherEach⟩
  · rw [absent, otherAbsent, Json.intersect_of_isPlain ⟨oneIsNull, noObject⟩]
    exact ⟨otherHeld, List.prefix_rfl⟩
  · rw [absent, otherFound, Json.intersect_of_isPlain ⟨oneIsNull, noObject⟩]
    simp only [Bool.false_eq_true, if_false, Option.getD_none, Option.getD_some, foldl_setMember]
    have merged := HoldsMembers.overlay .nil otherEach
    rw [Table.overlay_nil distinct.1] at merged
    exact concat merged
  · rw [found, otherAbsent, Json.intersect_object_of_isPlain values ⟨otherIsNull, otherNoObject⟩]
    exact concat each
  · rw [found, otherFound, Json.intersect_objects]
    simp only [Bool.false_eq_true, if_false, Option.getD_some, foldl_setMember]
    exact concat (each.overlay otherEach)

end Memory

/-! ## Right-biased merges -/

namespace Json

/-- Values other than null are merged associatively, key order included. The merge of two objects has
the keys of the first in their order and then those that only the second has in theirs; a key has the
value of the second object, or else that of the first. Merging two values that are in memory, whatever
parts they share, gives a reference to their merge and writes to nothing that was in memory, so every
reference still stands for what it stood for. -/
theorem right_biased_merge
    {one middle other : Json} (onePresent : one ≠ .null) (middlePresent : middle ≠ .null)
    (otherPresent : other ≠ .null) (oneDistinct : one.DistinctKeys)
    (middleDistinct : middle.DistinctKeys) (otherDistinct : other.DistinctKeys) :
    intersect one (intersect middle other) = intersect (intersect one middle) other ∧
      (∀ lower upper, one = .obj lower → middle = .obj upper →
        ∃ merged, intersect one middle = .obj merged ∧
          merged.map Prod.fst =
            lower.map Prod.fst ++ (upper.map Prod.fst).filter (· ∉ lower.map Prod.fst) ∧
          ∀ key, member? merged key = (member? upper key).or (member? lower key)) ∧
      ∀ (memory : Memory) (first second : Memory.Reference),
        memory.Holds first one → memory.Holds second middle →
          ∃ result after, memory.merge first second = (result, after) ∧
            after.Holds result (intersect one middle) ∧ memory <+: after ∧
            ∀ reference value, memory.Holds reference value → after.Holds reference value := by
  refine ⟨intersect_assoc onePresent middlePresent otherPresent oneDistinct middleDistinct
    otherDistinct, ?_, ?_⟩
  · rintro lower upper rfl rfl
    exact ⟨Table.overlay lower upper, intersect_objects lower upper,
      Table.keys_overlay lower middleDistinct.1, Table.lookup_overlay lower middleDistinct.1⟩
  · intro memory first second held secondHeld
    obtain ⟨holds, isPrefix⟩ := Memory.holds_merge held secondHeld middleDistinct
    exact ⟨_, _, rfl, holds, isPrefix, fun _ _ stands => stands.of_grown isPrefix⟩

/-- An object with an array in it. -/
def drawer : Json :=
  .obj [("lock", .int 1), ("keys", .arr [.int 7])]

/-- An object that shares a key with the drawer and has one of its own. -/
def label : Json :=
  .obj [("name", .null), ("keys", .bool true)]

/-- The drawer and the label in memory, with the array of the drawer at a place of its own. -/
def furnished : Memory :=
  [.array [.plain (.int 7)], .object [("lock", .plain (.int 1)), ("keys", .place 0)],
    .object [("name", .plain .null), ("keys", .plain (.bool true))]]

theorem holds_drawer : furnished.Holds (.place 1) drawer :=
  .object rfl (.cons (.plain rfl) (.cons (.array rfl (.cons (.plain rfl) .nil)) .nil))

theorem holds_label : furnished.Holds (.place 2) label :=
  .object rfl (.cons (.plain rfl) (.cons (.plain rfl) .nil))

/-- The label is laid over the drawer, beside a text and in memory. -/
theorem right_biased_merge_drawer :
    drawer ≠ .null ∧ label ≠ .null ∧ Json.str "dust" ≠ .null ∧ drawer.DistinctKeys ∧
      label.DistinctKeys ∧ (Json.str "dust").DistinctKeys ∧
      intersect drawer (intersect label (.str "dust")) =
        intersect (intersect drawer label) (.str "dust") ∧
      furnished.Holds (.place 1) drawer ∧ furnished.Holds (.place 2) label ∧
      ∃ result after, furnished.merge (.place 1) (.place 2) = (result, after) ∧
        after.Holds result
          (.obj [("lock", .int 1), ("keys", .bool true), ("name", .null)]) ∧
        after.Holds (.place 1) drawer ∧ after.Holds (.place 2) label := by
  have drawerDistinct : drawer.DistinctKeys := by
    simp [drawer, DistinctKeys, DistinctKeysOfMembers, DistinctKeysOfItems]
  have labelDistinct : label.DistinctKeys := by
    simp [label, DistinctKeys, DistinctKeysOfMembers]
  have drawerPresent : drawer ≠ .null := nofun
  have labelPresent : label ≠ .null := nofun
  have textPresent : Json.str "dust" ≠ .null := nofun
  obtain ⟨assoc, _, inMemory⟩ :=
    right_biased_merge drawerPresent labelPresent textPresent drawerDistinct labelDistinct trivial
  obtain ⟨result, after, merged, holds, _, keeps⟩ :=
    inMemory furnished (.place 1) (.place 2) holds_drawer holds_label
  exact ⟨drawerPresent, labelPresent, textPresent, drawerDistinct, labelDistinct, trivial, assoc,
    holds_drawer, holds_label, result, after, merged, holds, keeps _ _ holds_drawer,
    keeps _ _ holds_label⟩

end Json

end SchemaSignature
