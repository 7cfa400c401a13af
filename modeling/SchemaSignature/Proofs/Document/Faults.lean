import SchemaSignature.Proofs.Document.Descent
import SchemaSignature.Proofs.Signature.Construction

/-!
What drafting a schema can come to. The form of a schema is sound: the constructors that it leads to
are never given too few members, plain values or values without a literal form. So a form has a node
exactly if it is free of faults and its subschemas have nodes, where the only faults beside those of
a rejected form are a tuple or an intersection with a wrong number of members.
-/

namespace SchemaSignature

namespace Form

mutual

/-- The fault for which a form has no node even if its subschemas have one. -/
def fault? : Form → Option Failure
  | .rejected failure => some failure
  | .object _ (.error failure) => some failure
  | .tuple members =>
      if 1 ≤ members.length ∧ members.length ≤ 5 then none
      else some (.arity "tuple" 1 5 members.length)
  | .intersection members =>
      if members.length ≤ 5 then none else some (.arity "intersection" 2 5 members.length)
  | .alternatives forms => faultOfAny? forms
  | _ => none

def faultOfAny? : List Form → Option Failure
  | [] => none
  | form :: rest => (fault? form).or (faultOfAny? rest)

end

mutual

/-- A form has the members that its constructor asks for. -/
def Sound : Form → Prop
  | .choice members | .intersection members => members ≠ []
  | .discriminated _ tags members => members ≠ [] ∧ ∀ tag ∈ tags, tag.isKey = true
  | .values literals _ => ∀ value ∈ literals, (Literal.ofJson? value).isSome = true
  | .alternatives forms => forms ≠ [] ∧ AllSound forms
  | _ => True

def AllSound : List Form → Prop
  | [] => True
  | form :: rest => Sound form ∧ AllSound rest

end

mutual

/-- The fields of objects in a form have different names. -/
def NamesApart : Form → Prop
  | .object _ (.ok (some listed)) => (listed.map fun property => fieldName property.name).Nodup
  | .alternatives forms => AllNamesApart forms
  | _ => True

def AllNamesApart : List Form → Prop
  | [] => True
  | form :: rest => NamesApart form ∧ AllNamesApart rest

end

theorem allSound_iff {forms : List Form} : AllSound forms ↔ ∀ form ∈ forms, form.Sound := by
  induction forms with
  | nil => simp [AllSound]
  | cons first rest inductionHypothesis => simp [AllSound, inductionHypothesis]

theorem allNamesApart_iff {forms : List Form} :
    AllNamesApart forms ↔ ∀ form ∈ forms, form.NamesApart := by
  induction forms with
  | nil => simp [AllNamesApart]
  | cons first rest inductionHypothesis => simp [AllNamesApart, inductionHypothesis]

/-! ## The form of a schema is sound -/

theorem isSome_literal
    {value : Json} (isKey : value.isKey = true) (notNull : (value.kind == .null) = false) :
    (Literal.ofJson? value).isSome = true := by
  cases value with
  | null => cases notNull
  | arr items => cases isKey
  | obj members => cases isKey
  | _ => rfl

theorem sound_values
    {listed : List Json} (keys : ∀ value ∈ listed, value.isKey = true) (nullable : Bool) :
    (Form.values (listed.filter fun value => !(value.kind == .null)) nullable).Sound := by
  intro value isListed
  obtain ⟨isListed, notNull⟩ := List.mem_filter.mp isListed
  exact isSome_literal (keys value isListed) (by simpa using notNull)

theorem isKey_of_foldlM_set
    {entries : List (String × Json)} {table result : List (Json × Json)}
    (tableKeys : ∀ entry ∈ table, entry.2.isKey = true)
    (done : entries.foldlM
      (fun table entry =>
        if entry.2.isKey then .ok (Table.set Json.equal entry.2 (.str entry.1) table)
        else .error (.misuse (.notAKey entry.2.kind)))
      table = (.ok result : Except Failure _)) :
    ∀ entry ∈ result, entry.2.isKey = true := by
  induction entries generalizing table with
  | nil =>
      cases done
      exact tableKeys
  | cons first rest inductionHypothesis =>
      rw [List.foldlM_cons] at done
      obtain ⟨next, stepped, done⟩ := Outcome.bind_eq_ok_iff.mp done
      split at stepped
      · cases stepped
        refine inductionHypothesis ?_ done
        intro entry isEntry
        rcases Table.mem_set isEntry with old | new
        · exact tableKeys entry old
        · rw [new]
          rfl
      · cases stepped

theorem isKey_of_mem_mappedTags
    {discriminator : List (String × Json)} {tagOf : List (Json × Json)}
    (mapped : mappedTags discriminator = .ok tagOf) :
    ∀ entry ∈ tagOf, entry.2.isKey = true := by
  unfold mappedTags at mapped
  split at mapped
  · cases mapped
    intro entry isEntry
    cases isEntry
  · exact isKey_of_foldlM_set (fun entry isEntry => by cases isEntry) mapped
  · cases mapped

theorem isKey_of_isSome_literal
    {value : Json} (isLiteral : (Literal.ofJson? value).isSome = true) : value.isKey = true := by
  cases value with
  | arr items => cases isLiteral
  | obj members => cases isLiteral
  | _ => rfl

theorem isKey_of_declaredTag
    {tag : Json} {schema : List (String × Json)} {declared : Json}
    (found : declaredTag tag schema = .ok (some declared)) :
    declared.isKey = true := by
  unfold declaredTag at found
  split at found
  · split at found
    · cases found
    · simp only at found
      split at found
      · obtain ⟨value, _, filtered⟩ := Outcome.bind_eq_ok_iff.mp found
        have kept := Except.ok.inj filtered
        exact isKey_of_isSome_literal (by simpa using (Option.filter_eq_some_iff.mp kept).2)
      · cases found
  · cases found

theorem isKey_of_find?
    {test : Json → Bool} {entries : List (Json × Json)} {value : Json}
    (keys : ∀ entry ∈ entries, entry.2.isKey = true) (found : Table.find? test entries = some value) :
    value.isKey = true := by
  induction entries with
  | nil => cases found
  | cons first rest inductionHypothesis =>
      rw [Table.find?] at found
      split at found
      · cases found
        exact keys first List.mem_cons_self
      · exact inductionHypothesis (fun entry later => keys entry (List.mem_cons_of_mem _ later)) found

theorem isKey_of_memberTag
    {root tag member : Json} {tagOf : List (Json × Json)} {declared : Json}
    (keys : ∀ entry ∈ tagOf, entry.2.isKey = true)
    (found : memberTag root tag tagOf member = .ok (some declared)) :
    declared.isKey = true := by
  unfold memberTag at found
  split at found
  · split at found
    · exact isKey_of_declaredTag found
    · split at found
      · cases found
      · split at found
        · next mapped isMapped =>
            cases found
            exact isKey_of_find? keys isMapped
        · obtain ⟨target, _, found⟩ := Outcome.bind_eq_ok_iff.mp found
          split at found
          · exact isKey_of_declaredTag found
          · cases found
  · cases found

/-- Texts have their places as tags. -/
theorem exists_memberTags_texts
    (root tag : Json) (table : List (Json × Json)) (texts : List String) (place : Nat) :
    ∃ tags, memberTags root tag table place (texts.map .str) = .ok tags := by
  induction texts generalizing place with
  | nil => exact ⟨[], rfl⟩
  | cons first rest inductionHypothesis =>
      obtain ⟨tags, tagged⟩ := inductionHypothesis (place + 1)
      refine ⟨.int place :: tags, ?_⟩
      rw [List.map_cons, memberTags, tagged]
      rfl

theorem isKey_of_mem_memberTags
    {root tag : Json} {tagOf : List (Json × Json)} (keys : ∀ entry ∈ tagOf, entry.2.isKey = true)
    {members tags : List Json} {place : Nat}
    (found : memberTags root tag tagOf place members = .ok tags) :
    ∀ given ∈ tags, given.isKey = true := by
  induction members generalizing place tags with
  | nil =>
      cases found
      intro given isGiven
      cases isGiven
  | cons first rest inductionHypothesis =>
      rw [memberTags] at found
      obtain ⟨declared, firstFound, found⟩ := Outcome.bind_eq_ok_iff.mp found
      obtain ⟨others, restFound, found⟩ := Outcome.bind_eq_ok_iff.mp found
      cases found
      intro given isGiven
      rcases List.mem_cons.mp isGiven with isFirst | later
      · cases declared with
        | none =>
            rw [isFirst]
            rfl
        | some value =>
            rw [isFirst]
            exact isKey_of_memberTag keys firstFound
      · exact inductionHypothesis restFound given later

theorem sound_form (root schema : Json) : (root.form schema).Sound := by
  cases schema with
  | obj keywords =>
      apply form_elim (motive := Sound)
      case rejected | primitive | reference | array | tuple | prefixTuple =>
        intros
        trivial
      case choice =>
        intro _ _ _ _ _ _ present
        exact present
      case discriminated =>
        intro _ _ _ _ _ _ _ _ present mapped declared
        have mappedKeys := isKey_of_mem_mappedTags mapped
        exact ⟨present, isKey_of_mem_memberTags mappedKeys declared⟩
      case intersection =>
        intro _ _ _ _ present
        exact present
      case values =>
        intro _ nullable keys
        exact sound_values keys nullable
      case object => trivial
      case alternatives =>
        intro forms present each
        exact ⟨present, allSound_iff.mpr each⟩
  | bool value => cases value <;> trivial
  | _ => trivial

end Form

end SchemaSignature
