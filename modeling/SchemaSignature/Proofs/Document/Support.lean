import SchemaSignature.Document.Support
import SchemaSignature.Proofs.Document.Descent

/-!
What the check of the supported subset says about a schema that passes it: its own keywords pass, and
so do the subschemas that stand in it.
-/

namespace SchemaSignature.Document

/-! ## The check walks through the subschemas -/

section Height

variable {schema : List (String × Json)} {keyword : String} {members : List Json} {member : Json}

theorem height_lt_of_mem_named
    (listing : namedSubschemas schema keyword = .ok members) (isMember : member ∈ members) :
    member.height < (Json.obj schema).height := by
  unfold namedSubschemas at listing
  split at listing
  · cases listing
    cases isMember
  · next table found =>
      cases listing
      obtain ⟨entry, isEntry, rfl⟩ := List.mem_map.mp isMember
      have inTable : entry.2.height < (Json.obj table).height :=
        Nat.lt_succ_of_le (Json.height_le_of_mem_members isEntry)
      exact Nat.lt_trans inTable (Json.height_lt_of_member? found)
  · cases listing

theorem height_lt_of_mem_listed
    (listing : listedSubschemas schema keyword = .ok members) (isMember : member ∈ members) :
    member.height < (Json.obj schema).height := by
  unfold listedSubschemas at listing
  split at listing
  · cases listing
    cases isMember
  · next found =>
      exact Nat.lt_of_le_of_lt (Form.height_le_of_mem_elements listing isMember)
        (Json.height_lt_of_member? found)

theorem height_lt_of_mem_items (isMember : member ∈ itemSubschemas schema) :
    member.height < (Json.obj schema).height := by
  unfold itemSubschemas at isMember
  split at isMember
  · cases isMember
  · cases isMember
  · next items found =>
      have inList : member.height < (Json.arr items).height :=
        Nat.lt_succ_of_le (Json.height_le_of_mem_items isMember)
      exact Nat.lt_trans inList (Json.height_lt_of_member? found)
  · next item _ _ found =>
      rw [List.mem_singleton.mp isMember]
      exact Json.height_lt_of_member? found

theorem height_lt_of_mem_additional (isMember : member ∈ additionalSubschemas schema) :
    member.height < (Json.obj schema).height := by
  unfold additionalSubschemas at isMember
  split at isMember
  · next found =>
      rw [List.mem_singleton.mp isMember]
      exact Json.height_lt_of_member? found
  · cases isMember

/-- The subschemas that are checked are nested less deeply than their schema. -/
theorem height_lt_of_mem_group
    (isGroup : .ok members ∈ subschemaGroups schema) (isMember : member ∈ members) :
    member.height < (Json.obj schema).height := by
  rcases List.mem_append.mp isGroup with isFront | isListed
  · rcases List.mem_append.mp isFront with isNamed | isSingle
    · obtain ⟨keyword, _, listing⟩ := List.mem_map.mp isNamed
      exact height_lt_of_mem_named listing isMember
    · rcases List.mem_cons.mp isSingle with isItems | isLast
      · rw [Except.ok.inj isItems] at isMember
        exact height_lt_of_mem_items isMember
      · rw [Except.ok.inj (List.mem_singleton.mp isLast)] at isMember
        exact height_lt_of_mem_additional isMember
  · obtain ⟨keyword, _, listing⟩ := List.mem_map.mp isListed
    exact height_lt_of_mem_listed listing isMember

end Height

theorem checkSchema_congr
    {root schema : Json} {one other : Json → Except Failure Unit}
    (same : ∀ subschema, subschema.height < schema.height → one subschema = other subschema) :
    checkSchema root one schema = checkSchema root other schema := by
  cases schema with
  | obj keywords =>
      have sameGroups :
          (subschemaGroups keywords).forM (fun group => group >>= fun members => members.forM one) =
            (subschemaGroups keywords).forM
              (fun group => group >>= fun members => members.forM other) := by
        apply Outcome.forM_congr
        intro group isGroup
        cases group with
        | error failure => rfl
        | ok members =>
            exact Outcome.forM_congr fun member isMember =>
              same member (height_lt_of_mem_group isGroup isMember)
      rw [checkSchema, checkSchema, sameGroups]
  | _ => rfl

/-- A bound above the height of a schema does not take effect. -/
theorem checkSupportedWithin_eq
    {root schema : Json} {bound : Nat} (above : schema.height < bound) :
    checkSupportedWithin root bound schema = checkSupported root schema := by
  have independent : ∀ (one other : Nat) (schema : Json), schema.height < one →
      schema.height < other →
        checkSupportedWithin root one schema = checkSupportedWithin root other schema := by
    intro one
    induction one with
    | zero =>
        intro other schema impossible
        exact absurd impossible (Nat.not_lt_zero _)
    | succ one inductionHypothesis =>
        intro other schema aboveOne aboveOther
        cases other with
        | zero => exact absurd aboveOther (Nat.not_lt_zero _)
        | succ other =>
            rw [checkSupportedWithin, checkSupportedWithin]
            apply checkSchema_congr
            intro subschema lower
            exact inductionHypothesis other subschema (by omega) (by omega)
  exact independent bound (schema.height + 1) schema above (Nat.lt_succ_self _)

/-- A schema is checked by checking its own keywords and its subschemas. -/
theorem checkSupported_eq (root schema : Json) :
    checkSupported root schema = checkSchema root (checkSupported root) schema := by
  rw [checkSupported, checkSupportedWithin]
  apply checkSchema_congr
  intro subschema lower
  exact checkSupportedWithin_eq lower

/-! ## Subschemas of a schema that passes -/

/-- Every subschema that is drafted as a part of a schema stands in one of the groups that are
checked, so far as these can be opened. -/
theorem exists_group_of_holds
    {schema : List (String × Json)} {subschema : Json} (held : Form.Holds schema subschema) :
    ∃ members, .ok members ∈ subschemaGroups schema ∧ subschema ∈ members := by
  cases held with
  | @listed keyword value members known found listing isMember =>
      have isGroup : listedSubschemas schema keyword ∈ subschemaGroups schema := by
        simp only [List.mem_cons, List.not_mem_nil, or_false] at known
        rcases known with rfl | rfl | rfl | rfl <;> simp [subschemaGroups]
      have opened : listedSubschemas schema keyword = .ok members := by
        rw [listedSubschemas, found]
        exact listing
      exact ⟨members, opened ▸ isGroup, isMember⟩
  | item found notNull notListed =>
      have single : itemSubschemas schema = [subschema] := by
        unfold itemSubschemas
        rw [found]
        cases subschema with
        | null => exact absurd rfl notNull
        | arr members => exact absurd rfl (notListed members)
        | _ => rfl
      exact ⟨[subschema], by simp [subschemaGroups, single], List.mem_singleton.mpr rfl⟩
  | @listedItem members found isMember =>
      have several : itemSubschemas schema = members := by rw [itemSubschemas, found]
      exact ⟨members, by simp [subschemaGroups, several], isMember⟩
  | @additional members found same =>
      have single : additionalSubschemas schema = [subschema] := by
        rw [additionalSubschemas, found, same]
      exact ⟨[subschema], by simp [subschemaGroups, single], List.mem_singleton.mpr rfl⟩
  | @property name members found isMember =>
      have opened : namedSubschemas schema "properties" = .ok (members.map (·.2)) := by
        rw [namedSubschemas, found]
      refine ⟨members.map (·.2), by simp [subschemaGroups, opened], ?_⟩
      exact List.mem_map.mpr ⟨(name, subschema), isMember, rfl⟩

/-- A schema passes the check of the supported subset. -/
def Supported (root schema : Json) : Prop :=
  checkSupported root schema = .ok ()

variable {root : Json} {schema : List (String × Json)}

theorem Supported.own (supported : Supported root (.obj schema)) :
    checkOwnKeywords root schema = .ok () := by
  rw [Supported, checkSupported_eq, checkSchema] at supported
  obtain ⟨_, own, _⟩ := Outcome.bind_eq_ok_iff.mp supported
  exact own

theorem Supported.of_group
    (supported : Supported root (.obj schema)) {group : Except Failure (List Json)}
    (isGroup : group ∈ subschemaGroups schema) :
    ∃ members, group = .ok members ∧ ∀ member ∈ members, Supported root member := by
  rw [Supported, checkSupported_eq, checkSchema] at supported
  obtain ⟨_, _, checked⟩ := Outcome.bind_eq_ok_iff.mp supported
  have groupChecked := Outcome.of_forM_eq_ok checked group isGroup
  obtain ⟨members, listing, checked⟩ := Outcome.bind_eq_ok_iff.mp groupChecked
  exact ⟨members, listing, Outcome.of_forM_eq_ok checked⟩

theorem Supported.of_table
    (supported : Supported root (.obj schema)) {keyword : String}
    (known : keyword ∈ ["properties", "definitions", "$defs"])
    {members : List (String × Json)}
    (found : Json.member? schema keyword = some (.obj members)) :
    ∀ member ∈ members, Supported root member.2 := by
  have isGroup : namedSubschemas schema keyword ∈ subschemaGroups schema := by
    simp only [List.mem_cons, List.not_mem_nil, or_false] at known
    rcases known with rfl | rfl | rfl <;> simp [subschemaGroups]
  obtain ⟨others, listed, each⟩ := supported.of_group isGroup
  rw [namedSubschemas, found] at listed
  cases listed
  intro member isMember
  exact each member.2 (List.mem_map.mpr ⟨member, isMember, rfl⟩)

theorem Supported.of_holds
    (supported : Supported root (.obj schema)) {subschema : Json}
    (held : Form.Holds schema subschema) :
    Supported root subschema := by
  obtain ⟨members, isGroup, isMember⟩ := exists_group_of_holds held
  obtain ⟨others, opened, each⟩ := supported.of_group isGroup
  cases opened
  exact each subschema isMember

/-! ## Own keywords -/

theorem Supported.resolves
    (supported : Supported root (.obj schema)) {pointer : Json}
    (found : Json.member? schema "$ref" = some pointer) :
    ∃ value, Pointer.resolveValue root pointer = .ok value := by
  obtain ⟨_, _, checked⟩ := Outcome.bind_eq_ok_iff.mp supported.own
  obtain ⟨_, reference, _⟩ := Outcome.bind_eq_ok_iff.mp checked
  rw [checkReference, found] at reference
  cases resolved : Pointer.resolveValue root pointer with
  | ok value => exact ⟨value, rfl⟩
  | error failure =>
      simp only [resolved] at reference
      cases reference

theorem Supported.enum_not_rejected
    (supported : Supported root (.obj schema)) {listed : Json}
    (found : Json.member? schema "enum" = some listed) (failure : Failure) :
    Form.ofEnum listed ≠ .rejected failure := by
  obtain ⟨_, _, checked⟩ := Outcome.bind_eq_ok_iff.mp supported.own
  obtain ⟨_, _, checked⟩ := Outcome.bind_eq_ok_iff.mp checked
  obtain ⟨_, _, checked⟩ := Outcome.bind_eq_ok_iff.mp checked
  rw [checkEnum, found] at checked
  intro rejected
  simp only [rejected] at checked
  cases checked

end SchemaSignature.Document
