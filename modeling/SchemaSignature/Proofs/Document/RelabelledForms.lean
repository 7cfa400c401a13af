import SchemaSignature.Proofs.Document.Relabelling
import SchemaSignature.Proofs.Signature.Construction

/-!
The forms of the schemas of a relabelled document. The tags of a discriminated choice are the same,
because references that are told apart before are told apart after the renaming; and so every schema
has the renamed form of the one that it corresponds to.
-/

namespace SchemaSignature

/-! ## Targets of a mapping -/

/-- A value that can be the key of a table, and a reference of a certain kind if it is a text. -/
def Json.Targets (kind : String → Prop) (target : Json) : Prop :=
  target.isKey = true ∧ ∀ reference, target = .str reference → kind reference

namespace Form

variable {rename : String → String} {kind : String → Prop}

/-- A table whose keys are references, with the references renamed. -/
def renamedTags (rename : String → String) (table : List (Json × Json)) : List (Json × Json) :=
  table.map (Prod.map (Json.renamed rename .reference) id)

/-- The tags of a mapping by their targets. -/
def targetTags (mapping : List (String × Json)) : List (Json × Json) :=
  mapping.map fun entry => (entry.2, .str entry.1)

theorem mappedTags_eq_keyedTable
    {discriminator mapping : List (String × Json)}
    (found : Json.member? discriminator "mapping" = some (.obj mapping)) :
    mappedTags discriminator = keyedTable (targetTags mapping) := by
  rw [mappedTags, found, keyedTable, targetTags, List.foldlM_map]

theorem targetTags_renamed (rename : String → String) (mapping : List (String × Json)) :
    targetTags (Json.renamedMembers rename .mapping mapping) =
      renamedTags rename (targetTags mapping) := by
  rw [targetTags, targetTags, renamedTags, Json.renamedMembers_eq_map, List.map_map, List.map_map]
  rfl

section Targets

variable (apart : ∀ one other, kind one → kind other →
  Pointer.renamed rename one = Pointer.renamed rename other → one = other)

include apart

theorem equal_renamed
    {one other : Json} (targets : one.Targets kind) (otherTargets : other.Targets kind) :
    Json.equal (one.renamed rename .reference) (other.renamed rename .reference) =
      Json.equal one other := by
  obtain ⟨isKey, known⟩ := targets
  obtain ⟨otherIsKey, otherKnown⟩ := otherTargets
  cases one with
  | arr items => cases isKey
  | obj members => cases isKey
  | str reference =>
      cases other with
      | arr items => cases otherIsKey
      | obj members => cases otherIsKey
      | str otherReference =>
          simp only [Json.renamed, Json.equal]
          rw [Bool.eq_iff_iff, beq_iff_eq, beq_iff_eq]
          exact ⟨apart _ _ (known _ rfl) (otherKnown _ rfl), congrArg _⟩
      | _ => simp only [Json.renamed, Json.equal, Json.quantity?]
  | _ =>
      cases other with
      | arr items => cases otherIsKey
      | obj members => cases otherIsKey
      | _ => simp only [Json.renamed, Json.equal, Json.quantity?]

theorem mappedTags_renamed
    (discriminator : List (String × Json))
    (mapped : ∀ mapping tag reference, Json.member? discriminator "mapping" = some (.obj mapping) →
      (tag, .str reference) ∈ mapping → kind reference) :
    Outcome.Matches
      (fun table renamed => renamed = renamedTags rename table ∧ ∀ entry ∈ table, entry.1.Targets kind)
      (mappedTags discriminator)
      (mappedTags (Json.renamedMembers rename .discriminator discriminator)) := by
  have inside : Json.Place.discriminator.inside "mapping" = .mapping := rfl
  have foundRenamed : Json.member? (Json.renamedMembers rename .discriminator discriminator) "mapping" =
      (Json.member? discriminator "mapping").map (Json.renamed rename .mapping) := by
    rw [Json.member?_renamedMembers, inside]
  by_cases isMapping : ∃ mapping, Json.member? discriminator "mapping" = some (.obj mapping)
  · obtain ⟨mapping, found⟩ := isMapping
    rw [found, Option.map_some, Json.renamed_obj] at foundRenamed
    rw [mappedTags_eq_keyedTable found, mappedTags_eq_keyedTable foundRenamed, targetTags_renamed]
    refine keyedTable_map (Json.Targets kind) _ (Json.isKey_renamed .reference)
      (fun _ _ targets otherTargets => equal_renamed apart targets otherTargets) id ?_
    rintro _ isTag isKey
    obtain ⟨⟨tag, target⟩, isEntry, rfl⟩ := List.mem_map.mp isTag
    refine ⟨isKey, ?_⟩
    rintro reference rfl
    exact mapped mapping tag reference found isEntry
  · unfold mappedTags
    rw [foundRenamed]
    cases found : Json.member? discriminator "mapping" with
    | none => exact .done ⟨rfl, fun _ impossible => by cases impossible⟩
    | some value =>
        rw [Option.map_some]
        cases value with
        | obj mapping => exact absurd ⟨mapping, found⟩ isMapping
        | arr items =>
            rw [Json.renamed_arr]
            exact .failed _ _
        | _ =>
            rw [Json.renamed_of_isKey (by decide) rfl]
            exact .failed _ _

end Targets

/-! ## Declared tags -/

/-- Values that can be tags have nothing to rename in them. -/
theorem filter_renamed (value : Option Json) :
    (value.map (Json.renamed rename .schema)).filter
        (fun value => (Literal.ofJson? value).isSome) =
      value.filter fun value => (Literal.ofJson? value).isSome := by
  cases value with
  | none => rfl
  | some value =>
      cases value with
      | arr items =>
          rw [Option.map_some, Json.renamed_arr]
          rfl
      | obj members =>
          rw [Option.map_some, Json.renamed_obj]
          rfl
      | _ => rw [Option.map_some, Json.renamed_of_isKey (by decide) rfl]

theorem declaredValue_renamed
    {keywords others : List (String × Json)} (alike : Json.Alike rename keywords others) :
    Outcome.Matches (fun value renamed => renamed = value.map (Json.renamed rename .schema))
      (declaredValue keywords) (declaredValue others) := by
  unfold declaredValue
  rw [member?_of_alike alike "const" .schema (by decide) rfl,
    member?_of_alike alike "enum" .schema (by decide) rfl]
  cases Json.member? keywords "const" with
  | some value => exact .done rfl
  | none =>
      cases Json.member? keywords "enum" with
      | none => exact .done rfl
      | some listed =>
          have notReference : Json.Place.schema ≠ .reference := by decide
          simp only [Option.map_none, Option.map_some, Json.isTruthy_renamed notReference]
          by_cases truthy : (!listed.isTruthy) = true
          · rw [if_pos truthy, if_pos truthy]
            exact .done rfl
          · rw [if_neg truthy, if_neg truthy]
            cases listed with
            | arr items =>
                rw [Json.renamed_arr]
                refine .done ?_
                rw [List.head?_map]
            | obj members =>
                rw [Json.renamed_obj]
                exact .failed _ _
            | str text =>
                rw [Json.renamed_of_isKey (by decide) rfl]
                refine .done ?_
                cases text.toList <;> rfl
            | _ =>
                rw [Json.renamed_of_isKey (by decide) rfl]
                exact .failed _ _

theorem declaredTag_renamed
    {keywords others : List (String × Json)} (alike : Json.Alike rename keywords others) (tag : Json) :
    Outcome.Matches Eq (declaredTag tag keywords)
      (declaredTag (tag.renamed rename .schema) others) := by
  unfold declaredTag
  rw [member?_of_alike alike "properties" .table (by decide) rfl]
  cases Json.member? keywords "properties" with
  | none => exact .done rfl
  | some value =>
      rw [Option.map_some]
      cases value with
      | obj properties =>
          rw [Json.renamed_obj]
          by_cases isKey : tag.isKey = true
          · rw [Json.renamed_of_isKey (by decide) isKey]
            cases tag with
            | str name =>
                have inside : Json.Place.table.inside name = .schema := rfl
                simp only [Json.isKey, Json.member?_renamedMembers, inside]
                cases Json.member? properties name with
                | none => exact .done rfl
                | some discriminant =>
                    rw [Option.map_some]
                    cases discriminant with
                    | obj members =>
                        rw [Json.renamed_obj]
                        have alikeInside :
                            Json.Alike rename members (Json.renamedMembers rename .schema members) :=
                          Json.alike_renamedMembers members
                        refine (declaredValue_renamed alikeInside).bind ?_
                        rintro value _ _ rfl
                        refine .done ?_
                        rw [filter_renamed]
                    | arr items =>
                        rw [Json.renamed_arr]
                        exact .done rfl
                    | _ =>
                        rw [Json.renamed_of_isKey (by decide) rfl]
                        exact .done rfl
            | arr items => cases isKey
            | obj members => cases isKey
            | _ => exact .done rfl
          · simp only [Json.isKey_renamed, isKey]
            exact .failed _ _
      | arr items =>
          rw [Json.renamed_arr]
          exact .done rfl
      | _ =>
          rw [Json.renamed_of_isKey (by decide) rfl]
          exact .done rfl

end Form

namespace Document

/-- A reference is mentioned by a reachable schema, as a reference or in a mapping. -/
def Mentions (root : Json) (reference : String) : Prop :=
  Refers root reference ∨ Maps root reference

variable {rename : String → String} {root other : Json}

theorem Apart.renamed_inj
    {kind : String → Prop} (apart : Apart rename kind) :
    ∀ one other, kind one → kind other →
      Pointer.renamed rename one = Pointer.renamed rename other → one = other := by
  intro one other isKind otherIsKind same
  refine Pointer.renamed_inj ?_ same
  rintro key otherKey rfl rfl sameKey
  exact apart key otherKey isKind otherIsKind sameKey

theorem Relabels.resolveValue
    (relabels : Relabels rename root other) (keyed : root.KeysDefinitions)
    (otherKeyed : other.KeysDefinitions) {pointer : Json}
    (known : ∀ reference, pointer = .str reference → Refers root reference) :
    Outcome.Matches (fun value renamed => renamed = value.renamed rename .schema)
      (Pointer.resolveValue root pointer)
      (Pointer.resolveValue other (pointer.renamed rename .reference)) := by
  cases pointer with
  | str reference =>
      simp only [Json.renamed]
      exact relabels.resolve keyed otherKeyed (known reference rfl)
  | _ =>
      simp only [Json.renamed]
      exact .failed _ _

section Tags

variable (relabels : Relabels rename root other) (keyed : root.KeysDefinitions)
  (otherKeyed : other.KeysDefinitions) (apart : Apart rename (Mentions root))

include relabels keyed otherKeyed apart

theorem Relabels.memberTag
    {member : Json} (reachable : Reachable root member) (tag : Json) {table : List (Json × Json)}
    (targets : ∀ entry ∈ table, entry.1.Targets (Mentions root)) :
    Outcome.Matches Eq (Form.memberTag root tag table member)
      (Form.memberTag other (tag.renamed rename .schema) (Form.renamedTags rename table)
        (member.renamed rename .schema)) := by
  cases member with
  | obj schema =>
      have alike : Json.Alike rename schema (Json.renamedMembers rename .schema schema) :=
        Json.alike_renamedMembers schema
      rw [Json.renamed_obj]
      simp only [Form.memberTag]
      rw [Form.member?_of_alike alike "$ref" .reference (by decide) rfl]
      cases found : Json.member? schema "$ref" with
      | none => exact Form.declaredTag_renamed alike tag
      | some pointer =>
          simp only [Option.map_some, Json.isKey_renamed]
          by_cases isKey : pointer.isKey = true
          · have known : ∀ reference, pointer = .str reference → Refers root reference :=
              fun reference same => ⟨schema, reachable, same ▸ found⟩
            have pointerTargets : pointer.Targets (Mentions root) :=
              ⟨isKey, fun reference same => Or.inl (known reference same)⟩
            have sameEntry : Table.find? (Json.equal · (pointer.renamed rename .reference))
                (Form.renamedTags rename table) = Table.find? (Json.equal · pointer) table := by
              rw [Form.renamedTags, Table.find?_map id, Option.map_id, id]
              exact fun entry isEntry =>
                Form.equal_renamed apart.renamed_inj (targets entry isEntry) pointerTargets
            rw [sameEntry]
            simp only [isKey]
            cases Table.find? (Json.equal · pointer) table with
            | some mapped => exact .done rfl
            | none =>
                refine (relabels.resolveValue keyed otherKeyed known).bind ?_
                rintro value _ _ rfl
                cases value with
                | obj target =>
                    rw [Json.renamed_obj]
                    exact Form.declaredTag_renamed (Json.alike_renamedMembers target) tag
                | arr items =>
                    rw [Json.renamed_arr]
                    exact .done rfl
                | _ =>
                    rw [Json.renamed_of_isKey (by decide) rfl]
                    exact .done rfl
          · simp only [isKey]
            exact .failed _ _
  | arr items =>
      rw [Json.renamed_arr]
      exact .done rfl
  | _ =>
      simp only [Json.renamed, Form.memberTag]
      exact .done rfl

theorem Relabels.memberTags
    {members : List Json} (reachable : ∀ member ∈ members, Reachable root member) (tag : Json)
    {table : List (Json × Json)} (targets : ∀ entry ∈ table, entry.1.Targets (Mentions root))
    (place : Nat) :
    Outcome.Matches Eq (Form.memberTags root tag table place members)
      (Form.memberTags other (tag.renamed rename .schema) (Form.renamedTags rename table) place
        (members.map (Json.renamed rename .schema))) := by
  induction members generalizing place with
  | nil => exact .done rfl
  | cons first rest inductionHypothesis =>
      have firstTag :=
        relabels.memberTag keyed otherKeyed apart (reachable first List.mem_cons_self) tag targets
      have restTags :=
        inductionHypothesis (fun member later => reachable member (List.mem_cons_of_mem _ later))
          (place + 1)
      rw [List.map_cons, Form.memberTags, Form.memberTags]
      refine firstTag.bind ?_
      rintro declared _ _ rfl
      refine restTags.bind ?_
      rintro others _ _ rfl
      exact .done rfl

theorem Relabels.ofDiscriminated
    {keywords discriminator : List (String × Json)} (reachable : Reachable root (.obj keywords))
    {value : Json} (found : Json.member? keywords "oneOf" = some value)
    (described : Json.member? keywords "discriminator" = some (.obj discriminator)) (tag : Json) :
    Form.Renamed rename (Form.ofDiscriminated root tag discriminator value)
      (Form.ofDiscriminated other (tag.renamed rename .schema)
        (Json.renamedMembers rename .discriminator discriminator)
        (value.renamed rename .schema)) := by
  have mapped := Form.mappedTags_renamed apart.renamed_inj discriminator
    fun mapping mappedTag reference isMapping isEntry =>
      Or.inr ⟨keywords, discriminator, mapping, mappedTag, reachable, described, isMapping, isEntry⟩
  have notReference : Json.Place.schema ≠ .reference := by decide
  have sameTruth : (value.renamed rename .schema).isTruthy = value.isTruthy :=
    Json.isTruthy_renamed notReference value
  unfold Form.ofDiscriminated
  simp only [sameTruth]
  cases value.isTruthy with
  | false => exact .rejected _ _
  | true =>
      rcases mapped.outcomes with
        ⟨_, _, failed, otherFailed⟩ | ⟨table, _, mapping, otherMapping, rfl, targets⟩
      · simp only [failed, otherFailed]
        exact .rejected _ _
      have listing : Outcome.Matches
          (fun members renamed => renamed = members.map (Json.renamed rename .schema))
          (Form.elements value) (Form.elements (value.renamed rename .schema)) :=
        Form.elements_renamed value
      rcases listing.outcomes with
        ⟨_, _, failed, otherFailed⟩ | ⟨members, _, listed, otherListed, rfl⟩
      · simp only [mapping, otherMapping, failed, otherFailed]
        exact .rejected _ _
      have inside : ∀ member ∈ members, Reachable root member :=
        fun member isMember => reachable.part (.listed (by simp) found listed isMember)
      rcases (relabels.memberTags keyed otherKeyed apart inside tag targets 0).outcomes with
        ⟨_, _, failed, otherFailed⟩ | ⟨tags, _, tagged, otherTagged, rfl⟩
      · simp only [mapping, otherMapping, listed, otherListed, Outcome.bind_ok, failed, otherFailed]
        exact .rejected _ _
      · simp only [mapping, otherMapping, listed, otherListed, Outcome.bind_ok, tagged, otherTagged]
        exact .discriminated tag _ tags members

/-- Corresponding objects of keywords have the same form, renamed. -/
theorem Relabels.ofKeywords
    {keywords others : List (String × Json)} (reachable : Reachable root (.obj keywords))
    (alike : Json.Alike rename keywords others) :
    Form.Renamed rename (Form.ofKeywords root keywords) (Form.ofKeywords other others) := by
  unfold Form.ofKeywords
  rw [Form.member?_of_alike alike "$ref" .reference (by decide) rfl]
  cases found : Json.member? keywords "$ref" with
  | some pointer =>
      exact relabels.ofReference keyed otherKeyed fun reference same =>
        ⟨keywords, reachable, same ▸ found⟩
  | none =>
  rw [Form.member?_of_alike alike "anyOf" .schema (by decide) rfl]
  cases Json.member? keywords "anyOf" with
  | some value => exact Form.ofChoice_renamed value
  | none =>
  rw [Form.member?_of_alike alike "oneOf" .schema (by decide) rfl]
  cases listed : Json.member? keywords "oneOf" with
  | some value =>
      rw [Form.member?_of_alike alike "discriminator" .discriminator (by decide) rfl, Option.map_some]
      cases described : Json.member? keywords "discriminator" with
      | none => exact Form.ofChoice_renamed value
      | some given =>
          have inside : Json.Place.discriminator.inside "propertyName" = .schema := rfl
          cases given with
          | obj discriminator =>
              simp only [Option.map_some, Json.renamed_obj, Json.member?_renamedMembers, inside]
              cases Json.member? discriminator "propertyName" with
              | none => exact Form.ofChoice_renamed value
              | some tag =>
                  exact relabels.ofDiscriminated keyed otherKeyed apart reachable listed described tag
          | arr items =>
              simp only [Option.map_some, Json.renamed_arr]
              exact Form.ofChoice_renamed value
          | _ =>
              simp only [Option.map_some, Json.renamed]
              exact Form.ofChoice_renamed value
  | none =>
  rw [Form.member?_of_alike alike "allOf" .schema (by decide) rfl]
  cases Json.member? keywords "allOf" with
  | some value => exact Form.ofIntersection_renamed value
  | none =>
  rw [Form.member?_of_alike alike "const" .schema (by decide) rfl]
  cases Json.member? keywords "const" with
  | some value => exact Form.ofValues_renamed [value]
  | none =>
  rw [Form.member?_of_alike alike "enum" .schema (by decide) rfl]
  cases Json.member? keywords "enum" with
  | some value => exact Form.ofEnum_renamed value
  | none =>
  rw [Form.member?_of_alike alike "type" .schema (by decide) rfl]
  cases Json.member? keywords "type" with
  | none => exact Form.ofType_renamed alike .null
  | some type => exact Form.ofType_renamed alike type

/-- Corresponding schemas have the same form, renamed. -/
theorem Relabels.form
    {schema otherSchema : Json} (reachable : Reachable root schema)
    (corresponds : Corresponds rename root other schema otherSchema) :
    Form.Renamed rename (root.form schema) (other.form otherSchema) := by
  cases schema with
  | obj keywords =>
      obtain ⟨others, rfl, alike⟩ := relabels.exists_alike corresponds
      exact relabels.ofKeywords keyed otherKeyed apart reachable alike
  | arr items =>
      have same := relabels.eq_renamed (fun _ impossible => by cases impossible) corresponds
      rw [same, Json.renamed_arr]
      exact .rejected _ _
  | bool value =>
      have same := relabels.eq_renamed (fun _ impossible => by cases impossible) corresponds
      rw [same, Json.renamed_of_isKey (by decide) rfl]
      cases value with
      | false => exact .primitive _
      | true => exact .primitive _
  | _ =>
      have same := relabels.eq_renamed (fun _ impossible => by cases impossible) corresponds
      rw [same, Json.renamed_of_isKey (by decide) rfl]
      exact .rejected _ _

end Tags

end Document

end SchemaSignature
