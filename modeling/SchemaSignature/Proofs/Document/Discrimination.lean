import SchemaSignature.Proofs.Document.RelabelledForms
import SchemaSignature.Proofs.Document.Sessions
import SchemaSignature.Proofs.Document.Drafts
import SchemaSignature.Proofs.Signature.Likeness

/-!
Discriminated choices beside plain ones. A discriminator decides whether the members of a choice are a
sum or a union, and nothing else: the members are drafted in the same order, and the two nodes are
rendered alike. Finding the tags can fail where drafting the members would not, but only if the
discriminator is malformed, or the values of a discriminant are not listed in an array.
-/

namespace SchemaSignature

open Form (Draft)

namespace Document

/-- The node of a choice of subschemas that a discriminator tells apart by the field `tag`. -/
def discriminatedDraft (root tag : Json) (discriminator : List (String × Json))
    (members : List Json) : Traced Draft :=
  (Form.ofDiscriminated root tag discriminator (.arr members)).assemble root.draft

/-- The node of a plain choice of subschemas. -/
def choiceDraft (root : Json) (members : List Json) : Traced Draft :=
  (Form.ofChoice (.arr members)).assemble root.draft

/-- The schema of a choice with a discriminator has the discriminated choice for its draft. -/
theorem draft_eq_discriminatedDraft
    {keywords discriminator : List (String × Json)} {members : List Json} {tag : Json}
    (noReference : Json.member? keywords "$ref" = none)
    (noOtherChoice : Json.member? keywords "anyOf" = none)
    (listed : Json.member? keywords "oneOf" = some (.arr members))
    (described : Json.member? keywords "discriminator" = some (.obj discriminator))
    (named : Json.member? discriminator "propertyName" = some tag) (root : Json) :
    root.draft (.obj keywords) = discriminatedDraft root tag discriminator members := by
  rw [Json.draft_eq, Json.form, discriminatedDraft]
  simp only [Form.ofKeywords, noReference, noOtherChoice, listed, described, named]

/-! ## Members of a choice -/

section Members

variable {root tag : Json} {discriminator : List (String × Json)} {members : List Json}

theorem choiceDraft_eq (root : Json) {members : List Json} (present : members ≠ []) :
    choiceDraft root members =
      Form.draftAll root.draft members >>= fun nodes =>
        Traced.ofExcept (Construction.union (nodes.map .node)) := by
  have truthy : (Json.arr members).isTruthy = true := by
    simpa [Json.isTruthy] using present
  have form : Form.ofChoice (.arr members) = .choice members := by
    simp [Form.ofChoice, Form.nonEmptyElements, truthy, Form.elements, Json.elements?]
  rw [choiceDraft, form, Form.assemble]

theorem ne_nil_of_draftAll
    (present : members ≠ []) {nodes : List Draft}
    (drafted : (Form.draftAll root.draft members).outcome = .ok nodes) : nodes ≠ [] := by
  have each := Form.forall₂_of_draftAll drafted
  rintro rfl
  exact present (List.forall₂_nil_right_iff.mp each)

theorem outcome_choiceDraft
    (present : members ≠ []) {nodes : List Draft}
    (drafted : (Form.draftAll root.draft members).outcome = .ok nodes) :
    (choiceDraft root members).outcome = .ok (.group .union nodes) := by
  rw [choiceDraft_eq root present, Traced.outcome_bind, drafted, Outcome.bind_ok,
    Traced.outcome_ofExcept, Construction.union_nodes (ne_nil_of_draftAll present drafted)]

/-- If the tags of a discriminated choice can be found, it drafts its members and combines them. -/
theorem discriminatedDraft_eq
    {tagOf : List (Json × Json)} {tags : List Json} (present : members ≠ [])
    (mapped : Form.mappedTags discriminator = .ok tagOf)
    (declared : Form.memberTags root tag tagOf 0 members = .ok tags) :
    discriminatedDraft root tag discriminator members =
      Form.draftAll root.draft members >>= Form.discriminatedNode tag tags := by
  have truthy : (Json.arr members).isTruthy = true := by
    simpa [Json.isTruthy] using present
  have form : Form.ofDiscriminated root tag discriminator (.arr members) =
      .discriminated tag tags members := by
    simp [Form.ofDiscriminated, truthy, mapped, Form.elements, Json.elements?, declared, pure,
      Except.pure]
  rw [discriminatedDraft, form, Form.assemble]

/-- A discriminated choice with a node has tags for its members. -/
theorem exists_tags_of_discriminatedDraft
    {node : Draft} (drafted : (discriminatedDraft root tag discriminator members).outcome = .ok node) :
    ∃ tagOf tags, Form.mappedTags discriminator = .ok tagOf ∧
      Form.memberTags root tag tagOf 0 members = .ok tags := by
  rcases Form.ofDiscriminated_cases root tag (.arr members) discriminator with
    ⟨failure, rejected⟩ | ⟨tagOf, tags, listed, _, listing, mapped, declared, _⟩
  · rw [discriminatedDraft, rejected, Form.assemble] at drafted
    cases drafted
  · cases listing
    exact ⟨tagOf, tags, mapped, declared⟩

/-- The only thing that a discriminated choice reports of its own is that tags are equal. -/
theorem events_discriminatedNode (tag : Json) (tags : List Json) (nodes : List Draft) :
    ∀ event ∈ (Form.discriminatedNode tag tags nodes).events, event = .equalTags tag tags := by
  intro event isEvent
  unfold Form.discriminatedNode at isEvent
  cases keyed : keyedTable (tags.zip nodes) with
  | error failure =>
      rw [keyed] at isEvent
      cases isEvent
  | ok table =>
      rw [keyed, Traced.ofExcept_ok_bind] at isEvent
      split at isEvent
      · exact List.mem_singleton.mp isEvent
      · cases isEvent

end Members

/-! ## Drafting either choice -/

/-- Reports of what is not a reference are always logged. -/
theorem runOn_reports_warnings
    {warnings : List Event} (areWarnings : ∀ event ∈ warnings, event.isWarning = true)
    (desk : Desk String (List String)) :
    (warnings.forM report : DocumentWork Unit).runOn desk =
      (.ok (), { desk with events := desk.events ++ warnings }) := by
  induction warnings generalizing desk with
  | nil =>
      rw [List.append_nil]
      rfl
  | cons warning rest inductionHypothesis =>
      have restWarnings := fun event later => areWarnings event (List.mem_cons_of_mem _ later)
      have logged : (report warning).runOn desk =
          (.ok (), { desk with events := desk.events ++ [warning] }) := by
        have isWarning := areWarnings warning List.mem_cons_self
        cases warning with
        | equalTags tag tags => rfl
        | _ => cases isWarning
      change (report warning >>= fun _ => rest.forM report).runOn desk = _
      rw [Work.runOn_bind_of_ok logged, inductionHypothesis restWarnings, List.append_assoc,
        List.singleton_append]

/-- Two computations that differ in warnings at the end leave desks that differ in the log. -/
theorem runOn_perform_warned
    {first second : Type} {one : Traced first} {other : Traced second} {value : first}
    {otherValue : second} {warnings : List Event}
    (succeeds : one.outcome = .ok value) (otherSucceeds : other.outcome = .ok otherValue)
    (areWarnings : ∀ event ∈ warnings, event.isWarning = true)
    (sameEvents : one.events = other.events ++ warnings) (desk : Desk String (List String)) :
    ∃ after, (perform other).runOn desk = (.ok otherValue, after) ∧
      (perform one).runOn desk =
        (.ok value, { after with events := after.events ++ warnings }) := by
  obtain ⟨after, reported, _⟩ := runOn_reports other.events desk
  have reportedAll : (one.events.forM report : DocumentWork Unit).runOn desk =
      (.ok (), { after with events := after.events ++ warnings }) := by
    have inTurn : ((other.events ++ warnings).forM report : DocumentWork Unit) =
        other.events.forM report >>= fun _ => warnings.forM report :=
      List.forM_append
    rw [sameEvents, inTurn, Work.runOn_bind_of_ok reported]
    exact runOn_reports_warnings areWarnings after
  refine ⟨after, ?_, ?_⟩
  · rw [perform, Work.runOn_bind_of_ok reported, Work.runOn_ofExcept, otherSucceeds]
  · rw [perform, Work.runOn_bind_of_ok reportedAll, Work.runOn_ofExcept, succeeds]

/-- A discriminated choice that has a node drafts the members of the plain choice, and differs from it
in being a sum, perhaps, and in what its tags come to. -/
theorem draft_as_choice_of_tags
    {root tag : Json} {discriminator : List (String × Json)} {members tags : List Json}
    {tagOf : List (Json × Json)} (present : members ≠ [])
    (mapped : Form.mappedTags discriminator = .ok tagOf)
    (declared : Form.memberTags root tag tagOf 0 members = .ok tags) {node : Draft}
    (drafted : (discriminatedDraft root tag discriminator members).outcome = .ok node) :
    ∃ nodes kind,
      List.Forall₂ (fun member node => (root.draft member).outcome = .ok node) members nodes ∧
      node = .group kind nodes ∧ (kind = .sum ∨ kind = .union) ∧
      (choiceDraft root members).outcome = .ok (.group .union nodes) ∧
      (discriminatedDraft root tag discriminator members).events =
        (choiceDraft root members).events ++ (Form.discriminatedNode tag tags nodes).events := by
  have tagKeys := Form.isKey_of_mem_memberTags (Form.isKey_of_mem_mappedTags mapped) declared
  have unfolded := discriminatedDraft_eq present mapped declared
  rw [unfolded, Traced.outcome_bind] at drafted
  obtain ⟨nodes, membersDrafted, combined⟩ := Outcome.bind_eq_ok_iff.mp drafted
  have each := Form.forall₂_of_draftAll membersDrafted
  have nodesPresent := ne_nil_of_draftAll present membersDrafted
  obtain ⟨kind, isSumOrUnion, made⟩ := Form.discriminatedNode_cases tag nodesPresent tagKeys
  rw [made] at combined
  cases combined
  refine ⟨nodes, kind, each, rfl, isSumOrUnion, outcome_choiceDraft present membersDrafted, ?_⟩
  have events_bind {next : List Draft → Traced Draft} :
      (Form.draftAll root.draft members >>= next).events =
        (Form.draftAll root.draft members).events ++ (next nodes).events := by
    change (Traced.andThen _ next).events = _
    rw [Traced.andThen, membersDrafted]
  rw [unfolded, choiceDraft_eq root present, events_bind, events_bind]
  simp only [Traced.ofExcept, List.append_nil]

/-- What a discriminated choice logs beyond the plain choice is a warning. -/
theorem draft_as_choice
    {root tag : Json} {discriminator : List (String × Json)} {members : List Json}
    (present : members ≠ []) {node : Draft}
    (drafted : (discriminatedDraft root tag discriminator members).outcome = .ok node) :
    ∃ nodes kind warnings,
      List.Forall₂ (fun member node => (root.draft member).outcome = .ok node) members nodes ∧
      node = .group kind nodes ∧ (kind = .sum ∨ kind = .union) ∧
      (choiceDraft root members).outcome = .ok (.group .union nodes) ∧
      (∀ event ∈ warnings, event.isWarning = true) ∧
      (discriminatedDraft root tag discriminator members).events =
        (choiceDraft root members).events ++ warnings := by
  obtain ⟨tagOf, tags, mapped, declared⟩ := exists_tags_of_discriminatedDraft drafted
  obtain ⟨nodes, kind, each, same, isSumOrUnion, choice, sameEvents⟩ :=
    draft_as_choice_of_tags present mapped declared drafted
  refine ⟨nodes, kind, _, each, same, isSumOrUnion, choice, ?_, sameEvents⟩
  intro event isEvent
  rw [events_discriminatedNode tag tags nodes event isEvent]
  rfl

/-! ## Rendering either choice -/

/-- Nodes that are alike are rendered to the same texts, fail alike and leave the same desk. -/
theorem renderings_alike
    (root : Json) (bound : Option Nat) (namer : Nat) {one other : Draft} (alike : one.Alike other)
    (count : Nat) (desk : Desk String (List String)) :
    (renderings root bound namer one count desk).1.map (Except.map Node.text) =
        (renderings root bound namer other count desk).1.map (Except.map Node.text) ∧
      (renderings root bound namer one count desk).2 =
        (renderings root bound namer other count desk).2 := by
  induction count generalizing desk with
  | zero => exact ⟨rfl, rfl⟩
  | succ count inductionHypothesis =>
      -- The work is the same because the leaves are; only what the results are filled into differs.
      have rendered (node : Draft) (active : Desk String (List String)) :
          ((workshop root bound).render (depth root) node).runOn active =
            (((Work.onEach ((workshop root bound).expand (depth root)) node.keys).runOn active).1.map
                node.fill,
              ((Work.onEach ((workshop root bound).expand (depth root)) node.keys).runOn
                active).2) := by
        rw [runOn_render, Work.runOn_bind]
        rcases (Work.onEach ((workshop root bound).expand (depth root)) node.keys).runOn active with
          ⟨outcome, after⟩
        cases outcome <;> rfl
      have sameTexts (outcome : Except Failure (List Signature)) :
          (outcome.map one.fill).map Node.text = (outcome.map other.fill).map Node.text := by
        cases outcome with
        | error failure => rfl
        | ok parts => exact congrArg Except.ok (alike.fill rfl).text_eq.symm
      have later := inductionHypothesis
        (((workshop root bound).renderUnder (depth root) namer one).runOn desk).2
      have sameDesk : (((workshop root bound).renderUnder (depth root) namer other).runOn desk).2 =
          (((workshop root bound).renderUnder (depth root) namer one).runOn desk).2 := by
        simp only [Workshop.renderUnder, Work.runOn_withActive, rendered, alike.keys_eq]
      constructor
      · simp only [renderings, List.map_cons]
        rw [sameDesk, later.1]
        simp only [Workshop.renderUnder, Work.runOn_withActive, rendered, alike.keys_eq, sameTexts]
      · simp only [renderings]
        rw [sameDesk]
        exact later.2

theorem alike_group {one other : Grouping} (same : one.canonical = other.canonical)
    (nodes : List Draft) : (Node.group one nodes).Alike (.group other nodes) := by
  rw [Node.Alike, Node.canonical, Node.canonical, same]

/-! ## Failures of either choice -/

/-- The keywords in which a member of a discriminated choice can declare its tag: its own ones, or
those of what it refers to. -/
def declaring? (root : Json) : Json → Option (List (String × Json))
  | .obj keywords =>
      match Json.member? keywords "$ref" with
      | none => some keywords
      | some pointer =>
          match Pointer.resolveValue root pointer with
          | .ok (.obj target) => some target
          | _ => none
  | _ => none

/-- The keywords of the discriminant with the given name. -/
def discriminant? (name : String) (keywords : List (String × Json)) :
    Option (List (String × Json)) :=
  match Json.member? keywords "properties" with
  | some (.obj properties) =>
      match Json.member? properties name with
      | some (.obj discriminant) => some discriminant
      | _ => none
  | _ => none

/-- A discriminator maps tags to references, if it maps any, and the values of each discriminant are
listed in an array, if they are listed. -/
structure WellDescribed (root : Json) (name : String) (discriminator : List (String × Json))
    (members : List Json) : Prop where
  mapping : ∀ value, Json.member? discriminator "mapping" = some value →
    ∃ entries : List (String × String),
      value = .obj (entries.map fun entry => (entry.1, .str entry.2))
  enums : ∀ member ∈ members, ∀ keywords discriminant listed,
    declaring? root member = some keywords → discriminant? name keywords = some discriminant →
      Json.member? discriminant "enum" = some listed → ∃ items, listed = .arr items

section Failing

variable {root : Json} {name : String} {discriminator : List (String × Json)} {members : List Json}

theorem WellDescribed.exists_mappedTags (described : WellDescribed root name discriminator members) :
    ∃ tagOf, Form.mappedTags discriminator = .ok tagOf := by
  cases found : Json.member? discriminator "mapping" with
  | none => exact ⟨[], by rw [Form.mappedTags, found]⟩
  | some value =>
      obtain ⟨entries, rfl⟩ := described.mapping value found
      have keys : ∀ entry ∈ Form.targetTags (entries.map fun entry => (entry.1, .str entry.2)),
          entry.1.isKey = true := by
        intro entry isEntry
        obtain ⟨mapped, isMapped, rfl⟩ := List.mem_map.mp isEntry
        obtain ⟨_, _, rfl⟩ := List.mem_map.mp isMapped
        rfl
      obtain ⟨tagOf, keyed, _⟩ := keyedTable_of_keys keys
      exact ⟨tagOf, (Form.mappedTags_eq_keyedTable found).trans keyed⟩

/-- A declared tag can be read if the values of the discriminant are listed in an array. -/
theorem exists_declaredTag
    {keywords : List (String × Json)}
    (enums : ∀ discriminant listed, discriminant? name keywords = some discriminant →
      Json.member? discriminant "enum" = some listed → ∃ items, listed = .arr items) :
    ∃ declared, Form.declaredTag (.str name) keywords = .ok declared := by
  unfold Form.declaredTag
  split
  · next properties found =>
      simp only [Json.isKey, Bool.not_true, Bool.false_eq_true, if_false]
      split
      · next discriminant described =>
          have isDiscriminant : discriminant? name keywords = some discriminant := by
            simp only [discriminant?, found, described]
          have declared : ∃ value, Form.declaredValue discriminant = .ok value := by
            unfold Form.declaredValue
            split
            · exact ⟨_, rfl⟩
            · split
              · exact ⟨none, rfl⟩
              · next listed isListed =>
                  obtain ⟨items, rfl⟩ := enums discriminant listed isDiscriminant isListed
                  split
                  · exact ⟨none, rfl⟩
                  · exact ⟨items.head?, rfl⟩
          obtain ⟨value, declared⟩ := declared
          rw [declared]
          exact ⟨_, rfl⟩
      · exact ⟨none, rfl⟩
  · exact ⟨none, rfl⟩

/-- A schema that has a node refers to nothing, or by a text that leads to a value. -/
theorem resolve_of_draft
    {root : Json} {keywords : List (String × Json)} {pointer : Json} {node : Draft}
    (drafted : (root.draft (.obj keywords)).outcome = .ok node)
    (refers : Json.member? keywords "$ref" = some pointer) :
    ∃ target value, pointer = .str target ∧ Pointer.resolve root target = .ok value := by
  have form : root.form (.obj keywords) = Form.ofReference root pointer := by
    rw [Json.form, Form.ofKeywords, refers]
  rw [Json.draft_eq, form] at drafted
  rcases Form.ofReference_cases root pointer with
    ⟨failure, rejected⟩ | ⟨target, value, isText, resolved, _⟩
  · rw [rejected, Form.assemble] at drafted
    cases drafted
  · exact ⟨target, value, isText, resolved⟩

/-- If the tag of a member cannot be found, the member is a reference that leads nowhere. -/
theorem draft_error_of_memberTag
    {member : Json} {tagOf : List (Json × Json)} {failure : Failure}
    (enums : ∀ keywords discriminant listed, declaring? root member = some keywords →
      discriminant? name keywords = some discriminant →
        Json.member? discriminant "enum" = some listed → ∃ items, listed = .arr items)
    (failed : Form.memberTag root (.str name) tagOf member = .error failure) :
    ∃ other, (root.draft member).outcome = .error other := by
  cases member with
  | obj keywords =>
      cases found : Json.member? keywords "$ref" with
      | none =>
          have own : declaring? root (.obj keywords) = some keywords := by
            simp only [declaring?, found]
          obtain ⟨declared, read⟩ := exists_declaredTag fun discriminant listed =>
            enums keywords discriminant listed own
          rw [Form.memberTag, found] at failed
          cases read.symm.trans failed
      | some pointer =>
          cases drafted : (root.draft (.obj keywords)).outcome with
          | error other => exact ⟨other, rfl⟩
          | ok node =>
              -- A reference that leads somewhere has a tag, mapped or declared or none.
              obtain ⟨target, value, rfl, resolved⟩ := resolve_of_draft drafted found
              have led : Pointer.resolveValue root (.str target) = .ok value := resolved
              rw [Form.memberTag, found] at failed
              simp only [Json.isKey, Bool.not_true, Bool.false_eq_true, if_false] at failed
              split at failed
              · cases failed
              · rw [led, Outcome.bind_ok] at failed
                cases value with
                | obj keywords' =>
                    have own : declaring? root (.obj keywords) = some keywords' := by
                      simp only [declaring?, found, led]
                    obtain ⟨declared, read⟩ := exists_declaredTag fun discriminant listed =>
                      enums keywords' discriminant listed own
                    cases read.symm.trans failed
                | _ => cases failed
  | _ => cases failed

theorem exists_of_memberTags_error
    {tag : Json} {tagOf : List (Json × Json)} {place : Nat} {failure : Failure}
    (failed : Form.memberTags root tag tagOf place members = .error failure) :
    ∃ member ∈ members, Form.memberTag root tag tagOf member = .error failure := by
  induction members generalizing place with
  | nil => cases failed
  | cons first rest inductionHypothesis =>
      rw [Form.memberTags] at failed
      rcases Outcome.bind_eq_error_iff.mp failed with firstFailed | ⟨declared, _, failed⟩
      · exact ⟨first, List.mem_cons_self, firstFailed⟩
      · rcases Outcome.bind_eq_error_iff.mp failed with restFailed | ⟨others, _, impossible⟩
        · obtain ⟨member, isMember, memberFailed⟩ := inductionHypothesis restFailed
          exact ⟨member, List.mem_cons_of_mem _ isMember, memberFailed⟩
        · cases impossible

theorem choiceDraft_error_of_member
    (present : members ≠ []) {member : Json} (isMember : member ∈ members) {failure : Failure}
    (failed : (root.draft member).outcome = .error failure) :
    ∃ other, (choiceDraft root members).outcome = .error other := by
  rw [choiceDraft_eq root present, Traced.outcome_bind]
  cases drafted : (Form.draftAll root.draft members).outcome with
  | error other => exact ⟨other, rfl⟩
  | ok nodes =>
      obtain ⟨node, memberDrafted⟩ :=
        Form.exists_of_forall₂ (Form.forall₂_of_draftAll drafted) member isMember
      rw [failed] at memberDrafted
      cases memberDrafted

/-- A well described choice is refused only if the plain choice is. -/
theorem choiceDraft_error_of_discriminatedDraft
    (present : members ≠ []) (described : WellDescribed root name discriminator members)
    {failure : Failure}
    (failed : (discriminatedDraft root (.str name) discriminator members).outcome = .error failure) :
    ∃ other, (choiceDraft root members).outcome = .error other := by
  obtain ⟨tagOf, mapped⟩ := described.exists_mappedTags
  cases declared : Form.memberTags root (.str name) tagOf 0 members with
  | error tagFailure =>
      obtain ⟨member, isMember, memberFailed⟩ := exists_of_memberTags_error declared
      obtain ⟨other, draftFailed⟩ :=
        draft_error_of_memberTag (described.enums member isMember) memberFailed
      exact choiceDraft_error_of_member present isMember draftFailed
  | ok tags =>
      rw [discriminatedDraft_eq present mapped declared, Traced.outcome_bind] at failed
      cases drafted : (Form.draftAll root.draft members).outcome with
      | error other =>
          obtain ⟨member, isMember, memberFailed⟩ := Form.error_of_draftAll drafted
          exact choiceDraft_error_of_member present isMember memberFailed
      | ok nodes =>
          have nodesPresent := ne_nil_of_draftAll present drafted
          have tagKeys :=
            Form.isKey_of_mem_memberTags (Form.isKey_of_mem_mappedTags mapped) declared
          obtain ⟨_, _, made⟩ :=
            Form.discriminatedNode_cases (.str name) nodesPresent tagKeys
          rw [drafted, Outcome.bind_ok, made] at failed
          cases failed

end Failing

/-! ## Discriminated and plain choices -/

/-- A schema that declares the tag of its members by a constant. -/
def tagged (value : Json) : Json :=
  .obj [("properties", .obj [("kind", .obj [("const", value)])])]

/-- A document with one definition, which takes its tag from a list. -/
def listedTag : Json :=
  .obj [("$defs", .obj [("A", .obj [("properties", .obj
    [("kind", .obj [("enum", .arr [.int 2])])])])])]

/-- Members whose tags are one, true, which is equal to one, the place of a member without a tag, and
the same number as that place. -/
def collidingMembers : List Json :=
  [tagged (.int 1), tagged (.bool true), .obj [], .obj [("$ref", .str "#/$defs/A")]]

/-- A reference to the definition and one that leads nowhere. -/
def strayMembers : List Json :=
  [.obj [("$ref", .str "#/$defs/A")], .obj [("$ref", .str "#/$defs/B")]]

/-- A discriminator with a mapping that neither of the stray members is in. -/
def mappingElsewhere : List (String × Json) :=
  [("propertyName", .str "kind"), ("mapping", .obj [("third", .str "#/$defs/C")])]

theorem wellDescribed_strayMembers :
    WellDescribed listedTag "kind" mappingElsewhere strayMembers where
  mapping := by
    intro value found
    cases found
    exact ⟨[("third", "#/$defs/C")], rfl⟩
  enums := by
    intro member isMember keywords discriminant listed own described isListed
    rcases List.mem_pair.mp isMember with rfl | rfl
    · cases own
      cases described
      cases isListed
      exact ⟨[.int 2], rfl⟩
    · cases own

end Document

end SchemaSignature
