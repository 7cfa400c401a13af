import SchemaSignature.Document.Normalization
import SchemaSignature.Proofs.Document.AlikeDrafts
import SchemaSignature.Proofs.Document.AlikeSessions
import SchemaSignature.Proofs.Document.Precedence

/-!
Sessions of normal schemas. What a schema is normalized to has its keywords in their order, with those
that are missing behind them, and is normal. An array whose items get the open schema is written as
before, and so is an object that lists its properties. An object that does not list any is a record,
and its normal form has no fields instead: here, and where a reference leads into a keyword that has
been added, normalizing makes a difference.
-/

namespace SchemaSignature.Document

/-! ## What is added -/

theorem member?_append (schema added : List (String × Json)) (key : String) :
    Json.member? (schema ++ added) key = (Json.member? schema key).or (Json.member? added key) :=
  List.lookup_append

theorem hasMember_append (schema added : List (String × Json)) (key : String) :
    Json.hasMember (schema ++ added) key = (Json.hasMember schema key || Json.hasMember added key) := by
  rw [Json.hasMember, member?_append, Option.isSome_or]
  rfl

theorem withDefault_of_hasMember
    {schema : List (String × Json)} {keyword : String} (has : Json.hasMember schema keyword = true)
    (value : Json) : withDefault keyword value schema = schema :=
  if_pos has

/-- The keyword with the default is the only one that is added, and only if it is missing. -/
theorem exists_added_withDefault
    (keyword : String) (value : Json) (schema : List (String × Json)) :
    ∃ added, withDefault keyword value schema = schema ++ added ∧
      ∀ entry ∈ added, entry.1 = keyword ∧ Json.hasMember schema keyword = false := by
  unfold withDefault
  split
  · exact ⟨[], (List.append_nil schema).symm, fun _ impossible => by cases impossible⟩
  · next absent =>
      refine ⟨[(keyword, value)], rfl, fun entry isAdded => ?_⟩
      cases List.mem_singleton.mp isAdded
      exact ⟨rfl, Bool.eq_false_iff.mpr absent⟩

theorem member?_withDefault_self (keyword : String) (value : Json) (schema : List (String × Json)) :
    Json.member? (withDefault keyword value schema) keyword =
      some ((Json.member? schema keyword).getD value) := by
  unfold withDefault Json.hasMember
  cases found : Json.member? schema keyword with
  | some given => simp [found]
  | none =>
      simp only [Option.isSome_none, Bool.false_eq_true, if_false, member?_append, found,
        Option.none_or, Option.getD_none]
      simp [Json.member?]

theorem member?_withDefault_of_ne
    {keyword key : String} (different : key ≠ keyword) (value : Json)
    (schema : List (String × Json)) :
    Json.member? (withDefault keyword value schema) key = Json.member? schema key := by
  have absent : Json.member? [(keyword, value)] key = none := by
    simp [Json.member?, List.lookup_cons, beq_false_of_ne different]
  unfold withDefault
  split
  · rfl
  · rw [member?_append, absent, Option.or_none]

/-- Objects are given properties and required names, arrays a schema for their items. -/
theorem normalize_cases (schema : List (String × Json)) :
    (Json.member? schema "type" = some (.str "object") ∧
        normalize schema = withDefault "required" (.arr []) (withDefault "properties" (.obj []) schema)) ∨
      (Json.member? schema "type" = some (.str "array") ∧
        Json.hasMember schema "items" = false ∧ Json.hasMember schema "prefixItems" = false ∧
        normalize schema = schema ++ [("items", .obj [])]) ∨
      (Json.member? schema "type" ≠ some (.str "object") ∧ normalize schema = schema) := by
  unfold normalize
  split
  · next isObject => exact Or.inl ⟨isObject, rfl⟩
  · next isArray =>
      split
      · exact Or.inr (Or.inr ⟨by simp [isArray], rfl⟩)
      · next absent =>
          simp only [Bool.or_eq_true, not_or, Bool.not_eq_true] at absent
          exact Or.inr (Or.inl ⟨isArray, absent.1, absent.2, rfl⟩)
  · next notObject _ => exact Or.inr (Or.inr ⟨notObject, rfl⟩)

/-- A normal schema has the keywords of the schema in their order, and behind them some of three
keywords that the schema does not have. -/
theorem exists_added (schema : List (String × Json)) :
    ∃ added, normalize schema = schema ++ added ∧
      ∀ entry ∈ added, Json.hasMember schema entry.1 = false ∧
        entry.1 ∈ ["properties", "required", "items"] := by
  rcases normalize_cases schema with ⟨_, made⟩ | ⟨_, noItems, _, made⟩ | ⟨_, isNormal⟩
  · obtain ⟨first, firstMade, fromFirst⟩ :=
      exists_added_withDefault "properties" (.obj []) schema
    obtain ⟨second, secondMade, fromSecond⟩ :=
      exists_added_withDefault "required" (.arr []) (withDefault "properties" (.obj []) schema)
    refine ⟨first ++ second, by rw [made, secondMade, firstMade, List.append_assoc], ?_⟩
    intro entry isAdded
    rcases List.mem_append.mp isAdded with inFirst | inSecond
    · obtain ⟨isProperties, absent⟩ := fromFirst entry inFirst
      rw [isProperties]
      exact ⟨absent, by simp⟩
    · obtain ⟨isRequired, absent⟩ := fromSecond entry inSecond
      rw [firstMade, hasMember_append, Bool.or_eq_false_iff] at absent
      rw [isRequired]
      exact ⟨absent.1, by simp⟩
  · refine ⟨_, made, fun entry isAdded => ?_⟩
    cases List.mem_singleton.mp isAdded
    exact ⟨noItems, by simp⟩
  · exact ⟨[], by rw [isNormal, List.append_nil], fun _ impossible => by cases impossible⟩

/-- The keywords of a schema have the same values in the normal schema. -/
theorem member?_normalize_of_some
    {schema : List (String × Json)} {key : String} {value : Json}
    (found : Json.member? schema key = some value) :
    Json.member? (normalize schema) key = some value := by
  obtain ⟨added, made, _⟩ := exists_added schema
  rw [made, member?_append, found, Option.some_or]

/-- Nothing but the three keywords is added. -/
theorem member?_normalize
    {schema : List (String × Json)} {key : String}
    (notDefault : key ∉ ["properties", "required", "items"]) :
    Json.member? (normalize schema) key = Json.member? schema key := by
  obtain ⟨added, made, isDefault⟩ := exists_added schema
  have absent : Json.member? added key = none := by
    refine List.lookup_eq_none_iff.mpr fun entry isAdded => bne_iff_ne.mpr fun same => ?_
    rw [same] at notDefault
    exact notDefault (isDefault entry isAdded).2
  rw [made, member?_append, absent, Option.or_none]

theorem type_normalize (schema : List (String × Json)) :
    Json.member? (normalize schema) "type" = Json.member? schema "type" :=
  member?_normalize (by decide)

/-- A normal schema is not changed. -/
theorem normalize_normalize (schema : List (String × Json)) :
    normalize (normalize schema) = normalize schema := by
  rcases normalize_cases schema with ⟨isObject, made⟩ | ⟨isArray, _, _, made⟩ | ⟨_, isNormal⟩
  · have hasProperties : Json.hasMember (normalize schema) "properties" = true := by
      rw [Json.hasMember, made, member?_withDefault_of_ne (by decide), member?_withDefault_self,
        Option.isSome_some]
    have hasRequired : Json.hasMember (normalize schema) "required" = true := by
      rw [Json.hasMember, made, member?_withDefault_self, Option.isSome_some]
    have unfolded : normalize (normalize schema) =
        withDefault "required" (.arr []) (withDefault "properties" (.obj []) (normalize schema)) := by
      rw [normalize.eq_def (normalize schema), type_normalize, isObject]
      rfl
    rw [unfolded, withDefault_of_hasMember hasProperties, withDefault_of_hasMember hasRequired]
  · have hasItems : Json.hasMember (normalize schema) "items" = true := by
      rw [made, hasMember_append]
      simp [Json.hasMember, Json.member?]
    rw [normalize.eq_def (normalize schema), type_normalize, isArray]
    simp only [hasItems, Bool.true_or, if_true]
  · rw [isNormal, isNormal]

theorem decisive?_normalize (schema : List (String × Json)) :
    Form.decisive? (normalize schema) = Form.decisive? schema := by
  have notDefault : ∀ keyword ∈ Form.decidingKeywords,
      keyword ∉ ["properties", "required", "items"] := by decide
  refine Form.decisive?_congr fun keyword known => ?_
  unfold Json.hasMember
  rw [member?_normalize (notDefault keyword known)]

/-! ## The form of a normal schema -/

/-- An object by its type that does not list properties. -/
structure IsBareObject (schema : List (String × Json)) : Prop where
  typed : Form.decisive? schema = none
  isObject : Json.member? schema "type" = some (.str "object")
  bare : Json.hasMember schema "properties" = false

theorem normalize_of_object
    {schema : List (String × Json)} (isObject : Json.member? schema "type" = some (.str "object")) :
    normalize schema = withDefault "required" (.arr []) (withDefault "properties" (.obj []) schema) := by
  simp only [normalize, isObject]

theorem properties_of_object
    {schema : List (String × Json)} (isObject : Json.member? schema "type" = some (.str "object")) :
    Json.member? (normalize schema) "properties" =
      some ((Json.member? schema "properties").getD (.obj [])) := by
  rw [normalize_of_object isObject, member?_withDefault_of_ne (by decide), member?_withDefault_self]

/-- The properties of a normal schema are those of the schema, or there are none to be listed. -/
theorem properties_normalize (schema : List (String × Json)) :
    Json.member? (normalize schema) "properties" = Json.member? schema "properties" ∨
      Json.member? schema "properties" = none ∧
        Json.member? (normalize schema) "properties" = some (.obj []) := by
  cases found : Json.member? schema "properties" with
  | some value => exact Or.inl (member?_normalize_of_some found)
  | none =>
      rcases normalize_cases schema with ⟨isObject, _⟩ | ⟨_, _, _, made⟩ | ⟨_, isNormal⟩
      · right
        rw [properties_of_object isObject, found]
        exact ⟨rfl, rfl⟩
      · left
        rw [made, member?_append, found]
        rfl
      · left
        rw [isNormal, found]

/-- No name is added to the required ones. -/
theorem requiredNames_normalize
    {schema : List (String × Json)} (isObject : Json.member? schema "type" = some (.str "object")) :
    Form.requiredNames (normalize schema) = Form.requiredNames schema := by
  have required : Json.member? (normalize schema) "required" =
      some ((Json.member? schema "required").getD (.arr [])) := by
    rw [normalize_of_object isObject, member?_withDefault_self, member?_withDefault_of_ne (by decide)]
  unfold Form.requiredNames
  rw [required]
  cases Json.member? schema "required" <;> rfl

theorem ofObject_normalize
    {schema : List (String × Json)} (isObject : Json.member? schema "type" = some (.str "object"))
    (listed : Json.hasMember schema "properties" = true) :
    Form.ofObject (normalize schema) = Form.ofObject schema := by
  obtain ⟨value, found⟩ := Option.isSome_iff_exists.mp listed
  unfold Form.ofObject Form.properties
  rw [member?_normalize (by decide), requiredNames_normalize isObject,
    member?_normalize_of_some found, found]

/-- A bare object has no properties to be listed, and its normal form lists none. -/
theorem IsBareObject.ofObject {schema : List (String × Json)} (bare : IsBareObject schema) :
    ∃ additional, Form.ofObject schema = .object additional (.ok none) ∧
      Form.ofObject (normalize schema) =
        .object additional ((Form.requiredNames schema).map fun _ => some []) := by
  have absent : Json.member? schema "properties" = none :=
    Option.isNone_iff_eq_none.mp (Option.isSome_eq_false_iff.mp bare.bare)
  have unlisted : Form.properties schema = .ok none := by
    unfold Form.properties
    rw [absent]
  have listed : Form.properties (normalize schema) =
      (Form.requiredNames schema).map fun _ => some [] := by
    unfold Form.properties
    rw [properties_of_object bare.isObject, absent, requiredNames_normalize bare.isObject]
    cases Form.requiredNames schema <;> rfl
  unfold Form.ofObject
  rw [member?_normalize (by decide), unlisted, listed]
  exact ⟨_, rfl, rfl⟩

/-! ## References into a normal schema -/

section Document

variable {keywords : List (String × Json)}

/-- A reference that leads somewhere leads to the same value in the normal schema, or from the whole
schema to the whole normal schema. -/
theorem resolve_normalize (keywords : List (String × Json)) (reference : String) :
    (∃ failure, Pointer.resolve (.obj keywords) reference = .error failure) ∨
      (∃ value, Pointer.resolve (.obj keywords) reference = .ok value ∧
        Pointer.resolve (.obj (normalize keywords)) reference = .ok value) ∨
      (Pointer.resolve (.obj keywords) reference = .ok (.obj keywords) ∧
        Pointer.resolve (.obj (normalize keywords)) reference = .ok (.obj (normalize keywords))) := by
  unfold Pointer.resolve
  split
  · next pointer _ =>
      by_cases whole : pointer.isEmpty = true
      · simp [whole]
      · simp only [if_neg whole]
        cases followed : (Pointer.steps pointer).foldlM (Pointer.follow reference) (.obj keywords) with
        | error failure => exact Or.inl ⟨failure, rfl⟩
        | ok value =>
            refine Or.inr (Or.inl ⟨value, rfl, ?_⟩)
            cases taken : Pointer.steps pointer with
            | nil =>
                have several := Text.pieces_ne_nil '/' (pointer.dropWhile (· == '/'))
                exact absurd (List.map_eq_nil_iff.mp taken) several
            | cons step rest =>
                rw [taken, List.foldlM_cons] at followed
                obtain ⟨next, stepped, later⟩ := Outcome.bind_eq_ok_iff.mp followed
                have sameStep : Pointer.follow reference (.obj (normalize keywords)) step = .ok next := by
                  unfold Pointer.follow at stepped ⊢
                  simp only at stepped ⊢
                  split at stepped
                  · next found =>
                      rw [member?_normalize_of_some found]
                      exact stepped
                  · cases stepped
                rw [List.foldlM_cons, sameStep, Outcome.bind_ok, later]
  · exact Or.inl ⟨_, rfl⟩

/-- A reference that leads nowhere fails in the normal schema for the same reason. -/
def FailsAgain (keywords : List (String × Json)) (reference : String) : Prop :=
  ∀ failure, Pointer.resolve (.obj keywords) reference = .error failure →
    Pointer.resolve (.obj (normalize keywords)) reference = .error failure

theorem ofReference_normalize
    {pointer : Json} (again : ∀ reference, pointer = .str reference → FailsAgain keywords reference) :
    Form.ofReference (.obj (normalize keywords)) pointer =
      Form.ofReference (.obj keywords) pointer := by
  cases pointer with
  | str reference =>
      simp only [Form.ofReference]
      rcases resolve_normalize keywords reference with
        ⟨failure, failed⟩ | ⟨value, resolved, otherResolved⟩ | ⟨resolved, otherResolved⟩
      · rw [failed, again reference rfl failure failed]
      · rw [resolved, otherResolved]
      · rw [resolved, otherResolved]
  | _ => rfl

/-- The tag that the whole schema declares is declared by the normal schema. -/
theorem declaredTag_normalize
    {tag : Json}
    (tagged : tag.isKey = true ∨
      Json.member? (normalize keywords) "properties" = Json.member? keywords "properties") :
    Form.declaredTag tag (normalize keywords) = Form.declaredTag tag keywords := by
  unfold Form.declaredTag
  rcases properties_normalize keywords with same | ⟨absent, added⟩
  · rw [same]
  · rcases tagged with isKey | same
    · rw [absent, added]
      simp only [isKey, Bool.not_true, Bool.false_eq_true, if_false]
      cases tag <;> rfl
    · rw [same]

theorem memberTag_normalize
    {tag : Json}
    (tagged : tag.isKey = true ∨
      Json.member? (normalize keywords) "properties" = Json.member? keywords "properties")
    (tagOf : List (Json × Json)) (member : Json)
    (again : ∀ schema reference, member = .obj schema →
      Json.member? schema "$ref" = some (.str reference) → FailsAgain keywords reference) :
    Form.memberTag (.obj (normalize keywords)) tag tagOf member =
      Form.memberTag (.obj keywords) tag tagOf member := by
  cases member with
  | obj schema =>
      simp only [Form.memberTag]
      cases found : Json.member? schema "$ref" with
      | none => rfl
      | some pointer =>
          cases pointer with
          | str reference =>
              simp only [Pointer.resolveValue]
              rcases resolve_normalize keywords reference with
                ⟨failure, failed⟩ | ⟨value, resolved, otherResolved⟩ | ⟨resolved, otherResolved⟩
              · rw [failed, again schema reference rfl found failure failed]
              · rw [resolved, otherResolved]
              · rw [resolved, otherResolved]
                simp only [Outcome.bind_ok, declaredTag_normalize tagged]
          | _ => rfl
  | _ => rfl

theorem memberTags_normalize
    {tag : Json}
    (tagged : tag.isKey = true ∨
      Json.member? (normalize keywords) "properties" = Json.member? keywords "properties")
    (tagOf : List (Json × Json)) (members : List Json)
    (again : ∀ schema reference, .obj schema ∈ members →
      Json.member? schema "$ref" = some (.str reference) → FailsAgain keywords reference)
    (place : Nat) :
    Form.memberTags (.obj (normalize keywords)) tag tagOf place members =
      Form.memberTags (.obj keywords) tag tagOf place members := by
  induction members generalizing place with
  | nil => rfl
  | cons member rest inductionHypothesis =>
      have sameFirst := memberTag_normalize tagged tagOf member fun schema reference same =>
        again schema reference (same ▸ List.mem_cons_self)
      have sameRest := inductionHypothesis
        (fun schema reference later => again schema reference (List.mem_cons_of_mem _ later))
        (place + 1)
      rw [Form.memberTags, Form.memberTags, sameFirst, sameRest]

/-- What a schema looks up is the same in the normal schema: the references that fail do so again,
and a discriminated choice finds the tags of its members. -/
structure LooksUpAlike (keywords schema : List (String × Json)) : Prop where
  references : ∀ reference, Form.LooksUp schema reference → FailsAgain keywords reference
  tags : ∀ discriminator tag value, Form.Discriminates schema discriminator tag value →
    tag.isKey = true ∨
      Json.member? (normalize keywords) "properties" = Json.member? keywords "properties"

/-- The keyword that decides a schema gives it the same form in the normal schema. -/
theorem ofDecisive_normalize
    {schema : List (String × Json)} (alike : LooksUpAlike keywords schema) {keyword : String}
    {value : Json} (decides : Form.decisive? schema = some keyword)
    (found : Json.member? schema keyword = some value) :
    Form.ofDecisive (.obj (normalize keywords)) schema keyword value =
      Form.ofDecisive (.obj keywords) schema keyword value := by
  have known := (Form.exists_of_decisive? decides).1
  simp only [Form.decidingKeywords, List.mem_cons, List.not_mem_nil, or_false] at known
  rcases known with rfl | rfl | rfl | rfl | rfl | rfl
  · refine ofReference_normalize fun reference isText => alike.references reference (.own ?_)
    rw [found, isText]
  · rfl
  · change Form.ofOneOf _ schema value = Form.ofOneOf _ schema value
    rcases Form.ofOneOf_cases decides found with ⟨discriminator, tag, choice, form⟩ | ⟨_, form⟩
    · have tagged := alike.tags discriminator tag value choice
      rw [form, form]
      unfold Form.ofDiscriminated
      cases listing : Form.elements value with
      | error failure => rfl
      | ok members =>
          have sameTags := fun tagOf => memberTags_normalize tagged tagOf members
            (fun member reference isMember isReference =>
              alike.references reference (.member choice listing isMember isReference)) 0
          simp only [Outcome.bind_ok, sameTags]
    · rw [form, form]
  · rfl
  · rfl
  · rfl

/-- A schema that looks up the same has the same form in the normal schema. -/
theorem form_normalize
    (schema : Json) (alike : ∀ given, schema = .obj given → LooksUpAlike keywords given) :
    (Json.obj (normalize keywords)).form schema = (Json.obj keywords).form schema := by
  cases schema with
  | obj given =>
      rw [Json.form, Json.form, Form.ofKeywords_eq, Form.ofKeywords_eq]
      cases decides : Form.decisive? given with
      | none => rfl
      | some keyword =>
          obtain ⟨_, value, found⟩ := Form.exists_of_decisive? decides
          simp only [found, Option.getD_some]
          exact ofDecisive_normalize (alike given rfl) decides found
  | bool value => cases value <;> rfl
  | _ => rfl

/-- The form of the whole schema is the same, unless the schema is a bare object or an array of what
may be anything. -/
theorem form_whole
    (alike : LooksUpAlike keywords keywords) (notBare : ¬IsBareObject keywords) :
    (Json.obj (normalize keywords)).form (.obj (normalize keywords)) =
        (Json.obj keywords).form (.obj keywords) ∨
      (Json.obj keywords).form (.obj keywords) = .primitive .unknownArray ∧
        (Json.obj (normalize keywords)).form (.obj (normalize keywords)) = .array (.obj []) := by
  rw [Json.form, Json.form, Form.ofKeywords_eq, Form.ofKeywords_eq, decisive?_normalize]
  cases decides : Form.decisive? keywords with
  | some keyword =>
      obtain ⟨_, value, found⟩ := Form.exists_of_decisive? decides
      have sameChoice : ∀ root value,
          Form.ofDecisive root (normalize keywords) keyword value =
            Form.ofDecisive root keywords keyword value := by
        intro root value
        unfold Form.ofDecisive Form.ofOneOf
        rw [member?_normalize (by decide)]
      left
      simp only [found, member?_normalize_of_some found, Option.getD_some, sameChoice]
      exact ofDecisive_normalize alike decides found
  | none =>
      simp only [type_normalize]
      rcases normalize_cases keywords with
        ⟨isObject, _⟩ | ⟨isArray, noItems, noPrefix, made⟩ | ⟨_, isNormal⟩
      · have listed : Json.hasMember keywords "properties" = true := by
          cases has : Json.hasMember keywords "properties" with
          | true => rfl
          | false => exact absurd ⟨decides, isObject, has⟩ notBare
        left
        rw [isObject]
        exact ofObject_normalize isObject listed
      · have absent : Json.member? keywords "items" = none :=
          Option.isNone_iff_eq_none.mp (Option.isSome_eq_false_iff.mp noItems)
        have noTuple : Json.member? keywords "prefixItems" = none :=
          Option.isNone_iff_eq_none.mp (Option.isSome_eq_false_iff.mp noPrefix)
        have added : Json.member? (normalize keywords) "items" = some (.obj []) := by
          rw [made, member?_append, absent]
          rfl
        right
        rw [isArray]
        change Form.ofArray keywords = _ ∧ Form.ofArray (normalize keywords) = _
        unfold Form.ofArray
        rw [absent, noTuple, added, member?_normalize (by decide), noTuple]
        exact ⟨rfl, rfl⟩
      · left
        rw [isNormal]

/-! ## Sessions -/

/-- Nothing that a document is drafted from depends on the keywords that are added to it: it is no
bare object, and all schemas that are drafted look up the same in the normal schema. -/
structure Unaffected (keywords : List (String × Json)) : Prop where
  notBare : ¬IsBareObject keywords
  alike : ∀ schema, Reached (.obj keywords) (.obj schema) → LooksUpAlike keywords schema

variable (unaffected : Unaffected keywords)

include unaffected

/-- A schema that is drafted in a document has the same draft in the normal one. -/
theorem draft_normalize
    {schema : Json} (reached : Reached (.obj keywords) schema) :
    (Json.obj (normalize keywords)).draft schema = (Json.obj keywords).draft schema := by
  induction schema using Json.descent_induction (.obj keywords) with
  | step schema inductionHypothesis =>
      have sameForm := form_normalize schema fun given same => unaffected.alike given (same ▸ reached)
      rw [Json.draft_eq, Json.draft_eq, sameForm]
      exact Form.assemble_congr _ fun subschema isPart =>
        inductionHypothesis subschema isPart (reached.part isPart)

theorem draft_whole :
    Outcome.Coincides Node.Alike ((Json.obj keywords).draft (.obj keywords)).outcome
      ((Json.obj (normalize keywords)).draft (.obj (normalize keywords))).outcome := by
  have alike (node : Form.Draft) : node.Alike node := rfl
  rw [Json.draft_eq (.obj keywords), Json.draft_eq (.obj (normalize keywords))]
  rcases form_whole (unaffected.alike keywords .document) unaffected.notBare with
    same | ⟨isOpen, hasItems⟩
  · have sameDrafts : ∀ subschema ∈ ((Json.obj keywords).form (.obj keywords)).subschemas,
        (Json.obj (normalize keywords)).draft subschema = (Json.obj keywords).draft subschema :=
      fun subschema isPart => draft_normalize unaffected (Reached.document.part isPart)
    rw [same, Form.assemble_congr _ sameDrafts]
    exact .refl alike _
  · have openSchema : ((Json.obj (normalize keywords)).draft (.obj [])).outcome =
        .ok (.primitive .unknown) := by
      rw [Json.draft_eq]
      rfl
    rw [isOpen, hasItems]
    exact Form.assemble_coincides openSchema _ .openItems

theorem body_normalize {reference : String} (met : IsMet (.obj keywords) reference) :
    Outcome.Coincides Node.Alike (body (.obj keywords) reference)
      (body (.obj (normalize keywords)) reference) := by
  obtain ⟨schema, reached, refers⟩ := met
  have alike (node : Node String) : node.Alike node := rfl
  unfold body
  rcases resolve_normalize keywords reference with
    ⟨failure, failed⟩ | ⟨value, resolved, otherResolved⟩ | ⟨resolved, otherResolved⟩
  · obtain ⟨value, resolved⟩ := (Form.resolves_of_mem_targets refers).2
    cases failed.symm.trans resolved
  · simp only [resolved, otherResolved,
      draft_normalize unaffected (reached.target refers resolved)]
    exact .refl alike _
  · simp only [resolved, otherResolved]
    exact draft_whole unaffected

theorem session_unaffected (namer : Namer) (bind : Bool) (count : Nat) :
    (session (.obj keywords) namer bind count).ReadsSame
      (session (.obj (normalize keywords)) namer bind count) := by
  have bodies : StandAlike (IsMet (.obj keywords)) (body (.obj keywords))
      (body (.obj (normalize keywords))) := {
    closed := fun _ _ met stands _ isKey => isMet_of_body met stands isKey
    stands := fun _ met => (body_normalize unaffected met).matches }
  have refuse : RefuseAlike (IsMet (.obj keywords)) (body (.obj keywords))
      (body (.obj (normalize keywords))) := by
    intro reference cause otherCause met refused otherRefused
    have coinciding := body_normalize unaffected met
    rw [refused, otherRefused] at coinciding
    exact coinciding.eq_of_error
  have leaves : ∀ node, ((Json.obj keywords).draft (.obj keywords)).outcome = .ok node →
      ∀ reference ∈ node.keys, IsMet (.obj keywords) reference :=
    fun node drafted reference isKey => isMet_of_mem_keys .document drafted isKey
  have drafts := draft_whole unaffected
  exact (session_alike drafts.matches bodies leaves namer bind count).2 drafts refuse

end Document

/-- The normal schema of a schema has the keywords of the schema, in their order and with their values,
and behind them keywords that the schema does not have. It is normal, and it is rendered like the
schema whatever the namer and however often, the failures included, if nothing that is drafted depends
on what is added. A bare object lists no properties, and its normal schema lists none: it becomes an
object without fields, provided that its required names can be read. -/
theorem session_normalize (schema : List (String × Json)) :
    (∃ added, normalize schema = schema ++ added ∧
      ∀ entry ∈ added, Json.hasMember schema entry.1 = false) ∧
    normalize (normalize schema) = normalize schema ∧
    (Unaffected schema → ∀ namer bind count,
      (session (.obj schema) namer bind count).ReadsSame
        (session (.obj (normalize schema)) namer bind count)) ∧
    (IsBareObject schema → ∃ additional,
      (Json.obj schema).form (.obj schema) = .object additional (.ok none) ∧
      (Json.obj (normalize schema)).form (.obj (normalize schema)) =
        .object additional ((Form.requiredNames schema).map fun _ => some [])) := by
  refine ⟨?_, normalize_normalize schema, session_unaffected, fun bare => ?_⟩
  · obtain ⟨added, made, isNew⟩ := exists_added schema
    exact ⟨added, made, fun entry isAdded => (isNew entry isAdded).1⟩
  · obtain ⟨additional, form, normalForm⟩ := bare.ofObject
    refine ⟨additional, ?_, ?_⟩
    · rw [Json.form, Form.ofKeywords_eq, bare.typed, bare.isObject]
      exact form
    · rw [Json.form, Form.ofKeywords_eq, decisive?_normalize, bare.typed, type_normalize, bare.isObject]
      exact normalForm

/-- Documents whose references all lead somewhere, and that keep their properties, depend on nothing
that is added. -/
theorem unaffected_of_resolves
    {keywords : List (String × Json)} (listed : Json.hasMember keywords "properties" = true)
    (resolves : ∀ reference ∈ (Json.obj keywords).references,
      ∃ value, Pointer.resolve (.obj keywords) reference = .ok value) : Unaffected keywords where
  notBare bare := by
    rw [bare.bare] at listed
    cases listed
  alike schema reached := by
    have hereditary := Json.hereditary_references (Json.obj keywords).references
    have among := hereditary.of_reached (List.Subset.refl _) reached
    refine ⟨fun reference looksUp failure failed => ?_, fun _ _ _ _ => Or.inr ?_⟩
    · have isListed : reference ∈ (Json.obj keywords).references := by
        cases looksUp with
        | own found =>
            exact among (Json.mem_references_of_mem_members (Json.mem_of_member? found))
        | member choice listing isMember found =>
            have inList := hereditary.of_member? among choice.listed
            have inMember := hereditary.of_mem_elements inList listing isMember
            exact inMember (Json.mem_references_of_mem_members (Json.mem_of_member? found))
      obtain ⟨value, resolved⟩ := resolves reference isListed
      cases failed.symm.trans resolved
    · obtain ⟨value, found⟩ := Option.isSome_iff_exists.mp listed
      rw [member?_normalize_of_some found, found]

/-- A linked list, without required names. -/
def linkedCells : List (String × Json) :=
  [("type", .str "object"), ("properties", .obj [("next", .obj [("$ref", .str "#")])])]

theorem session_normalize_linkedCells :
    Unaffected linkedCells ∧
      (session (.obj linkedCells) Namer.standard true 2).texts =
        .ok [.ok "Partial<{ next: Partial<{ next: $Ref1; }>; }>", .ok "Partial<{ next: $Ref1; }>"] ∧
      (session (.obj linkedCells) Namer.standard true 2).ReadsSame
        (session (.obj (normalize linkedCells)) Namer.standard true 2) ∧
      IsBareObject [("type", .str "object")] ∧
      ∃ additional, (Json.obj (normalize [("type", .str "object")])).form
        (.obj (normalize [("type", .str "object")])) = .object additional (.ok (some [])) := by
  have unaffected : Unaffected linkedCells := by
    refine unaffected_of_resolves rfl fun reference isListed => ?_
    rw [List.mem_singleton.mp isListed]
    exact ⟨_, rfl⟩
  have bare : IsBareObject [("type", .str "object")] := ⟨rfl, rfl, rfl⟩
  obtain ⟨additional, _, form⟩ := (session_normalize [("type", .str "object")]).2.2.2 bare
  exact ⟨unaffected, rfl, (session_normalize linkedCells).2.2.1 unaffected Namer.standard true 2, bare,
    additional, form⟩

/-! ## Where normalizing makes a difference -/

/-- An array with a definition that refers to the schema of its items, which it does not have. -/
def itemsByReference : List (String × Json) :=
  [("type", .str "array"), ("anyOf", .arr [.obj [("$ref", .str "#/$defs/A")]]),
    ("$defs", .obj [("A", .obj [("$ref", .str "#/items")])])]

/-- A choice of itself, told apart by a field whose name is a list. -/
def choiceOfItself : List (String × Json) :=
  [("type", .str "object"), ("oneOf", .arr [.obj [("$ref", .str "#")]]),
    ("discriminator", .obj [("propertyName", .arr [])])]

/-- A bare object is a record, and its normal schema has no fields. A reference that leads nowhere can
lead to a keyword that is added. And a discriminator whose field has no text for a name is refused
only when there are properties to look the field up in. -/
theorem normalize_changes :
    (session (.obj [("type", .str "object")]) Namer.standard true 1).texts =
        .ok [.ok "Record<string, unknown>"] ∧
      (session (.obj (normalize [("type", .str "object")])) Namer.standard true 1).texts =
        .ok [.ok "{  }"] ∧
      (session (.obj itemsByReference) Namer.standard true 1).texts =
        .ok [.error (.unresolvable "#/items")] ∧
      (session (.obj (normalize itemsByReference)) Namer.standard true 1).texts =
        .ok [.ok "(unknown)"] ∧
      (session (.obj choiceOfItself) Namer.standard true 1).texts = .ok [.ok "(($Ref1))"] ∧
      (session (.obj (normalize choiceOfItself)) Namer.standard true 1).texts =
        .error (.misuse (.notAKey .arr)) :=
  ⟨rfl, rfl, rfl, rfl, rfl, rfl⟩

end SchemaSignature.Document
