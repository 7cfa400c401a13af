import SchemaSignature.Proofs.Document.Discrimination
import SchemaSignature.Proofs.Signature.Tables

/-!
When the tags of a discriminated choice are reported as equal. A member declares a value by its
reference being mapped, or by a constant or a list in the subschema of the discriminant; a member that
declares none has its place for a tag. Places and declared values are the keys of one table, in which
truth values count as numbers. So the report is made exactly if two declared values are one key, or a
declared number is the place of a member that declares nothing.
-/

namespace SchemaSignature

open Form (Draft)

namespace Document

/-! ## Declared values -/

/-- A discriminator maps a name to a reference, and no later name to the same one. -/
def MapsTo (discriminator : List (String × Json)) (name target : String) : Prop :=
  ∃ earlier later : List (String × Json),
    Json.member? discriminator "mapping" = some (.obj (earlier ++ (name, .str target) :: later)) ∧
      ∀ entry ∈ later, entry.2 ≠ .str target

/-- A member is a reference that the discriminator maps a name to. -/
def IsMapped (discriminator : List (String × Json)) (member : Json) : Prop :=
  ∃ keywords target name, member = .obj keywords ∧
    Json.member? keywords "$ref" = some (.str target) ∧ MapsTo discriminator name target

/-- The value that the keywords of a discriminant give to it: the constant, or the first of the listed
values if there is no constant. -/
inductive Gives (field : List (String × Json)) : Json → Prop
  | constant {value : Json} (given : Json.member? field "const" = some value) : Gives field value
  | listed {listing value : Json} {rest : List Json}
      (noConstant : Json.member? field "const" = none)
      (given : Json.member? field "enum" = some listing)
      (first : listing.elements? = some (value :: rest)) : Gives field value

/-- A member declares a value: the name that its reference is mapped to, or else the text, number or
truth value that is given to its discriminant. -/
inductive Declares (root tag : Json) (discriminator : List (String × Json)) : Json → Json → Prop
  | mapped {keywords : List (String × Json)} {target name : String}
      (refers : Json.member? keywords "$ref" = some (.str target))
      (maps : MapsTo discriminator name target) :
      Declares root tag discriminator (.obj keywords) (.str name)
  | described {member value : Json} {keywords field : List (String × Json)} {name : String}
      (unmapped : ¬ IsMapped discriminator member)
      (declaring : declaring? root member = some keywords) (named : tag = .str name)
      (discriminant : discriminant? name keywords = some field) (gives : Gives field value)
      (literal : (Literal.ofJson? value).isSome = true) :
      Declares root tag discriminator member value

/-- The tag of a member at a place: the one value that it declares, or the place if it declares
none. -/
def HasTag (root tag : Json) (discriminator : List (String × Json)) (place : Nat)
    (member given : Json) : Prop :=
  (Declares root tag discriminator member given ∧
      ∀ other, Declares root tag discriminator member other → other = given) ∨
    (∀ value, ¬ Declares root tag discriminator member value) ∧ given = .int place

/-- Every member has its tag at its place. -/
structure Tagged (root tag : Json) (discriminator : List (String × Json))
    (members tags : List Json) : Prop where
  sameLength : tags.length = members.length
  tagAt : ∀ place member, members[place]? = some member →
    ∃ given, tags[place]? = some given ∧ HasTag root tag discriminator place member given

/-! ## Clashes -/

/-- Two values are one key: they are the same text, or the same number, where truth values count as one
and zero. -/
def SameKey (one other : Json) : Prop :=
  (∃ text, one = .str text ∧ other = .str text) ∨
    ∃ quantity, one.quantity? = some quantity ∧ other.quantity? = some quantity

/-- Two members clash: the values that they declare are one key, or the value that one declares is the
place of one that declares none. -/
inductive Clash (root tag : Json) (discriminator : List (String × Json)) (members : List Json) : Prop
  | values {first second : Nat} {one other value otherValue : Json} (before : first < second)
      (isOne : members[first]? = some one) (isOther : members[second]? = some other)
      (declares : Declares root tag discriminator one value)
      (otherDeclares : Declares root tag discriminator other otherValue)
      (same : SameKey value otherValue) : Clash root tag discriminator members
  | place {first second : Nat} {one other value : Json}
      (isOne : members[first]? = some one) (isOther : members[second]? = some other)
      (declares : Declares root tag discriminator one value)
      (silent : ∀ otherValue, ¬ Declares root tag discriminator other otherValue)
      (same : SameKey value (.int second)) : Clash root tag discriminator members

theorem equal_iff_sameKey
    {one : Json} (literal : (Literal.ofJson? one).isSome = true) (other : Json) :
    Json.equal one other = true ↔ SameKey one other := by
  cases one with
  | str text => simp [Json.equal_text_iff, SameKey, Json.quantity?]
  | null | arr | obj => cases literal
  | _ => cases other <;> simp [Json.equal, SameKey, Json.quantity?] <;> exact eq_comm

theorem SameKey.symm {one other : Json} (same : SameKey one other) : SameKey other one :=
  same.imp (fun ⟨text, isOne, isOther⟩ => ⟨text, isOther, isOne⟩)
    fun ⟨quantity, isOne, isOther⟩ => ⟨quantity, isOther, isOne⟩

theorem Declares.literal
    {root tag member value : Json} {discriminator : List (String × Json)}
    (declares : Declares root tag discriminator member value) :
    (Literal.ofJson? value).isSome = true := by
  cases declares with
  | mapped => rfl
  | described _ _ _ _ _ literal => exact literal

theorem HasTag.literal
    {root tag member given : Json} {discriminator : List (String × Json)} {place : Nat}
    (hasTag : HasTag root tag discriminator place member given) :
    (Literal.ofJson? given).isSome = true := by
  rcases hasTag with ⟨declares, _⟩ | ⟨_, rfl⟩
  · exact declares.literal
  · rfl

theorem HasTag.eq_of_declares
    {root tag member given value : Json} {discriminator : List (String × Json)} {place : Nat}
    (hasTag : HasTag root tag discriminator place member given)
    (declares : Declares root tag discriminator member value) : value = given := by
  rcases hasTag with ⟨_, unique⟩ | ⟨silent, _⟩
  · exact unique value declares
  · exact absurd declares (silent value)

theorem HasTag.eq_place
    {root tag member given : Json} {discriminator : List (String × Json)} {place : Nat}
    (hasTag : HasTag root tag discriminator place member given)
    (silent : ∀ value, ¬ Declares root tag discriminator member value) : given = .int place := by
  rcases hasTag with ⟨declares, _⟩ | ⟨_, isPlace⟩
  · exact absurd declares (silent given)
  · exact isPlace

/-! ## Finding the declared value -/

/-- The table of mapped tags finds the name that is mapped to a reference. -/
theorem find?_mappedTags
    {discriminator : List (String × Json)} {tagOf : List (Json × Json)}
    (mapped : Form.mappedTags discriminator = .ok tagOf) (target : String) (value : Json) :
    Table.find? (Json.equal · (.str target)) tagOf = some value ↔
      ∃ name, value = .str name ∧ MapsTo discriminator name target := by
  cases found : Json.member? discriminator "mapping" with
  | none =>
      rw [Form.mappedTags, found] at mapped
      cases mapped
      simp [Table.find?, MapsTo, found]
  | some given =>
      cases given with
      | obj mapping =>
          rw [Form.mappedTags_eq_keyedTable found] at mapped
          rw [keyedTable_find mapped rfl, Form.targetTags, ← List.map_reverse, Table.find?_eq_map,
            List.find?_map, Option.map_map, Option.map_eq_some_iff]
          constructor
          · rintro ⟨⟨name, reference⟩, isLast, rfl⟩
            obtain ⟨isEqual, later, earlier, split, others⟩ :=
              List.find?_eq_some_iff_append.mp isLast
            obtain rfl : reference = .str target := Json.equal_iff_text.mp isEqual
            refine ⟨name, rfl, earlier.reverse, later.reverse, ?_, ?_⟩
            · rw [found, ← List.reverse_reverse mapping, split]
              simp
            · intro entry isLater same
              have differs := others entry (List.mem_reverse.mp isLater)
              simp [same, Json.equal] at differs
          · rintro ⟨name, rfl, earlier, later, split, others⟩
            obtain rfl : mapping = earlier ++ (name, .str target) :: later := by
              simpa [found] using split
            refine ⟨(name, .str target), List.find?_eq_some_iff_append.mpr ⟨?_, ?_⟩, rfl⟩
            · simp [Json.equal]
            · refine ⟨later.reverse, earlier.reverse, by simp, fun entry isLater => ?_⟩
              have differs := others entry (List.mem_reverse.mp isLater)
              simpa [← Json.equal_iff_text] using differs
      | _ =>
          rw [Form.mappedTags, found] at mapped
          cases mapped

/-- The value of a discriminant is the one that is read from its keywords. -/
theorem gives_iff
    {field : List (String × Json)} {declared : Option Json}
    (read : Form.declaredValue field = .ok declared) (value : Json) :
    Gives field value ↔ declared = some value := by
  unfold Form.declaredValue at read
  cases constant : Json.member? field "const" with
  | some given =>
      rw [constant] at read
      cases read
      constructor
      · rintro (⟨found⟩ | ⟨noConstant, _, _⟩)
        · exact constant.symm.trans found
        · rw [constant] at noConstant
          cases noConstant
      · intro same
        exact .constant (constant.trans same)
  | none =>
      have gives : Gives field value ↔ ∃ listing rest, Json.member? field "enum" = some listing ∧
          listing.elements? = some (value :: rest) := by
        constructor
        · rintro (⟨found⟩ | ⟨_, found, first⟩)
          · rw [constant] at found
            cases found
          · exact ⟨_, _, found, first⟩
        · rintro ⟨listing, rest, found, first⟩
          exact .listed constant found first
      rw [constant] at read
      rw [gives]
      cases listed : Json.member? field "enum" with
      | none =>
          rw [listed] at read
          cases read
          simp
      | some listing =>
          rw [listed] at read
          -- Only a text or an array is read at its first place, and only one that has one.
          cases listing with
          | arr items =>
              cases items with
              | nil => cases read; simp [Json.elements?]
              | cons first rest => cases read; simp [Json.elements?]
          | str text =>
              by_cases empty : text = ""
              · subst empty
                cases read
                simp [Json.elements?]
              · have truthy : (Json.str text).isTruthy = true := by simp [Json.isTruthy, empty]
                simp only [truthy] at read
                cases read
                rw [← List.head?_map, List.head?_eq_some_iff]
                simp [Json.elements?]
          | obj members =>
              cases members with
              | nil => cases read; simp [Json.elements?]
              | cons first rest => cases read
          | null => cases read; simp [Json.elements?]
          | bool truth => cases truth <;> cases read; simp [Json.elements?]
          | _ =>
              dsimp only at read
              split at read
              · cases read
                simp [Json.elements?]
              · cases read

/-- The tag that keywords declare is a literal that they give to the discriminant. -/
theorem declaredTag_iff
    {tag : Json} {keywords : List (String × Json)} {declared : Option Json}
    (read : Form.declaredTag tag keywords = .ok declared) (value : Json) :
    (∃ name field, tag = .str name ∧ discriminant? name keywords = some field ∧
        Gives field value ∧ (Literal.ofJson? value).isSome = true) ↔ declared = some value := by
  unfold Form.declaredTag at read
  split at read
  · next properties found =>
      split at read
      · cases read
      · have described (name : String) (field : List (String × Json)) :
            discriminant? name keywords = some field ↔
              Json.member? properties name = some (.obj field) := by
          simp only [discriminant?, found]
          split <;> simp_all
        simp only [described]
        dsimp only at read
        split at read
        · next field isField =>
            obtain ⟨given, reads, filtered⟩ := Outcome.bind_eq_ok_iff.mp read
            cases filtered
            cases tag with
            | str name =>
                rw [Option.filter_eq_some_iff, ← gives_iff reads]
                constructor
                · rintro ⟨_, other, ⟨⟩, isOther, gives, literal⟩
                  cases isField.symm.trans isOther
                  exact ⟨gives, literal⟩
                · rintro ⟨gives, literal⟩
                  exact ⟨name, field, rfl, isField, gives, literal⟩
            | _ => cases isField
        · next noField =>
            cases read
            constructor
            · rintro ⟨name, field, rfl, isField, _⟩
              exact absurd isField (noField field)
            · rintro ⟨⟩
  · next noProperties =>
      cases read
      constructor
      · rintro ⟨name, field, _, isField, _⟩
        unfold discriminant? at isField
        split at isField
        · next properties found => exact absurd found (noProperties properties)
        · cases isField
      · rintro ⟨⟩

section Members

variable {root tag : Json} {discriminator : List (String × Json)} {tagOf : List (Json × Json)}

/-- A member declares what its own keywords, or those of its target, declare, unless it is mapped. -/
theorem declares_iff_of_not_isMapped
    {member : Json} (unmapped : ¬ IsMapped discriminator member) (value : Json) :
    Declares root tag discriminator member value ↔
      ∃ keywords, declaring? root member = some keywords ∧
        ∃ name field, tag = .str name ∧ discriminant? name keywords = some field ∧
          Gives field value ∧ (Literal.ofJson? value).isSome = true := by
  constructor
  · intro declares
    cases declares with
    | mapped refers maps => exact absurd ⟨_, _, _, rfl, refers, maps⟩ unmapped
    | described _ declaring named discriminant gives literal =>
        exact ⟨_, declaring, _, _, named, discriminant, gives, literal⟩
  · rintro ⟨keywords, declaring, name, field, named, discriminant, gives, literal⟩
    exact .described unmapped declaring named discriminant gives literal

/-- The tag that is found for a member with a node is the value that it declares. -/
theorem declares_iff
    (mapped : Form.mappedTags discriminator = .ok tagOf) {member : Json} {node : Draft}
    (drafted : (root.draft member).outcome = .ok node) {declared : Option Json}
    (found : Form.memberTag root tag tagOf member = .ok declared) (value : Json) :
    Declares root tag discriminator member value ↔ declared = some value := by
  cases member with
  | obj keywords =>
      rw [Form.memberTag] at found
      cases refers : Json.member? keywords "$ref" with
      | none =>
          have unmapped : ¬ IsMapped discriminator (.obj keywords) := by
            rintro ⟨_, target, name, ⟨⟩, isMapped, _⟩
            cases refers.symm.trans isMapped
          rw [refers] at found
          rw [declares_iff_of_not_isMapped unmapped, ← declaredTag_iff found]
          simp only [declaring?, refers, Option.some.injEq, exists_eq_left']
      | some pointer =>
          obtain ⟨target, led, rfl, resolved⟩ := resolve_of_draft drafted refers
          rw [refers] at found
          have finds := find?_mappedTags mapped target
          simp only [Json.isKey, Bool.not_true, Bool.false_eq_true, if_false] at found
          split at found
          · next mappedTag isFound =>
              obtain ⟨name, rfl, maps⟩ := (finds mappedTag).mp isFound
              cases found
              constructor
              · intro declares
                cases declares with
                | mapped otherRefers otherMaps =>
                    cases refers.symm.trans otherRefers
                    exact isFound.symm.trans ((finds _).mpr ⟨_, rfl, otherMaps⟩)
                | described unmapped => exact absurd ⟨_, _, _, rfl, refers, maps⟩ unmapped
              · rintro ⟨⟩
                exact .mapped refers maps
          · next notFound =>
              have unmapped : ¬ IsMapped discriminator (.obj keywords) := by
                rintro ⟨_, other, name, ⟨⟩, isMapped, maps⟩
                cases refers.symm.trans isMapped
                cases notFound.symm.trans ((finds _).mpr ⟨name, rfl, maps⟩)
              rw [declares_iff_of_not_isMapped unmapped]
              have leads : Pointer.resolveValue root (.str target) = .ok led := resolved
              rw [leads, Outcome.bind_ok] at found
              cases led with
              | obj described =>
                  rw [← declaredTag_iff found]
                  simp only [declaring?, refers, leads, Option.some.injEq, exists_eq_left']
              | _ =>
                  cases found
                  simp [declaring?, refers, leads]
  | _ =>
      cases found
      rw [declares_iff_of_not_isMapped (by rintro ⟨_, _, _, ⟨⟩, _⟩)]
      simp [declaring?]

theorem hasTag_getD
    (mapped : Form.mappedTags discriminator = .ok tagOf) {member : Json} {node : Draft}
    (drafted : (root.draft member).outcome = .ok node) {declared : Option Json}
    (found : Form.memberTag root tag tagOf member = .ok declared) (place : Nat) :
    HasTag root tag discriminator place member (declared.getD (.int place)) := by
  have declares := declares_iff mapped drafted found
  cases declared with
  | some value =>
      refine Or.inl ⟨(declares value).mpr rfl, fun other otherDeclares => ?_⟩
      exact (Option.some.inj ((declares other).mp otherDeclares)).symm
  | none =>
      refine Or.inr ⟨fun value isDeclared => ?_, rfl⟩
      cases (declares value).mp isDeclared

/-- The tags of members from a place on are theirs at the places from there on. -/
theorem hasTag_of_memberTags
    (mapped : Form.mappedTags discriminator = .ok tagOf) {members tags : List Json} {start : Nat}
    (drafted : ∀ member ∈ members, ∃ node, (root.draft member).outcome = .ok node)
    (found : Form.memberTags root tag tagOf start members = .ok tags) :
    tags.length = members.length ∧
      ∀ place member, members[place]? = some member →
        ∃ given, tags[place]? = some given ∧
          HasTag root tag discriminator (start + place) member given := by
  induction members generalizing start tags with
  | nil =>
      cases found
      exact ⟨rfl, fun _ _ isMember => by cases isMember⟩
  | cons first rest inductionHypothesis =>
      obtain ⟨firstDrafted, restDrafted⟩ := List.forall_mem_cons.mp drafted
      rw [Form.memberTags] at found
      obtain ⟨declared, firstFound, found⟩ := Outcome.bind_eq_ok_iff.mp found
      obtain ⟨others, restFound, found⟩ := Outcome.bind_eq_ok_iff.mp found
      cases found
      obtain ⟨sameLength, restTagged⟩ := inductionHypothesis restDrafted restFound
      refine ⟨congrArg (· + 1) sameLength, ?_⟩
      intro place member isMember
      cases place with
      | zero =>
          cases isMember
          obtain ⟨node, firstDrafted⟩ := firstDrafted
          exact ⟨_, rfl, hasTag_getD mapped firstDrafted firstFound start⟩
      | succ place =>
          obtain ⟨given, isGiven, hasTag⟩ := restTagged place member isMember
          refine ⟨given, isGiven, ?_⟩
          rwa [Nat.add_right_comm] at hasTag

end Members

/-! ## Equal tags -/

section Tags

variable {root tag : Json} {discriminator : List (String × Json)} {members tags : List Json}

theorem Tagged.memberAt (tagged : Tagged root tag discriminator members tags) {place : Nat}
    {given : Json} (isGiven : tags[place]? = some given) :
    ∃ member, members[place]? = some member ∧
      HasTag root tag discriminator place member given := by
  obtain ⟨bound, _⟩ := List.getElem?_eq_some_iff.mp isGiven
  have isMember := List.getElem?_eq_getElem (tagged.sameLength ▸ bound)
  obtain ⟨found, isFound, hasTag⟩ := tagged.tagAt place _ isMember
  cases isGiven.symm.trans isFound
  exact ⟨_, isMember, hasTag⟩

theorem Tagged.literal (tagged : Tagged root tag discriminator members tags) :
    ∀ given ∈ tags, (Literal.ofJson? given).isSome = true := by
  intro given isGiven
  obtain ⟨place, isTag⟩ := List.getElem?_of_mem isGiven
  obtain ⟨_, _, hasTag⟩ := tagged.memberAt isTag
  exact hasTag.literal

/-- Members clash exactly if two of their tags are one key. -/
theorem Tagged.clash_iff (tagged : Tagged root tag discriminator members tags) :
    Clash root tag discriminator members ↔
      ∃ (first second : Nat) (one other : Json), first < second ∧ tags[first]? = some one ∧
        tags[second]? = some other ∧ SameKey one other := by
  constructor
  · intro clash
    cases clash with
    | values before isOne isOther declares otherDeclares same =>
        obtain ⟨given, isGiven, hasTag⟩ := tagged.tagAt _ _ isOne
        obtain ⟨otherGiven, isOtherGiven, otherHasTag⟩ := tagged.tagAt _ _ isOther
        obtain rfl := hasTag.eq_of_declares declares
        obtain rfl := otherHasTag.eq_of_declares otherDeclares
        exact ⟨_, _, _, _, before, isGiven, isOtherGiven, same⟩
    | @place first second _ _ _ isOne isOther declares silent same =>
        obtain ⟨given, isGiven, hasTag⟩ := tagged.tagAt _ _ isOne
        obtain ⟨place, isPlace, otherHasTag⟩ := tagged.tagAt _ _ isOther
        obtain rfl := hasTag.eq_of_declares declares
        obtain rfl := otherHasTag.eq_place silent
        rcases Nat.lt_trichotomy first second with before | rfl | after
        · exact ⟨_, _, _, _, before, isGiven, isPlace, same⟩
        · cases isOne.symm.trans isOther
          exact absurd declares (silent _)
        · exact ⟨_, _, _, _, after, isPlace, isGiven, same.symm⟩
  · rintro ⟨first, second, given, otherGiven, before, isGiven, isOtherGiven, same⟩
    obtain ⟨one, isOne, hasTag⟩ := tagged.memberAt isGiven
    obtain ⟨other, isOther, otherHasTag⟩ := tagged.memberAt isOtherGiven
    rcases hasTag with ⟨declares, _⟩ | ⟨silent, rfl⟩
    · rcases otherHasTag with ⟨otherDeclares, _⟩ | ⟨otherSilent, rfl⟩
      · exact .values before isOne isOther declares otherDeclares same
      · exact .place isOne isOther declares otherSilent same
    · rcases otherHasTag with ⟨otherDeclares, _⟩ | ⟨_, rfl⟩
      · exact .place isOther isOne otherDeclares silent same.symm
      · -- Two places are never the same number.
        have samePlace : (second : Int) = first := by simpa [SameKey, Json.quantity?] using same
        omega

/-- The tags of members are pairwise different as keys exactly if no members clash. -/
theorem Tagged.pairwise_iff (tagged : Tagged root tag discriminator members tags) :
    (tags.Pairwise fun one other => Json.equal one other = false) ↔
      ¬ Clash root tag discriminator members := by
  rw [tagged.clash_iff, List.pairwise_iff_getElem]
  constructor
  · rintro apart ⟨first, second, one, other, before, isOne, isOther, same⟩
    obtain ⟨isFirst, rfl⟩ := List.getElem?_eq_some_iff.mp isOne
    obtain ⟨isSecond, rfl⟩ := List.getElem?_eq_some_iff.mp isOther
    have equal := (equal_iff_sameKey (tagged.literal _ (List.getElem_mem isFirst)) _).mpr same
    rw [apart first second isFirst isSecond before] at equal
    cases equal
  · intro noClash first second isFirst isSecond before
    rw [Bool.eq_false_iff]
    intro equal
    have same := (equal_iff_sameKey (tagged.literal _ (List.getElem_mem isFirst)) _).mp equal
    exact noClash ⟨first, second, _, _, before, List.getElem?_eq_getElem isFirst,
      List.getElem?_eq_getElem isSecond, same⟩

/-- A discriminated choice reports its tags exactly if two of them are equal. -/
theorem events_discriminatedNode_cases
    {nodes : List Draft} (tag : Json) (sameLength : tags.length = nodes.length)
    (keys : ∀ given ∈ tags, given.isKey = true) :
    (Form.discriminatedNode tag tags nodes).events = [] ∧
        (tags.Pairwise fun one other => Json.equal one other = false) ∨
      (Form.discriminatedNode tag tags nodes).events = [.equalTags tag tags] ∧
        ¬ tags.Pairwise fun one other => Json.equal one other = false := by
  have entryKeys : ∀ entry ∈ tags.zip nodes, entry.1.isKey = true :=
    fun entry isEntry => keys entry.1 (List.of_mem_zip isEntry).1
  obtain ⟨table, keyed, _⟩ := keyedTable_of_keys entryKeys
  have zipped : (tags.zip nodes).length = nodes.length := by
    rw [List.length_zip, sameLength, Nat.min_self]
  have names : (tags.zip nodes).map Prod.fst = tags := List.map_fst_zip (Nat.le_of_eq sameLength)
  have apart : table.length = nodes.length ↔
      tags.Pairwise fun one other => Json.equal one other = false := by
    rw [← zipped, keyedTable_length_iff keyed]
    conv_rhs => rw [← names, List.pairwise_map]
  rw [← apart]
  unfold Form.discriminatedNode
  rw [keyed, Traced.ofExcept_ok_bind]
  by_cases full : table.length = nodes.length
  · have isFull : ¬ (table.length != nodes.length) = true := by simp [full]
    rw [if_neg isFull]
    exact Or.inl ⟨rfl, full⟩
  · rw [if_pos (bne_iff_ne.mpr full)]
    exact Or.inr ⟨rfl, full⟩

end Tags

/-! ## Discriminated choices that are drafted -/

/-- Members that have nodes are listed in an array, because the elements of anything else are texts. -/
theorem eq_arr_of_drafts
    {root listing : Json} {members : List Json} (listed : Form.elements listing = .ok members)
    (present : members ≠ [])
    (drafted : ∀ member ∈ members, ∃ node, (root.draft member).outcome = .ok node) :
    listing = .arr members := by
  have noText : ∀ text, .str text ∉ members := by
    intro text isMember
    obtain ⟨node, impossible⟩ := drafted _ isMember
    rw [Json.draft_eq] at impossible
    cases impossible
  obtain ⟨first, rest, rfl⟩ := List.exists_cons_of_ne_nil present
  cases listing with
  | arr items =>
      cases listed
      rfl
  | str text =>
      obtain ⟨_, _, _, rfl, _⟩ := List.map_eq_cons_iff.mp (Except.ok.inj listed)
      exact absurd List.mem_cons_self (noText _)
  | obj entries =>
      obtain ⟨_, _, _, rfl, _⟩ := List.map_eq_cons_iff.mp (Except.ok.inj listed)
      exact absurd List.mem_cons_self (noText _)
  | _ => cases listed

/-- The warning about equal tags. A discriminated choice that is drafted has a list of members, each
with its tag: the one value that it declares, or its place. From any state of the parsing, it leaves
the state that the plain choice of its members leaves, with a warning after everything else if members
clash and with nothing more if none do. -/
theorem warns_iff_tags_clash
    {root tag listing : Json} {keywords discriminator : List (String × Json)} {node : Draft}
    (noReference : Json.member? keywords "$ref" = none)
    (noOtherChoice : Json.member? keywords "anyOf" = none)
    (listed : Json.member? keywords "oneOf" = some listing)
    (described : Json.member? keywords "discriminator" = some (.obj discriminator))
    (named : Json.member? discriminator "propertyName" = some tag)
    (drafted : (root.draft (.obj keywords)).outcome = .ok node) :
    ∃ members tags warnings, listing = .arr members ∧
      Tagged root tag discriminator members tags ∧
      (warnings = [.equalTags tag tags] ∧ Clash root tag discriminator members ∨
        warnings = [] ∧ ¬ Clash root tag discriminator members) ∧
      ∀ desk, ∃ nodes after,
        (perform (choiceDraft root members)).runOn desk = (.ok (.group .union nodes), after) ∧
        (perform (root.draft (.obj keywords))).runOn desk =
          (.ok node, { after with events := after.events ++ warnings }) := by
  have form : root.form (.obj keywords) = Form.ofDiscriminated root tag discriminator listing := by
    rw [Json.form]
    simp only [Form.ofKeywords, noReference, noOtherChoice, listed, described, named]
  rcases Form.ofDiscriminated_cases root tag listing discriminator with
    ⟨failure, rejected⟩ | ⟨tagOf, tags, members, present, elements, mapped, declared, made⟩
  · rw [Json.draft_eq, form, rejected, Form.assemble] at drafted
    cases drafted
  have membersDrafted : ∀ member ∈ members, ∃ node, (root.draft member).outcome = .ok node := by
    rw [Json.draft_eq, form, made, Form.assemble, Traced.outcome_bind] at drafted
    obtain ⟨nodes, allDrafted, _⟩ := Outcome.bind_eq_ok_iff.mp drafted
    exact Form.exists_of_forall₂ (Form.forall₂_of_draftAll allDrafted)
  obtain rfl := eq_arr_of_drafts elements present membersDrafted
  rw [draft_eq_discriminatedDraft noReference noOtherChoice listed described named] at drafted ⊢
  obtain ⟨nodes, kind, each, same, _, choice, sameEvents⟩ :=
    draft_as_choice_of_tags present mapped declared drafted
  obtain ⟨sameLength, tagAt⟩ := hasTag_of_memberTags mapped membersDrafted declared
  have tagged : Tagged root tag discriminator members tags :=
    ⟨sameLength, by simpa only [Nat.zero_add] using tagAt⟩
  have keys := Form.isKey_of_mem_memberTags (Form.isKey_of_mem_mappedTags mapped) declared
  have outcomes := events_discriminatedNode_cases tag (sameLength.trans each.length_eq) keys
  rw [tagged.pairwise_iff, not_not] at outcomes
  refine ⟨members, tags, (Form.discriminatedNode tag tags nodes).events, rfl, tagged, outcomes.symm,
    fun desk => ⟨nodes, ?_⟩⟩
  refine runOn_perform_warned drafted choice ?_ sameEvents desk
  intro event isEvent
  rw [events_discriminatedNode tag tags nodes event isEvent]
  rfl

/-- The keywords of a choice that the field `kind` tells apart. -/
def choiceByKind (members : List Json) : List (String × Json) :=
  [("oneOf", .arr members), ("discriminator", .obj [("propertyName", .str "kind")])]

/-- A tagged member declares its constant, if this is a literal. -/
theorem declares_tagged_iff
    {root value given : Json} {discriminator : List (String × Json)} :
    Declares root (.str "kind") discriminator (tagged value) given ↔
      given = value ∧ (Literal.ofJson? value).isSome = true := by
  have unmapped : ¬ IsMapped discriminator (tagged value) := by
    rintro ⟨_, _, _, ⟨⟩, isMapped, _⟩
    cases isMapped
  rw [declares_iff_of_not_isMapped unmapped]
  constructor
  · rintro ⟨_, ⟨⟩, _, _, ⟨⟩, ⟨⟩, gives, literal⟩
    cases gives with
    | constant isConstant =>
        cases isConstant
        exact ⟨rfl, literal⟩
    | listed noConstant => cases noConstant
  · rintro ⟨rfl, literal⟩
    exact ⟨_, rfl, _, _, rfl, rfl, .constant rfl, literal⟩

/-- One and true, and the place of a member that declares nothing, are one key. -/
theorem warns_iff_tags_clash_colliding :
    Json.member? (choiceByKind collidingMembers) "$ref" = none ∧
      Json.member? (choiceByKind collidingMembers) "anyOf" = none ∧
      Clash listedTag (.str "kind") [("propertyName", .str "kind")] collidingMembers ∧
      ∃ tags node,
        Tagged listedTag (.str "kind") [("propertyName", .str "kind")] collidingMembers tags ∧
        (listedTag.draft (.obj (choiceByKind collidingMembers))).outcome = .ok node ∧
        ∀ desk, ∃ nodes after,
          (perform (choiceDraft listedTag collidingMembers)).runOn desk =
            (.ok (.group .union nodes), after) ∧
          (perform (listedTag.draft (.obj (choiceByKind collidingMembers)))).runOn desk =
            (.ok node, { after with events := after.events ++ [.equalTags (.str "kind") tags] }) := by
  have clash : Clash listedTag (.str "kind") [("propertyName", .str "kind")] collidingMembers :=
    .values Nat.zero_lt_one rfl rfl (declares_tagged_iff.mpr ⟨rfl, rfl⟩)
      (declares_tagged_iff.mpr ⟨rfl, rfl⟩) (Or.inr ⟨.whole 1, rfl, rfl⟩)
  obtain ⟨members, tags, warnings, ⟨⟩, tagged, warned, runs⟩ :=
    @warns_iff_tags_clash listedTag (.str "kind") _ (choiceByKind collidingMembers) _ _
      rfl rfl rfl rfl rfl rfl
  refine ⟨rfl, rfl, clash, tags, _, tagged, rfl, ?_⟩
  rcases warned with ⟨rfl, _⟩ | ⟨_, noClash⟩
  · exact runs
  · exact absurd clash noClash

theorem members_of_places
    {left right one other : Json} {first second : Nat} (different : first ≠ second)
    (isOne : [left, right][first]? = some one) (isOther : [left, right][second]? = some other) :
    one = left ∧ other = right ∨ one = right ∧ other = left := by
  rcases first with _ | _ | first
  · rcases second with _ | _ | second
    · exact absurd rfl different
    · cases isOne
      cases isOther
      exact Or.inl ⟨rfl, rfl⟩
    · cases isOther
  · rcases second with _ | _ | second
    · cases isOne
      cases isOther
      exact Or.inr ⟨rfl, rfl⟩
    · exact absurd rfl different
    · cases isOther
  · cases isOne

/-- A schema that declares no tag. -/
def untagged : Json :=
  .obj [("type", .str "string")]

theorem not_declares_untagged
    {root tag value : Json} {discriminator : List (String × Json)} :
    ¬ Declares root tag discriminator untagged value := by
  intro declares
  cases declares with
  | mapped refers => cases refers
  | described _ declaring _ discriminant =>
      cases declaring
      cases discriminant

/-- A choice warns of equal tags, but no two of its members declare equal values. -/
def WarnsInVain (members : List Json) : Prop :=
  (∃ node tags after,
    (perform ((Json.obj (choiceByKind members)).draft (.obj (choiceByKind members)))).runOn
      (desk Namer.standard) = (.ok node, after) ∧
    .equalTags (.str "kind") tags ∈ after.events) ∧
  ¬ ∃ (first second : Nat) (one other value otherValue : Json), first ≠ second ∧
    members[first]? = some one ∧ members[second]? = some other ∧
    Declares (.obj (choiceByKind members)) (.str "kind") [("propertyName", .str "kind")] one value ∧
    Declares (.obj (choiceByKind members)) (.str "kind") [("propertyName", .str "kind")] other
      otherValue ∧
    Json.strictEqual value otherValue = true

/-- The warning does not mean that two members declare equal values: the place of a member that
declares nothing can be the value of another one, and values of different kinds can be one key. -/
theorem warns_without_equal_values :
    WarnsInVain [tagged (.int 1), untagged] ∧
      WarnsInVain [tagged (.bool true), tagged (.int 1)] := by
  constructor
  · refine ⟨⟨_, _, _, rfl, List.mem_singleton.mpr rfl⟩, ?_⟩
    rintro ⟨first, second, one, other, _, _, different, isOne, isOther, declares, otherDeclares, _⟩
    rcases members_of_places different isOne isOther with ⟨rfl, rfl⟩ | ⟨rfl, rfl⟩
    · exact not_declares_untagged otherDeclares
    · exact not_declares_untagged declares
  · refine ⟨⟨_, _, _, rfl, List.mem_singleton.mpr rfl⟩, ?_⟩
    rintro ⟨first, second, one, other, _, _, different, isOne, isOther, declares, otherDeclares, same⟩
    rcases members_of_places different isOne isOther with ⟨rfl, rfl⟩ | ⟨rfl, rfl⟩
    · obtain ⟨rfl, _⟩ := declares_tagged_iff.mp declares
      obtain ⟨rfl, _⟩ := declares_tagged_iff.mp otherDeclares
      cases same
    · obtain ⟨rfl, _⟩ := declares_tagged_iff.mp declares
      obtain ⟨rfl, _⟩ := declares_tagged_iff.mp otherDeclares
      cases same

end Document

end SchemaSignature
