import SchemaSignature.Program.Registry
import SchemaSignature.Proofs.Naming.Running
import SchemaSignature.Proofs.Program.Names
import SchemaSignature.Proofs.Signature.Tables

/-!
What it comes to to look up an identifier after any number of registrations. An identifier belongs to
the interpreter that was the first to be registered under it. An identifier without an interpreter is
reported with the registered ones, in order; but identifiers that are not texts have no order among
the texts, so that there is no such report once one of them has been registered.
-/

namespace SchemaSignature

namespace Table

variable {key value : Type} {same : key → key → Bool}

theorem find?_congr
    {test other : key → Bool} {entries : List (key × value)}
    (same : ∀ entry ∈ entries, test entry.1 = other entry.1) :
    find? test entries = find? other entries := by
  induction entries with
  | nil => rfl
  | cons first rest inductionHypothesis =>
      obtain ⟨name, content⟩ := first
      have sameFirst : test name = other name := same _ List.mem_cons_self
      rw [find?, find?, sameFirst,
        inductionHypothesis fun entry isRest => same entry (List.mem_cons_of_mem _ isRest)]

/-- Setting an entry to what it is changes nothing. -/
theorem set_of_present
    {name : key} {content : value} {entries : List (key × value)}
    (present : find? (same · name) entries = some content) :
    set same name content entries = entries := by
  induction entries with
  | nil => cases present
  | cons first rest inductionHypothesis =>
      obtain ⟨firstName, firstContent⟩ := first
      rw [find?] at present
      rw [set]
      split at present
      · next isSame =>
          cases present
          rw [if_pos isSame]
      · next isOther => rw [if_neg isOther, inductionHypothesis present]

end Table

namespace Program

/-- The identifier of an interpreter, if it has one. -/
def Shelf.uriOf? (shelf : Shelf) (interpreter : Nat) : Option Json :=
  shelf.interpreters[interpreter]?.bind Interpreter.uri?

/-- An attempt to register an interpreter: which one, its identifier, and what has come of it. -/
structure Registration where
  interpreter : Nat
  uri? : Option Json
  outcome : Except Failure Unit

namespace Registration

/-- The identifier that an interpreter has been registered under, if the attempt has succeeded. -/
def taken? (registration : Registration) : Option Json :=
  match registration.outcome with
  | .ok () => registration.uri?
  | .error _ => none

/-- The attempt has registered an interpreter under a text. -/
def isUnder (text : String) (registration : Registration) : Bool :=
  match registration.taken? with
  | some (.str taken) => taken == text
  | _ => false

theorem isUnder_iff {registration : Registration} {text : String} :
    registration.isUnder text = true ↔ registration.taken? = some (.str text) := by
  unfold isUnder
  split
  · next taken isTaken => simp [isTaken]
  · next notText =>
      refine ⟨fun impossible => (Bool.false_ne_true impossible).elim, fun isTaken => ?_⟩
      exact (notText text isTaken).elim

end Registration

namespace Registry

/-! ## One registration -/

/-- The desk on which the registry has one more entry. -/
def added (uri : Json) (interpreter : Nat) (desk : Desk Cell Shelf) : Desk Cell Shelf :=
  { desk with own :=
    { desk.own with registry := desk.own.registry ++ [(uri, interpreter)] } }

/-- What comes of an attempt to register an interpreter: it is refused, or it has been registered
before, or it is entered under an identifier that no interpreter has. -/
inductive Registers (desk : Desk Cell Shelf) (interpreter : Nat) :
    Except Failure Unit → Desk Cell Shelf → Prop where
  | refused (failure : Failure) : Registers desk interpreter (.error failure) desk
  | again {uri : Json} (own : desk.own.uriOf? interpreter = some uri)
      (held : holder? desk.own uri = some interpreter) : Registers desk interpreter (.ok ()) desk
  | added {uri : Json} (own : desk.own.uriOf? interpreter = some uri) (isKey : uri.isKey = true)
      (free : holder? desk.own uri = none) :
      Registers desk interpreter (.ok ()) (added uri interpreter desk)

/-- All identifiers of a registry can be keys. -/
def Keyed (shelf : Shelf) : Prop :=
  ∀ entry ∈ shelf.registry, entry.1.isKey = true

section Register

variable {desk after : Desk Cell Shelf} {interpreter : Nat} {uri : Json} {failure : Failure}

theorem runOn_interpreterAt (desk : Desk Cell Shelf) (interpreter : Nat) :
    (Shelf.interpreterAt interpreter).runOn desk =
      match desk.own.interpreters[interpreter]? with
      | some found => (.ok found, desk)
      | none => (.error .undefined, desk) := by
  have looked : Shelf.current.runOn desk = (.ok desk.own, desk) := rfl
  rw [Shelf.interpreterAt, Work.runOn_bind_of_ok looked]
  cases desk.own.interpreters[interpreter]? <;> rfl

/-- Registering an interpreter with an identifier is setting an entry, unless that is not allowed. -/
theorem runOn_register_of_uri (own : desk.own.uriOf? interpreter = some uri) :
    (register interpreter).runOn desk =
      match allow desk.own uri interpreter with
      | .error failure => (.error failure, desk)
      | .ok () => (.ok (), { desk with own :=
          { desk.own with registry := Table.set Json.equal uri interpreter desk.own.registry } }) := by
  obtain ⟨found, present, hasUri⟩ := Option.bind_eq_some_iff.mp own
  have looked := runOn_interpreterAt desk interpreter
  rw [present] at looked
  have current : Shelf.current.runOn desk = (.ok desk.own, desk) := rfl
  rw [register, Work.runOn_bind_of_ok looked, hasUri]
  change (Shelf.current >>= _).runOn desk = _
  rw [Work.runOn_bind_of_ok current]
  cases allow desk.own uri interpreter <;> rfl

theorem runOn_register_of_none (nameless : desk.own.uriOf? interpreter = none) :
    ∃ failure, (register interpreter).runOn desk = (.error failure, desk) := by
  have looked := runOn_interpreterAt desk interpreter
  cases present : desk.own.interpreters[interpreter]? with
  | none =>
      rw [present] at looked
      exact ⟨.undefined, by rw [register, Work.runOn_bind_of_error looked]⟩
  | some found =>
      rw [present] at looked
      have hasNone : found.uri? = none := by
        rw [Shelf.uriOf?, present] at nameless
        exact nameless
      refine ⟨.missingUri, ?_⟩
      rw [register, Work.runOn_bind_of_ok looked, hasNone]
      rfl

/-- A registration that fails changes nothing. -/
theorem eq_of_register_error
    (ran : (register interpreter).runOn desk = (.error failure, after)) : after = desk := by
  cases own : desk.own.uriOf? interpreter with
  | none =>
      obtain ⟨_, refused⟩ := runOn_register_of_none own
      exact (congrArg Prod.snd (ran.symm.trans refused))
  | some uri =>
      rw [runOn_register_of_uri own] at ran
      split at ran
      · exact (congrArg Prod.snd ran).symm
      · cases ran

/-- The tests of looking up and of setting entries agree on identifiers that can be keys. -/
theorem holder?_eq_find?
    {shelf : Shelf} (keyed : Keyed shelf) (isKey : uri.isKey = true) :
    holder? shelf uri = Table.find? (Json.equal · uri) shelf.registry := by
  have sameTest : ∀ entry ∈ shelf.registry, Json.equal uri entry.1 = Json.equal entry.1 uri := by
    intro entry isEntry
    rw [Bool.eq_iff_iff, Json.equal_iff_of_isKey isKey (keyed entry isEntry),
      Json.equal_iff_of_isKey (keyed entry isEntry) isKey]
    exact eq_comm
  exact Table.find?_congr sameTest

theorem registers_register (keyed : Keyed desk.own) (interpreter : Nat) :
    Registers desk interpreter ((register interpreter).runOn desk).1
      ((register interpreter).runOn desk).2 := by
  cases own : desk.own.uriOf? interpreter with
  | none =>
      obtain ⟨failure, refused⟩ := runOn_register_of_none own
      rw [refused]
      exact .refused failure
  | some uri =>
      rw [runOn_register_of_uri own]
      cases allowed : allow desk.own uri interpreter with
      | error failure => exact .refused failure
      | ok _ =>
          unfold allow at allowed
          split at allowed
          · cases allowed
          · split at allowed
            · cases allowed
            · next notRefused =>
                have isKey : uri.isKey = true := by simpa using notRefused
                have looked := holder?_eq_find? keyed isKey
                split at allowed
                · next holder held =>
                    split at allowed
                    · next isSame =>
                        obtain rfl := beq_iff_eq.mp isSame
                        have unchanged := Table.set_of_present (looked.symm.trans held)
                        simp only [unchanged]
                        exact .again own held
                    · cases allowed
                · next free =>
                    have absent : ∀ entry ∈ desk.own.registry, Json.equal entry.1 uri = false := by
                      have nothing := looked.symm.trans free
                      rw [Table.find?_eq_map, Option.map_eq_none_iff, List.find?_eq_none] at nothing
                      exact fun entry isEntry => Bool.eq_false_iff.mpr (nothing entry isEntry)
                    simp only [Table.set_of_absent absent]
                    exact .added own isKey free

end Register

/-! ## Any number of registrations -/

/-- Attempts to register interpreters one after the other, and what there is then. -/
def registerEach (desk : Desk Cell Shelf) :
    List Nat → List Registration × Desk Cell Shelf
  | [] => ([], desk)
  | interpreter :: rest =>
      let (outcome, after) := (register interpreter).runOn desk
      let (later, last) := registerEach after rest
      (⟨interpreter, desk.own.uriOf? interpreter, outcome⟩ :: later, last)

/-- The registry is what a history of attempts leads to. -/
structure Reflects (history : List Registration) (shelf : Shelf) : Prop where
  keyed : Keyed shelf
  distinct : (shelf.registry.map Prod.fst).Nodup
  /-- The holder of a text is the first interpreter that was registered under it. -/
  holders : ∀ text, holder? shelf (.str text) =
    (history.find? (Registration.isUnder text)).map Registration.interpreter
  /-- There is an identifier that is not a text if an interpreter was registered under one. -/
  others : (∃ entry ∈ shelf.registry, ∀ text, entry.1 ≠ .str text) ↔
    ∃ registration ∈ history, ∃ uri, registration.taken? = some uri ∧ ∀ text, uri ≠ .str text

section Reflects

variable {history : List Registration} {registration : Registration} {shelf : Shelf}
  {uri : Json}

/-- An attempt that adds no holder of a text, and no other identifier, leaves the registry what the
history leads to. -/
theorem Reflects.append_idle
    (reflects : Reflects history shelf)
    (known : ∀ text, registration.isUnder text = true → holder? shelf (.str text) ≠ none)
    (old : ∀ uri, registration.taken? = some uri → (∀ text, uri ≠ .str text) →
      ∃ entry ∈ shelf.registry, ∀ text, entry.1 ≠ .str text) :
    Reflects (history ++ [registration]) shelf where
  keyed := reflects.keyed
  distinct := reflects.distinct
  holders text := by
    rw [reflects.holders, List.find?_append]
    cases found : history.find? (Registration.isUnder text) with
    | some first => rfl
    | none =>
        have notUnder : registration.isUnder text = false := by
          refine Bool.eq_false_iff.mpr fun isUnder => known text isUnder ?_
          rw [reflects.holders, found]
          rfl
        rw [List.find?_singleton, notUnder]
        rfl
  others := by
    rw [reflects.others]
    constructor
    · rintro ⟨earlier, isEarlier, isOther⟩
      exact ⟨earlier, List.mem_append_left _ isEarlier, isOther⟩
    · rintro ⟨one, isOne, uri, taken, isOther⟩
      rcases List.mem_append.mp isOne with isEarlier | isLast
      · exact ⟨one, isEarlier, uri, taken, isOther⟩
      · obtain rfl := List.mem_singleton.mp isLast
        exact reflects.others.mp (old uri taken isOther)

/-- An identifier that is held is the identifier of an entry, up to its spelling. -/
theorem exists_entry_of_holder? {holder : Nat} (held : holder? shelf uri = some holder) :
    ∃ entry ∈ shelf.registry, Json.equal uri entry.1 = true := by
  rw [holder?, Table.find?_eq_map] at held
  obtain ⟨entry, found, _⟩ := Option.map_eq_some_iff.mp held
  have isEqual := List.find?_some found
  exact ⟨entry, List.mem_of_find?_eq_some found, isEqual⟩

theorem Reflects.append_again
    (reflects : Reflects history shelf) (taken : registration.taken? = some uri)
    {holder : Nat} (held : holder? shelf uri = some holder) :
    Reflects (history ++ [registration]) shelf := by
  refine reflects.append_idle ?_ ?_
  · intro text isUnder
    cases taken.symm.trans (Registration.isUnder_iff.mp isUnder)
    rw [held]
    exact Option.some_ne_none holder
  · intro other takenOther isOther
    cases taken.symm.trans takenOther
    obtain ⟨entry, isEntry, isEqual⟩ := exists_entry_of_holder? held
    refine ⟨entry, isEntry, fun text isText => isOther text ?_⟩
    rw [isText] at isEqual
    exact Json.equal_iff_text.mp isEqual

theorem Reflects.append_added
    (reflects : Reflects history shelf) (taken : registration.taken? = some uri)
    (isKey : uri.isKey = true) (free : holder? shelf uri = none) :
    Reflects (history ++ [registration])
      { shelf with registry := shelf.registry ++ [(uri, registration.interpreter)] } where
  keyed := by
    intro entry isEntry
    rcases List.mem_append.mp isEntry with isOld | isNew
    · exact reflects.keyed entry isOld
    · rw [List.mem_singleton.mp isNew]
      exact isKey
  distinct := by
    rw [List.map_append, List.nodup_append]
    refine ⟨reflects.distinct, List.nodup_singleton _, ?_⟩
    rintro name isOld _ isNew rfl
    obtain ⟨entry, isEntry, rfl⟩ := List.mem_map.mp isOld
    have isSame : entry.1 = uri := List.mem_singleton.mp isNew
    rw [holder?, Table.find?_eq_map, Option.map_eq_none_iff, List.find?_eq_none] at free
    refine free entry isEntry ?_
    rw [isSame]
    exact (Json.equal_iff_of_isKey isKey isKey).mpr rfl
  holders text := by
    have sameTest : registration.isUnder text = Json.equal (.str text) uri := by
      rw [Bool.eq_iff_iff, Registration.isUnder_iff, taken, Option.some.injEq, Json.equal_text_iff]
    have before := reflects.holders text
    rw [holder?, Table.find?_eq_map] at before ⊢
    rw [List.find?_append, List.find?_append, List.find?_singleton, List.find?_singleton, sameTest,
      Option.map_or, Option.map_or, before]
    cases Json.equal (.str text) uri <;> rfl
  others := by
    constructor
    · rintro ⟨entry, isEntry, isOther⟩
      rcases List.mem_append.mp isEntry with isOld | isNew
      · obtain ⟨earlier, isEarlier, found⟩ := reflects.others.mp ⟨entry, isOld, isOther⟩
        exact ⟨earlier, List.mem_append_left _ isEarlier, found⟩
      · rw [List.mem_singleton.mp isNew] at isOther
        exact ⟨registration, List.mem_append_right _ (List.mem_singleton_self _), uri, taken, isOther⟩
    · rintro ⟨one, isOne, other, takenOther, isOther⟩
      rcases List.mem_append.mp isOne with isEarlier | isLast
      · obtain ⟨entry, isEntry, found⟩ := reflects.others.mpr ⟨one, isEarlier, other, takenOther, isOther⟩
        exact ⟨entry, List.mem_append_left _ isEntry, found⟩
      · obtain rfl := List.mem_singleton.mp isLast
        cases taken.symm.trans takenOther
        exact ⟨_, List.mem_append_right _ (List.mem_singleton_self _), isOther⟩

/-- One more attempt is one more registration of the history. -/
theorem Reflects.register
    {desk : Desk Cell Shelf} (reflects : Reflects history desk.own) (interpreter : Nat) :
    Reflects
      (history ++ [⟨interpreter, desk.own.uriOf? interpreter,
        ((register interpreter).runOn desk).1⟩])
      ((register interpreter).runOn desk).2.own := by
  have registers := registers_register reflects.keyed interpreter
  rcases ran : (Registry.register interpreter).runOn desk with ⟨outcome, after⟩
  rw [ran] at registers
  cases registers with
  | refused failure =>
      refine reflects.append_idle ?_ ?_
      · intro text isUnder
        cases Registration.isUnder_iff.mp isUnder
      · intro uri taken
        cases taken
  | again own held => exact reflects.append_again own held
  | added own isKey free => exact reflects.append_added own isKey free

/-- The texts in the registry are those that interpreters have been registered under. -/
theorem Reflects.mem_iff (reflects : Reflects history shelf) (text : String) :
    Json.str text ∈ shelf.registry.map Prod.fst ↔
      ∃ registration ∈ history, registration.isUnder text = true := by
  have holders := reflects.holders text
  rw [← List.find?_isSome, ← Option.isSome_map, ← holders, holder?, Table.find?_eq_map,
    Option.isSome_map, List.find?_isSome, List.mem_map]
  constructor
  · rintro ⟨entry, isEntry, isSame⟩
    exact ⟨entry, isEntry, Json.equal_text_iff.mpr isSame⟩
  · rintro ⟨entry, isEntry, isEqual⟩
    exact ⟨entry, isEntry, Json.equal_text_iff.mp isEqual⟩

theorem Reflects.registerEach
    {desk : Desk Cell Shelf} (reflects : Reflects history desk.own) (interpreters : List Nat) :
    Reflects (history ++ (registerEach desk interpreters).1)
      (registerEach desk interpreters).2.own := by
  induction interpreters generalizing history desk with
  | nil =>
      rw [Registry.registerEach, List.append_nil]
      exact reflects
  | cons interpreter rest inductionHypothesis =>
      have whole := inductionHypothesis (reflects.register interpreter)
      rw [List.append_assoc, List.singleton_append] at whole
      exact whole

end Reflects

/-! ## Looking up -/

theorem runOn_lookup (text : String) (desk : Desk Cell Shelf) :
    (lookup (.str text)).runOn desk =
      match holder? desk.own (.str text) with
      | some holder => (.ok holder, desk)
      | none => (.error (absence desk.own (.str text)), desk) := by
  have current : Shelf.current.runOn desk = (.ok desk.own, desk) := rfl
  rw [lookup, Work.runOn_bind_of_ok current]
  cases holder? desk.own (.str text) <;> rfl

theorem sorted_perm (texts : List String) : (sorted texts).Perm texts :=
  List.mergeSort_perm texts _

/-- Texts that are all different are in strict order when they have been sorted. -/
theorem pairwise_sorted {texts : List String} (distinct : texts.Nodup) :
    (sorted texts).Pairwise fun one other => compare one other = .lt := by
  have isLE_iff (one other : String) : (compare one other != .gt) = (compare one other).isLE := by
    cases compare one other <;> rfl
  have ordered : (sorted texts).Pairwise fun one other => (compare one other != .gt) = true := by
    refine List.pairwise_mergeSort ?_ ?_ texts
    · intro one middle other first second
      rw [isLE_iff] at first second ⊢
      exact Std.TransCmp.isLE_trans first second
    · intro one other
      have swapped : compare other one = (compare one other).swap := Std.OrientedCmp.eq_swap
      rw [swapped]
      cases compare one other <;> rfl
  have different : (sorted texts).Nodup := (sorted_perm texts).nodup_iff.mpr distinct
  refine (ordered.and different).imp ?_
  rintro one other ⟨notGreater, isOther⟩
  cases compared : compare one other with
  | lt => rfl
  | eq => exact (isOther (Std.LawfulEqCmp.eq_of_compare compared)).elim
  | gt =>
      rw [compared] at notGreater
      cases notGreater

/-- The failure to find an identifier lists the registered ones if they are texts. -/
theorem absence_cases (shelf : Shelf) (uri : Json) :
    (∃ names, shelf.registry.map Prod.fst = names.map Json.str ∧
        absence shelf uri = .notRegistered uri (sorted names)) ∨
      ((∃ entry ∈ shelf.registry, ∀ text, entry.1 ≠ .str text) ∧
        absence shelf uri = .misuse .notOrdered) := by
  unfold absence
  generalize shelf.registry = entries
  split
  · next names listed =>
      refine Or.inl ⟨names, ?_, rfl⟩
      induction entries generalizing names with
      | nil =>
          cases listed
          rfl
      | cons first rest inductionHypothesis =>
          obtain ⟨name, holder⟩ := first
          rw [List.mapM_cons] at listed
          obtain ⟨own, isOwn, listed⟩ := Option.bind_eq_some_iff.mp listed
          obtain ⟨others, listedRest, same⟩ := Option.bind_eq_some_iff.mp listed
          cases same
          cases name <;> cases isOwn
          rw [List.map_cons, List.map_cons, inductionHypothesis others listedRest]
  · next unlisted =>
      refine Or.inr ⟨?_, rfl⟩
      induction entries with
      | nil => cases unlisted
      | cons first rest inductionHypothesis =>
          obtain ⟨name, holder⟩ := first
          rw [List.mapM_cons] at unlisted
          cases name with
          | str own =>
              have restUnlisted := Option.bind_eq_none_iff.mp unlisted own rfl
              have restNone := Option.eq_none_iff_forall_ne_some.mpr fun names listed => by
                cases (Option.bind_eq_none_iff.mp restUnlisted names listed)
              obtain ⟨entry, isEntry, isOther⟩ := inductionHypothesis restNone
              exact ⟨entry, List.mem_cons_of_mem _ isEntry, isOther⟩
          | _ =>
              refine ⟨_, List.mem_cons_self, fun text impossible => ?_⟩
              cases impossible

/-! ## The theorem -/

/-- A desk with some interpreters besides the standard one, which is the only one that is registered. -/
def startingWith (interpreters : List Interpreter) : Desk Cell Shelf :=
  { initial with own := { initial.own with interpreters := .standard :: interpreters } }

/-- The registration that every program begins with. -/
def standardRegistration : Registration :=
  ⟨standardInterpreter, some (.str Interpreter.standardUri), .ok ()⟩

theorem reflects_startingWith (interpreters : List Interpreter) :
    Reflects [standardRegistration] (startingWith interpreters).own where
  keyed := by
    intro entry isEntry
    cases List.mem_singleton.mp isEntry
    rfl
  distinct := List.nodup_singleton _
  holders text := by
    have registry : (startingWith interpreters).own.registry =
        [(.str Interpreter.standardUri, standardInterpreter)] :=
      rfl
    have sameTest : Json.equal (.str text) (.str Interpreter.standardUri) =
        standardRegistration.isUnder text := by
      rw [Bool.eq_iff_iff, Json.equal_text_iff, Registration.isUnder_iff]
      exact Option.some_inj.symm
    rw [holder?, registry, Table.find?_eq_map, List.find?_singleton, List.find?_singleton, sameTest]
    cases standardRegistration.isUnder text <;> rfl
  others := by
    constructor
    · rintro ⟨entry, isEntry, isOther⟩
      cases List.mem_singleton.mp isEntry
      exact (isOther Interpreter.standardUri rfl).elim
    · rintro ⟨registration, isRegistration, uri, taken, isOther⟩
      cases List.mem_singleton.mp isRegistration
      cases taken
      exact (isOther Interpreter.standardUri rfl).elim

theorem message_notRegistered {text : String} {names : List String} (listed : names ≠ []) :
    (Failure.notRegistered (.str text) names).message =
      "No interpreter registered for '" ++ text ++ "' (available: " ++ ", ".intercalate names ++
        ")" := by
  cases names with
  | nil => exact (listed rfl).elim
  | cons first rest => rfl

/-- After any registrations, of which some may have failed, a text belongs to the interpreter that was
the first to be registered under it. If there is none and only texts have been registered, the failure
names the text and those texts, each once and in order; if something else than a text has been
registered, looking up fails for want of an order. A registration that fails changes nothing. -/
theorem lookup_after_registrations
    (interpreters : List Interpreter) (attempts : List Nat) (text : String) :
    let history := standardRegistration :: (registerEach (startingWith interpreters) attempts).1
    let desk := (registerEach (startingWith interpreters) attempts).2
    (∀ first, history.find? (Registration.isUnder text) = some first →
      (lookup (.str text)).runOn desk = (.ok first.interpreter, desk)) ∧
    (history.find? (Registration.isUnder text) = none →
      ((∀ registration ∈ history, ∀ uri, registration.taken? = some uri → ∃ name, uri = .str name) →
        ∃ failure names, (lookup (.str text)).runOn desk = (.error failure, desk) ∧
          failure.category = .missingKey ∧
          failure.message = "No interpreter registered for '" ++ text ++ "' (available: " ++
            ", ".intercalate names ++ ")" ∧
          (names.Pairwise fun one other => compare one other = .lt) ∧
          ∀ name, name ∈ names ↔ ∃ registration ∈ history, registration.isUnder name = true) ∧
      ((∃ registration ∈ history, ∃ uri, registration.taken? = some uri ∧ ∀ name, uri ≠ .str name) →
        (lookup (.str text)).runOn desk = (.error (.misuse .notOrdered), desk))) ∧
    ∀ interpreter failure after,
      (register interpreter).runOn desk = (.error failure, after) → after = desk := by
  intro history desk
  have reflects : Reflects history desk.own :=
    (reflects_startingWith interpreters).registerEach attempts
  have looked := runOn_lookup text desk
  rw [reflects.holders] at looked
  refine ⟨fun first isFirst => ?_, fun nobody => ⟨fun texts => ?_, fun others => ?_⟩,
    fun _ _ _ => eq_of_register_error⟩
  · rw [isFirst] at looked
    exact looked
  · rw [nobody] at looked
    rcases absence_cases desk.own (.str text) with ⟨names, listed, absent⟩ | ⟨isOther, _⟩
    · rw [absent] at looked
      have distinct := reflects.distinct
      rw [listed] at distinct
      have isListed (name : String) : name ∈ sorted names ↔
          ∃ registration ∈ history, registration.isUnder name = true := by
        rw [(sorted_perm names).mem_iff, ← reflects.mem_iff, listed,
          List.mem_map_of_injective fun one other same => Json.str.inj same]
      have standardListed := (isListed Interpreter.standardUri).mpr
        ⟨standardRegistration, List.mem_cons_self, Registration.isUnder_iff.mpr rfl⟩
      exact ⟨_, sorted names, looked, rfl,
        message_notRegistered (List.ne_nil_of_mem standardListed), pairwise_sorted distinct.of_map,
        isListed⟩
    · obtain ⟨registration, isRegistration, uri, taken, isOther⟩ := reflects.others.mp isOther
      obtain ⟨name, rfl⟩ := texts registration isRegistration uri taken
      exact (isOther name rfl).elim
  · rw [nobody] at looked
    obtain ⟨entry, isEntry, isOther⟩ := reflects.others.mpr others
    rcases absence_cases desk.own (.str text) with ⟨names, listed, _⟩ | ⟨_, absent⟩
    · have isName : entry.1 ∈ names.map Json.str := listed ▸ List.mem_map_of_mem isEntry
      obtain ⟨name, _, isSame⟩ := List.mem_map.mp isName
      exact (isOther name isSame.symm).elim
    · rw [absent] at looked
      exact looked

/-- A number is registered as an identifier, and looking up a text that is not registered fails, but
not for that reason. -/
theorem lookup_beside_number :
    let attempts := registerEach (startingWith [.toy (.int 5) false]) [1]
    (∀ registration ∈ attempts.1, registration.outcome = .ok ()) ∧
      (standardRegistration :: attempts.1).find? (Registration.isUnder "other") = none ∧
      (lookup (.str "other")).runOn attempts.2 = (.error (.misuse .notOrdered), attempts.2) ∧
      (Failure.misuse .notOrdered).category ≠ .missingKey := by
  refine ⟨?_, rfl, rfl, by decide⟩
  intro registration isRegistration
  cases List.mem_singleton.mp isRegistration
  rfl

end Registry

end Program

end SchemaSignature
