import SchemaSignature.Proofs.Program.Names
import SchemaSignature.Proofs.Program.Renderings
import SchemaSignature.Proofs.Program.Shadows

/-!
Where an interpreter is bound to a namer and where the namer is active. A program that interprets the
definitions of a family with an interpreter that is bound to a namer, and renders the results under
whichever namers, gets the same replies as one that uses the standard interpreter and renders under
that namer, and both leave the namers in the same state.
-/

namespace SchemaSignature.Program

open Outcome (Coincides)

/-- Something that is asked of the definitions of a family: to interpret one and store the result, or
to render a stored result, under a namer that is chosen or else the one that is active. -/
inductive Request where
  | interpret (definition name : String)
  | render (name : String) (chosen : Option String)

namespace Request

/-- The step that uses an interpreter of a given name. -/
def withInterpreter (interpreter : String) : Request → Step
  | .interpret definition name => .interpret definition (.named interpreter) (some name) none
  | .render name chosen => .render name chosen

/-- The step that uses the standard interpreter, and a given namer for renderings. -/
def underNamer (namer : String) : Request → Step
  | .interpret definition name => .interpret definition .standard (some name) none
  | .render name _ => .render name (some namer)

/-- The name that a result is stored under. -/
def stored : Request → String
  | .interpret _ name | .render name _ => name

/-- A request refers to definitions of a family and to namers that there are, and nothing has been
stored under its name. -/
def isProper (family : List String) (shelf : Shelf) : Request → Bool
  | .interpret definition name =>
      family.contains definition && (Table.find? (· == name) shelf.values).isNone
  | .render name chosen =>
      (Table.find? (· == name) shelf.values).isNone &&
        chosen.all fun namer => (Table.find? (· == namer) shelf.namers).isSome

theorem unused_of_isProper
    {family : List String} {shelf : Shelf} {request : Request}
    (isProper : request.isProper family shelf = true) :
    Table.find? (· == request.stored) shelf.values = none := by
  cases request with
  | interpret definition name => exact Option.isNone_iff_eq_none.mp (Bool.and_eq_true_iff.mp isProper).2
  | render name chosen => exact Option.isNone_iff_eq_none.mp (Bool.and_eq_true_iff.mp isProper).1

end Request

namespace Setting

variable {setting : Setting}

/-! ## Requests -/

theorem mirrors_chosen {bound : String}
    (named : Table.find? (· == bound) setting.origin.own.interpreterNames =
      some setting.interpreter) :
    setting.Mirrors (fun found shadow => found = setting.interpreter ∧ shadow = standardInterpreter)
      (chosen (.named bound)) (chosen .standard) := by
  intro desk shadow shadows
  have found : (chosen (.named bound)).runOn desk = (.ok setting.interpreter, desk) :=
    runOn_find_of_present (shadows.own.interpreterNames ▸ named)
  rw [found]
  exact ⟨.done ⟨rfl, rfl⟩, shadows⟩

theorem mirrors_definition {name : String} (isMember : name ∈ setting.family) :
    setting.Mirrors setting.Corresponds (Shelf.find Shelf.definitions name)
      (Shelf.find Shelf.definitions name) := by
  intro desk shadow shadows
  obtain ⟨definition, other, present, presentShadow, corresponds⟩ :=
    shadows.own.definitions name isMember
  rw [runOn_find_of_present present, runOn_find_of_present presentShadow]
  exact ⟨.done corresponds, shadows⟩

theorem mirrors_store (name : String) {value copy : Value} (copies : setting.Copies value copy) :
    setting.Mirrors Eq (Shelf.store name value) (Shelf.store name copy) := by
  refine mirrors_update fun {shelf shadow} shadows => { shadows with values := ?_ }
  intro used isStored
  by_cases isSame : used = name
  · rw [isSame, Table.find?_set_self, Table.find?_set_self]
    exact .some copies
  · rw [Table.find?_set_of_ne isSame, Table.find?_set_of_ne isSame]
    exact shadows.values used isStored

theorem Copies.text? {value copy : Value} (copies : setting.Copies value copy) :
    copy.text? = value.text? := by
  obtain ⟨rfl, _⟩ := copies
  obtain ⟨mark, content⟩ := value
  cases content <;> rfl

theorem mirrors_interpret
    {bound definition : String} (name : String)
    (named : Table.find? (· == bound) setting.origin.own.interpreterNames =
      some setting.interpreter)
    (isMember : definition ∈ setting.family) (depth : Nat) :
    setting.Mirrors Eq (interpret depth definition (.named bound) (some name) none)
      (interpret depth definition .standard (some name) none) := by
  refine (mirrors_definition isMember).bind fun _ => ?_
  refine (mirrors_chosen named).bind ?_
  rintro _ _ ⟨rfl, rfl⟩
  refine (mirrors_call depth definition isMember).bind fun copies => ?_
  refine (mirrors_store name copies).bind fun _ => ?_
  refine (mirrors_definition isMember).bind fun corresponds => ?_
  refine .pure ?_
  rw [corresponds.calls, copies.text?]

/-- A result is rendered in the program under any namer, and in the shadow under the namer of the
setting. -/
theorem mirrors_replied (depth : Nat) (chosen : Option Nat) {node copy : Node Cell}
    (isCopy : Workshop.IsCopy setting.loosened setting.IsNew node copy) :
    setting.Mirrors Eq (replied ((workshop depth).renderWith depth node chosen))
      (replied ((workshop depth).renderWith depth copy (some setting.namer))) := by
  have inside := mirrors_activated ((mirrors_workshop depth).render depth isCopy)
  have rendered : setting.Mirrors Eq ((workshop depth).renderWith depth node chosen)
      ((workshop depth).renderUnder depth setting.namer copy) := by
    cases chosen with
    | some active => exact inside.withActive (some active)
    | none => exact inside
  refine rendered.bind ?_
  rintro signature _ rfl desk shadow shadows
  refine ⟨.done ?_, shadows⟩
  rw [shadows.own.probes]

theorem mirrors_render
    {namer name : String} {chosen : Option String} (isStored : name ∈ setting.stored)
    (named : Table.find? (· == namer) setting.origin.own.namers = some setting.namer)
    (isChosen : (chosen.all fun other =>
      (Table.find? (· == other) setting.origin.own.namers).isSome) = true) (depth : Nat) :
    setting.Mirrors Eq (render depth name chosen) (render depth name (some namer)) := by
  intro desk shadow shadows
  have foundShadow : (namerOf? (some namer)).runOn shadow = (.ok (some setting.namer), shadow) :=
    runOn_namerOf?_of_present (shadows.own.shadowNamers ▸ named)
  obtain ⟨index, found⟩ : ∃ index, (namerOf? chosen).runOn desk = (.ok index, desk) := by
    cases chosen with
    | none => exact ⟨none, rfl⟩
    | some other =>
        obtain ⟨index, present⟩ := Option.isSome_iff_exists.mp isChosen
        exact ⟨some index, runOn_namerOf?_of_present (shadows.own.namers ▸ present)⟩
  rcases rel_cases (shadows.own.values name isStored) with
    ⟨absent, absentShadow⟩ | ⟨value, _, stored, storedShadow, rfl, known⟩
  · rw [runOn_render_of_absent absent, runOn_render_of_absent absentShadow]
    exact ⟨.failed Failure.undefined, shadows⟩
  · rw [runOn_render_of_present stored found, runOn_render_of_present storedShadow foundShadow]
    have cleared : setting.Shadows (clearedOn desk) (clearedOn shadow) :=
      { shadows with own := { shadows.own with probes := rfl } }
    obtain ⟨mark, content⟩ := value
    cases content with
    | plain content => exact ⟨.failed _, cleared⟩
    | node node => exact mirrors_replied depth index ⟨rfl, known⟩ _ _ cleared

/-- A request that is proper on the desk on which the program begins. -/
theorem mirrors_request
    {bound namer : String} {request : Request}
    (named : Table.find? (· == bound) setting.origin.own.interpreterNames =
      some setting.interpreter)
    (found : Table.find? (· == namer) setting.origin.own.namers = some setting.namer)
    (isProper : request.isProper setting.family setting.origin.own = true)
    (isStored : request.stored ∈ setting.stored) (depth : Nat) :
    setting.Mirrors Eq (perform depth (request.withInterpreter bound))
      (perform depth (request.underNamer namer)) := by
  cases request with
  | interpret definition name =>
      rw [Request.withInterpreter, Request.underNamer, perform, perform]
      have isMember := List.contains_iff_mem.mp (Bool.and_eq_true_iff.mp isProper).1
      exact mirrors_interpret name named isMember depth
  | render name chosen =>
      rw [Request.withInterpreter, Request.underNamer, perform, perform]
      exact mirrors_render isStored found (Bool.and_eq_true_iff.mp isProper).2 depth

theorem mirrors_requests
    {bound namer : String} {requests : List Request}
    (named : Table.find? (· == bound) setting.origin.own.interpreterNames =
      some setting.interpreter)
    (found : Table.find? (· == namer) setting.origin.own.namers = some setting.namer)
    (proper : ∀ request ∈ requests, request.isProper setting.family setting.origin.own = true)
    (stored : ∀ request ∈ requests, request.stored ∈ setting.stored) (depth : Nat) :
    setting.Mirrors Eq (performAll depth (requests.map (Request.withInterpreter bound)))
      (performAll depth (requests.map (Request.underNamer namer))) := by
  induction requests with
  | nil => exact .pure rfl
  | cons request rest inductionHypothesis =>
      rw [List.map_cons, List.map_cons, performAll, performAll]
      have first := mirrors_request named found (proper request List.mem_cons_self)
        (stored request List.mem_cons_self) depth
      refine (first.tryCatch fun failure => .pure rfl).bind ?_
      rintro reply _ rfl
      refine (inductionHypothesis (fun later isLater => proper later (List.mem_cons_of_mem _ isLater))
        fun later isLater => stored later (List.mem_cons_of_mem _ isLater)).bind ?_
      rintro replies _ rfl
      exact .pure rfl

end Setting

/-! ## Preparation -/

/-- The steps that define a family and bind an interpreter to a namer. -/
def preparation (definitions : List (String × Expression)) (bound namer : String) : List Step :=
  definitions.map (fun definition => .define definition.1 definition.2 true) ++
    [.bindNamer bound namer]

/-- The definitions of a family, none of which has been evaluated. -/
def freshTable (definitions : List (String × Expression)) (table : List (String × Definition)) :
    List (String × Definition) :=
  definitions.foldl (fun table definition => Table.set (· == ·) definition.1
    { expression := definition.2, keepsResults := true } table) table

theorem find?_freshTable
    (definitions : List (String × Expression)) (table : List (String × Definition))
    (name : String) :
    (name ∉ definitions.map Prod.fst ∧
      Table.find? (· == name) (freshTable definitions table) = Table.find? (· == name) table) ∨
    ∃ expression, (name, expression) ∈ definitions ∧
      Table.find? (· == name) (freshTable definitions table) =
        some { expression := expression, keepsResults := true } := by
  induction definitions generalizing table with
  | nil => exact Or.inl ⟨List.not_mem_nil, rfl⟩
  | cons definition rest inductionHypothesis =>
      rcases inductionHypothesis (Table.set (· == ·) definition.1
        { expression := definition.2, keepsResults := true } table) with
        ⟨isAbsent, same⟩ | ⟨expression, isMember, found⟩
      · by_cases isSame : name = definition.1
        · subst isSame
          exact Or.inr ⟨definition.2, List.mem_cons_self, same.trans (Table.find?_set_self _ _ _)⟩
        · refine Or.inl ⟨?_, same.trans (Table.find?_set_of_ne isSame _ _)⟩
          rw [List.map_cons, List.mem_cons, not_or]
          exact ⟨isSame, isAbsent⟩
      · exact Or.inr ⟨expression, List.mem_cons_of_mem _ isMember, found⟩

/-- The desk with the definitions of a family, none of which has been evaluated. -/
def freshOn (definitions : List (String × Expression)) (desk : Desk Cell Shelf) :
    Desk Cell Shelf :=
  { desk with own :=
    { desk.own with definitions := freshTable definitions desk.own.definitions } }

/-- The desk with a new interpreter, which goes by a name and is bound to a namer. -/
def boundOn (bound : String) (index : Nat) (desk : Desk Cell Shelf) : Desk Cell Shelf :=
  { desk with own :=
    { desk.own with
      interpreters := desk.own.interpreters ++ [.bound index]
      interpreterNames := Table.set (· == ·) bound desk.own.interpreters.length
        desk.own.interpreterNames } }

theorem runOn_performAll_define
    (depth : Nat) (definitions : List (String × Expression)) (desk : Desk Cell Shelf) :
    ∃ replies, (performAll depth
      (definitions.map fun definition => .define definition.1 definition.2 true)).runOn desk =
        (.ok replies, freshOn definitions desk) := by
  induction definitions generalizing desk with
  | nil => exact ⟨[], rfl⟩
  | cons definition rest inductionHypothesis =>
      obtain ⟨replies, ran⟩ := inductionHypothesis (definedOn definition.1
        { expression := definition.2, keepsResults := true } desk)
      refine ⟨.done :: replies, ?_⟩
      rw [List.map_cons, performAll]
      have defined : (attempt (perform depth (.define definition.1 definition.2 true))).runOn desk =
          (.ok .done, definedOn definition.1
            { expression := definition.2, keepsResults := true } desk) := by
        rw [perform]
        rfl
      rw [Work.runOn_bind_of_ok defined, Work.runOn_bind_of_ok ran]
      rfl

theorem runOn_performAll_append
    {depth : Nat} {earlier : List Step} {replies : List Reply} {desk middle : Desk Cell Shelf}
    (ran : (performAll depth earlier).runOn desk = (.ok replies, middle)) (later : List Step) :
    (performAll depth (earlier ++ later)).runOn desk =
      (((performAll depth later).runOn middle).1.map (replies ++ ·),
        ((performAll depth later).runOn middle).2) := by
  induction earlier generalizing desk replies with
  | nil =>
      cases ran
      rw [List.nil_append]
      rcases (performAll depth later).runOn middle with ⟨outcome, after⟩
      cases outcome <;> rfl
  | cons step rest inductionHypothesis =>
      rw [performAll] at ran
      obtain ⟨reply, next, performed, ran⟩ := Work.runOn_bind_eq_ok_iff.mp ran
      obtain ⟨others, last, performedRest, ran⟩ := Work.runOn_bind_eq_ok_iff.mp ran
      cases ran
      rw [List.cons_append, performAll, Work.runOn_bind_of_ok performed, Work.runOn_bind,
        inductionHypothesis performedRest]
      rcases (performAll depth later).runOn middle with ⟨outcome, after⟩
      cases outcome <;> rfl

theorem runOn_bindNamer
    {namer : String} {index : Nat} {desk : Desk Cell Shelf}
    (found : Table.find? (· == namer) desk.own.namers = some index) (depth : Nat)
    (bound : String) :
    (performAll depth [.bindNamer bound namer]).runOn desk =
      (.ok [.text Interpreter.standardUri], boundOn bound index desk) := by
  have performed : (attempt (perform depth (.bindNamer bound namer))).runOn desk =
      (.ok (.text Interpreter.standardUri), boundOn bound index desk) := by
    rw [attempt, Work.runOn_tryCatch, perform, Work.runOn_bind_of_ok (runOn_find_of_present found)]
    rfl
  rw [performAll, Work.runOn_bind_of_ok performed]
  rfl

theorem runOn_preparation
    {namer : String} {index : Nat} {desk : Desk Cell Shelf}
    (found : Table.find? (· == namer) desk.own.namers = some index) (depth : Nat)
    (definitions : List (String × Expression)) (bound : String) :
    ∃ replies, (performAll depth (preparation definitions bound namer)).runOn desk =
      (.ok replies, boundOn bound index (freshOn definitions desk)) := by
  obtain ⟨replies, defined⟩ := runOn_performAll_define depth definitions desk
  have stillFound : Table.find? (· == namer) (freshOn definitions desk).own.namers = some index :=
    found
  rw [preparation, runOn_performAll_append defined, runOn_bindNamer stillFound depth bound]
  exact ⟨_, rfl⟩

/-! ## The program and its shadow -/

/-- The setting of a program that makes requests after its preparation. -/
def settingOf (definitions : List (String × Expression)) (bound : String) (index : Nat)
    (requests : List Request) (desk : Desk Cell Shelf) : Setting where
  family := definitions.map Prod.fst
  stored := requests.map Request.stored
  interpreter := desk.own.interpreters.length
  namer := index
  origin := boundOn bound index (freshOn definitions desk)

/-- Nothing has a name that has not been built. -/
def NamesBuilt (desk : Desk Cell Shelf) : Prop :=
  ∀ cell name, (cell, name) ∈ desk.names →
    ∀ index bound, cell = .built index bound → index < desk.own.bodies.length

theorem shadows_preparedOn
    {definitions : List (String × Expression)} {index : Nat} {requests : List Request}
    {desk : Desk Cell Shelf} (bound : String)
    (standard : desk.own.interpreters[standardInterpreter]? = some .standard)
    (built : NamesBuilt desk)
    (isPlain : ∀ definition ∈ definitions,
      definition.2.isPlain (definitions.map Prod.fst) = true)
    (unused : ∀ request ∈ requests, Table.find? (· == request.stored) desk.own.values = none) :
    (settingOf definitions bound index requests desk).Shadows
      (boundOn bound index (freshOn definitions desk))
      (boundOn bound index (freshOn definitions desk)) where
  namers := rfl
  others _ _ := rfl
  names := by
    have same : ∀ entry ∈ desk.names,
        Prod.map (settingOf definitions bound index requests desk).loosened id entry = entry := by
      intro entry isEntry
      exact Prod.ext (Setting.loosened_of_isOld (built entry.1 entry.2 isEntry)) rfl
    exact ((List.map_congr_left same).trans (List.map_id _)).symm
  claimed entry isEntry := Or.inr (built entry.1 entry.2 isEntry)
  own := {
    marks := rfl
    probes := rfl
    namers := rfl
    shadowNamers := rfl
    interpreterNames := rfl
    values := by
      intro name isStored
      obtain ⟨request, isRequest, rfl⟩ := List.mem_map.mp isStored
      have absent := unused request isRequest
      change Option.Rel _ (Table.find? (· == request.stored) desk.own.values)
        (Table.find? (· == request.stored) desk.own.values)
      rw [absent]
      exact .none
    bound := List.getElem?_concat_length
    standard := by
      have inRange := (List.getElem?_eq_some_iff.mp standard).1
      exact (List.getElem?_append_left inRange).trans standard
    length := rfl
    least := Nat.le_refl _
    bodies := by
      intro place body isLate present
      exact absurd (List.getElem?_eq_some_iff.mp present).1 (Nat.not_lt.mpr isLate)
    definitions := by
      intro name isMember
      rcases find?_freshTable definitions desk.own.definitions name with
        ⟨isAbsent, _⟩ | ⟨expression, isDefined, present⟩
      · exact absurd isMember isAbsent
      · exact ⟨_, _, present, present, isPlain _ isDefined, rfl, rfl, .none⟩ }

/-- Interpreting the definitions of a family with an interpreter that is bound to a namer, and
rendering the results under whichever namers are chosen or active, has the same replies as
interpreting them with the standard interpreter and rendering under that namer, one after the other,
and leaves the namers in the same state. Neither changes another namer. -/
theorem bound_interpreter_as_active_namer
    {definitions : List (String × Expression)} {bound namer : String} {index : Nat}
    {requests : List Request} {desk : Desk Cell Shelf}
    (standard : desk.own.interpreters[standardInterpreter]? = some .standard)
    (built : NamesBuilt desk) (found : Table.find? (· == namer) desk.own.namers = some index)
    (isPlain : ∀ definition ∈ definitions,
      definition.2.isPlain (definitions.map Prod.fst) = true)
    (proper : ∀ request ∈ requests,
      request.isProper (definitions.map Prod.fst) desk.own = true)
    (depth : Nat) :
    let program := (performAll depth (preparation definitions bound namer ++
      requests.map (Request.withInterpreter bound))).runOn desk
    let shadow := (performAll depth (preparation definitions bound namer ++
      requests.map (Request.underNamer namer))).runOn desk
    shadow.1 = program.1 ∧ shadow.2.namers = program.2.namers ∧
      ∀ other, other ≠ index → program.2.namers[other]? = desk.namers[other]? := by
  obtain ⟨replies, prepared⟩ := runOn_preparation found depth definitions bound
  have start : (settingOf definitions bound index requests desk).Shadows
      (boundOn bound index (freshOn definitions desk))
      (boundOn bound index (freshOn definitions desk)) :=
    shadows_preparedOn bound standard built isPlain fun request isRequest =>
      Request.unused_of_isProper (proper request isRequest)
  have mirrors : (settingOf definitions bound index requests desk).Mirrors Eq
      (performAll depth (requests.map (Request.withInterpreter bound)))
      (performAll depth (requests.map (Request.underNamer namer))) :=
    Setting.mirrors_requests (Table.find?_set_self _ _ _) found proper
      (fun request isRequest => List.mem_map_of_mem isRequest) depth
  obtain ⟨outcomes, after⟩ := mirrors _ _ start
  intro program shadow
  have ranProgram : program = _ := runOn_performAll_append prepared _
  have ranShadow : shadow = _ := runOn_performAll_append prepared _
  rw [ranProgram, ranShadow]
  exact ⟨congrArg (Except.map (replies ++ ·)) outcomes.eq, after.namers, after.others⟩

/-- A list that refers to itself. -/
def linkedList : List (String × Expression) :=
  [("list", .lazy (.fields .required [(.str "next", .defined "list")]) none)]

/-- The list is interpreted and rendered twice, the first time under another namer. -/
def renderTwice : List Request :=
  [.interpret "list" "node", .render "node" (some "other"), .render "node" none]

/-- A desk with two namers beside the default one. -/
def withTwoNamers : Desk Cell Shelf where
  namers := [Namer.standard, { stem := "$A", count := 0 }, { stem := "$B", count := 0 }]
  own := { namers := [("own", 1), ("other", 2)] }

theorem bound_interpreter_as_active_namer_linkedList :
    let program := (performAll 2 (preparation linkedList "bound" "own" ++
      renderTwice.map (Request.withInterpreter "bound"))).runOn withTwoNamers
    let shadow := (performAll 2 (preparation linkedList "bound" "own" ++
      renderTwice.map (Request.underNamer "own"))).runOn withTwoNamers
    program.1 = .ok [.done, .text "Static", .interpreted 1 none none,
        .rendered "\x7b next: $A1; \x7d" [], .rendered "$A1" []] ∧
      shadow.1 = program.1 ∧ program.2.namers[2]? = withTwoNamers.namers[2]? := by
  have built : NamesBuilt withTwoNamers := fun _ _ impossible => by cases impossible
  have isPlain : ∀ definition ∈ linkedList,
      definition.2.isPlain (linkedList.map Prod.fst) = true := by decide
  have proper : ∀ request ∈ renderTwice,
      request.isProper (linkedList.map Prod.fst) withTwoNamers.own = true := by decide
  have law := @bound_interpreter_as_active_namer linkedList "bound" "own" 1 renderTwice
    withTwoNamers rfl built rfl isPlain proper 2
  exact ⟨rfl, law.1, law.2.2 2 (by decide)⟩

end SchemaSignature.Program
