import SchemaSignature.Proofs.Naming.Confinement
import SchemaSignature.Proofs.Naming.Parallel
import SchemaSignature.Proofs.Program.Conduct
import SchemaSignature.Proofs.Program.Evaluations
import SchemaSignature.Proofs.Signature.Parts

/-!
Programs that use an interpreter that is bound to a namer, and their shadows, which use the standard
interpreter. Both build the same lazy nodes in the same order, bound to the namer in the one and not
bound in the other. Evaluations mirror each other, and renderings do while the namer is active in the
shadow.
-/

namespace SchemaSignature.Program

open Outcome (Coincides)

namespace Expression

mutual

/-- An expression that only uses what every interpreter has to offer, and definitions of a family.
It takes no stored values and insists on no namers, neither do the bodies of its lazy nodes. -/
def isPlain (family : List String) : Expression → Bool
  | .stored _ => false
  | .defined name => family.contains name
  | .literalsOr _ fallback => isPlain family fallback
  | .fields _ entries => isPlainTable family entries
  | .container _ element => isPlain family element
  | .list _ members => isPlainList family members
  | .sum _ members => isPlainTable family members
  | .lazy body namer => namer.isNone && isPlain family body
  | .lazyOf _ namer => namer.isNone
  | .primitive _ | .null | .raw _ | .constant _ | .produced _ | .probe _ | .literals _
  | .listOf _ _ => true

def isPlainList (family : List String) : List Expression → Bool
  | [] => true
  | expression :: rest => isPlain family expression && isPlainList family rest

def isPlainTable (family : List String) : List (Json × Expression) → Bool
  | [] => true
  | (_, expression) :: rest => isPlain family expression && isPlainTable family rest

end

end Expression

/-- Options that are related are both empty or have related contents. -/
theorem rel_cases
    {first second : Type} {alike : first → second → Prop} {one : Option first}
    {other : Option second} (related : Option.Rel alike one other) :
    (one = none ∧ other = none) ∨
      ∃ value copy, one = some value ∧ other = some copy ∧ alike value copy := by
  cases related with
  | none => exact Or.inl ⟨rfl, rfl⟩
  | some same => exact Or.inr ⟨_, _, rfl, rfl, same⟩

def Value.map (rename : Cell → Cell) (value : Value) : Value :=
  { value with content := value.content.map rename }

/-- What a program and its shadow have in common: the family of definitions, the names that values
are stored under, the interpreter that is used in the program, the namer that it is bound to, and the
desk on which both begin. -/
structure Setting where
  family : List String
  stored : List String
  interpreter : Nat
  namer : Nat
  origin : Desk Cell Shelf

namespace Setting

variable (setting : Setting)

/-- A lazy leaf that has been built in the course of the program. -/
def IsNew (cell : Cell) : Prop :=
  ∃ index, setting.origin.own.bodies.length ≤ index ∧ cell = .built index (some setting.namer)

/-- A lazy leaf that was there at the beginning. -/
def IsOld (cell : Cell) : Prop :=
  ∀ index bound, cell = .built index bound → index < setting.origin.own.bodies.length

/-- The leaf that the shadow has for a leaf of the program. -/
def loosened : Cell → Cell
  | .built index bound =>
      .built index (if setting.origin.own.bodies.length ≤ index then none else bound)
  | cell => cell

/-- A value that the program has built, and the one that the shadow has built. -/
def Copies (value copy : Value) : Prop :=
  copy = value.map setting.loosened ∧ ∀ cell ∈ value.cells, setting.IsNew cell

/-- A definition in the program, and the same one in the shadow. -/
structure Corresponds (definition other : Definition) : Prop where
  isPlain : definition.expression.isPlain setting.family = true
  plan : other.plan = definition.plan
  calls : other.calls = definition.calls
  results : Option.Rel setting.Copies (definition.results.lookup setting.interpreter)
    (other.results.lookup standardInterpreter)

/-- What the program and its shadow keep beside the namers. -/
structure ShadowsShelf (shelf shadow : Shelf) : Prop where
  marks : shadow.marks = shelf.marks
  probes : shadow.probes = shelf.probes
  namers : shelf.namers = setting.origin.own.namers
  shadowNamers : shadow.namers = setting.origin.own.namers
  interpreterNames : shelf.interpreterNames = setting.origin.own.interpreterNames
  values : ∀ name ∈ setting.stored, Option.Rel setting.Copies
    (Table.find? (· == name) shelf.values) (Table.find? (· == name) shadow.values)
  bound : shelf.interpreters[setting.interpreter]? = some (.bound setting.namer)
  standard : shadow.interpreters[standardInterpreter]? = some .standard
  length : shadow.bodies.length = shelf.bodies.length
  least : setting.origin.own.bodies.length ≤ shelf.bodies.length
  bodies : ∀ index body, setting.origin.own.bodies.length ≤ index →
    shelf.bodies[index]? = some body →
    body.interpreter = setting.interpreter ∧ body.expression.isPlain setting.family = true ∧
      shadow.bodies[index]? = some { body with interpreter := standardInterpreter }
  definitions : ∀ name ∈ setting.family, ∃ definition other,
    shelf.definition? name = some definition ∧ shadow.definition? name = some other ∧
      setting.Corresponds definition other

/-- The desks of the program and of its shadow. They have the same namers, of which only the one of
the setting has changed, and corresponding leaves have the same names. -/
structure Shadows (desk shadow : Desk Cell Shelf) : Prop where
  namers : shadow.namers = desk.namers
  others : ∀ other, other ≠ setting.namer → desk.namers[other]? = setting.origin.namers[other]?
  names : shadow.names = desk.names.map (Prod.map setting.loosened id)
  claimed : ∀ entry ∈ desk.names, setting.IsNew entry.1 ∨ setting.IsOld entry.1
  own : setting.ShadowsShelf desk.own shadow.own

variable {setting}

theorem loosened_of_isOld {cell : Cell} (isOld : setting.IsOld cell) :
    setting.loosened cell = cell := by
  cases cell with
  | built index bound =>
      exact congrArg (Cell.built index) (if_neg (Nat.not_le.mpr (isOld index bound rfl)))
  | reference | alone => rfl

theorem loosened_of_isNew {index : Nat} (isNew : setting.origin.own.bodies.length ≤ index)
    (bound : Option Nat) : setting.loosened (.built index bound) = .built index none :=
  congrArg (Cell.built index) (if_pos isNew)

/-- Different leaves of the program that can have names have different shadows. -/
theorem eq_of_loosened_eq {cell other : Cell} (isNew : setting.IsNew cell)
    (known : setting.IsNew other ∨ setting.IsOld other)
    (same : setting.loosened other = setting.loosened cell) : other = cell := by
  obtain ⟨index, isLate, rfl⟩ := isNew
  rw [loosened_of_isNew isLate] at same
  rcases known with ⟨otherIndex, otherLate, rfl⟩ | isOld
  · rw [loosened_of_isNew otherLate] at same
    cases same
    rfl
  · rw [loosened_of_isOld isOld] at same
    exact absurd isLate (Nat.not_le.mpr (isOld index none same))

/-! ## The shelf -/

section Shelf

variable {shelf shadow : Shelf}

theorem ShadowsShelf.addMark (shadows : setting.ShadowsShelf shelf shadow) (mark : Nat) :
    setting.ShadowsShelf { shelf with marks := mark } { shadow with marks := mark } :=
  { shadows with marks := rfl }

/-- A body is added in the same place, for the interpreter of each side. -/
theorem ShadowsShelf.addBody
    (shadows : setting.ShadowsShelf shelf shadow) {expression : Expression}
    (isPlain : expression.isPlain setting.family = true) :
    setting.ShadowsShelf
      { shelf with
        bodies := shelf.bodies ++
          [{ expression := expression, interpreter := setting.interpreter }] }
      { shadow with
        bodies := shadow.bodies ++
          [{ expression := expression, interpreter := standardInterpreter }] } :=
  { shadows with
    length := by rw [List.length_append, List.length_append, shadows.length]; rfl
    least := by
      rw [List.length_append]
      exact Nat.le_add_right_of_le shadows.least
    bodies := by
      intro index body isLate present
      by_cases isThere : index < shelf.bodies.length
      · rw [List.getElem?_append_left isThere] at present
        rw [List.getElem?_append_left (shadows.length ▸ isThere)]
        exact shadows.bodies index body isLate present
      · have isNext : index = shelf.bodies.length := by
          have bound := (List.getElem?_eq_some_iff.mp present).1
          rw [List.length_append, List.length_singleton] at bound
          omega
        rw [isNext, List.getElem?_concat_length] at present
        cases present
        refine ⟨rfl, isPlain, ?_⟩
        rw [isNext, ← shadows.length]
        exact List.getElem?_concat_length }

/-- A definition is changed on both sides. -/
theorem ShadowsShelf.amend
    (shadows : setting.ShadowsShelf shelf shadow) (name : String)
    {change changeShadow : Definition → Definition}
    (steady : ∀ {definition other}, setting.Corresponds definition other →
      setting.Corresponds (change definition) (changeShadow other)) :
    setting.ShadowsShelf (shelf.amend name change) (shadow.amend name changeShadow) := by
  obtain ⟨_, same⟩ := shelf.exists_amend name change
  obtain ⟨_, sameShadow⟩ := shadow.exists_amend name changeShadow
  have definitions : ∀ used ∈ setting.family, ∃ definition other,
      (shelf.amend name change).definition? used = some definition ∧
        (shadow.amend name changeShadow).definition? used = some other ∧
          setting.Corresponds definition other := by
    intro used isMember
    obtain ⟨definition, other, present, presentShadow, corresponds⟩ :=
      shadows.definitions used isMember
    by_cases isSame : used = name
    · subst isSame
      refine ⟨change definition, changeShadow other, ?_, ?_, steady corresponds⟩
      · rw [Shelf.definition?_amend_self, present, Option.map_some]
      · rw [Shelf.definition?_amend_self, presentShadow, Option.map_some]
    · refine ⟨definition, other, ?_, ?_, corresponds⟩
      · rw [Shelf.definition?_amend_of_ne isSame, present]
      · rw [Shelf.definition?_amend_of_ne isSame, presentShadow]
  rw [same, sameShadow] at definitions ⊢
  exact { shadows with definitions := definitions }

theorem Corresponds.counted
    {definition other : Definition} (corresponds : setting.Corresponds definition other) :
    setting.Corresponds definition.counted other.counted :=
  { corresponds with calls := congrArg Nat.succ corresponds.calls }

/-- A result that is there already is the one that is found. -/
theorem Corresponds.keeping
    {definition other : Definition} {value copy : Value} (copies : setting.Copies value copy)
    (corresponds : setting.Corresponds definition other) :
    setting.Corresponds (definition.keeping setting.interpreter value)
      (other.keeping standardInterpreter copy) :=
  { corresponds with
    results := by
      have found := corresponds.results
      change Option.Rel _ ((definition.results ++ [(setting.interpreter, value)]).lookup _)
        ((other.results ++ [(standardInterpreter, copy)]).lookup _)
      rw [List.lookup_append, List.lookup_append]
      rcases rel_cases found with ⟨absent, absentShadow⟩ | ⟨old, oldCopy, kept, keptShadow, same⟩
      · rw [absent, absentShadow, Option.none_or, Option.none_or, List.lookup_cons_self,
          List.lookup_cons_self]
        exact .some copies
      · rw [kept, keptShadow, Option.some_or, Option.some_or]
        exact .some same }

end Shelf

/-! ## Steps of evaluations -/

section Steps

variable {first second : Type} {alike : first → second → Prop}

/-- From the desks of a program and its shadow, work mirrors other work. -/
abbrev Mirrors (setting : Setting) (alike : first → second → Prop) (work : ProgramWork first)
    (shadow : ProgramWork second) : Prop :=
  Work.Mirrors setting.Shadows alike work shadow

theorem mirrors_update {change changeShadow : Shelf → Shelf}
    (steady : ∀ {shelf shadow}, setting.ShadowsShelf shelf shadow →
      setting.ShadowsShelf (change shelf) (changeShadow shadow)) :
    setting.Mirrors Eq (Shelf.update change) (Shelf.update changeShadow) :=
  fun _ _ shadows => ⟨.done rfl, { shadows with own := steady shadows.own }⟩

theorem mirrors_freshMark : setting.Mirrors Eq Shelf.freshMark Shelf.freshMark := by
  intro desk shadow shadows
  have marks := shadows.own.marks
  refine ⟨?_, { shadows with own := ?_ }⟩
  · change Coincides Eq (.ok desk.own.marks) (.ok shadow.own.marks)
    exact .done marks.symm
  · change setting.ShadowsShelf { desk.own with marks := desk.own.marks + 1 }
      { shadow.own with marks := shadow.own.marks + 1 }
    rw [marks]
    exact shadows.own.addMark _

theorem mirrors_newValue {content : Operand Cell}
    (known : ∀ cell ∈ content.keys, setting.IsNew cell) :
    setting.Mirrors setting.Copies (Shelf.newValue content)
      (Shelf.newValue (content.map setting.loosened)) := by
  refine mirrors_freshMark.bind ?_
  rintro mark _ rfl
  exact .pure ⟨rfl, known⟩

/-- What is done with the interpreter that is found. -/
theorem mirrors_interpreted {work shadowWork : Interpreter → ProgramWork first}
    {alike : first → first → Prop}
    (mirrors : setting.Mirrors alike (work (.bound setting.namer)) (shadowWork .standard)) :
    setting.Mirrors alike (do work (← Shelf.interpreterAt setting.interpreter))
      (do shadowWork (← Shelf.interpreterAt standardInterpreter)) := by
  intro desk shadow shadows
  rw [Work.runOn_bind_of_ok (runOn_interpreterAt_of_present shadows.own.bound),
    Work.runOn_bind_of_ok (runOn_interpreterAt_of_present shadows.own.standard)]
  exact mirrors desk shadow shadows

/-- A node is constructed from parts, and from their copies. -/
theorem mirrors_construct
    {node shadowNode : Except Failure (Node Cell)} {text shadowText : Option String}
    (same : shadowNode = node.map (Node.map setting.loosened))
    (known : ∀ made, node = .ok made → ∀ cell ∈ made.keys, setting.IsNew cell) :
    setting.Mirrors setting.Copies
      (do (← Shelf.interpreterAt setting.interpreter).construct node text)
      (do (← Shelf.interpreterAt standardInterpreter).construct shadowNode shadowText) := by
  refine mirrors_interpreted ?_
  subst same
  cases node with
  | error failure => exact .throw failure
  | ok made => exact mirrors_newValue (known made rfl)

theorem mirrors_primitive (kind : Primitive) :
    setting.Mirrors setting.Copies
      (do (← Shelf.interpreterAt setting.interpreter).primitive kind)
      (do (← Shelf.interpreterAt standardInterpreter).primitive kind) := by
  refine mirrors_interpreted (.pure ⟨rfl, fun cell isLeaf => ?_⟩)
  cases isLeaf

theorem mirrors_addBody {expression : Expression}
    (isPlain : expression.isPlain setting.family = true) :
    setting.Mirrors (fun index shadow => shadow = index ∧ setting.origin.own.bodies.length ≤ index)
      (Shelf.addBody { expression := expression, interpreter := setting.interpreter })
      (Shelf.addBody { expression := expression, interpreter := standardInterpreter }) := by
  intro desk shadow shadows
  exact ⟨.done ⟨shadows.own.length, shadows.own.least⟩,
    { shadows with own := shadows.own.addBody isPlain }⟩

/-- A lazy node that is bound to the namer of the interpreter, and one that is not bound. -/
theorem mirrors_lazy {expression : Expression}
    (isPlain : expression.isPlain setting.family = true) :
    setting.Mirrors setting.Copies
      (do
        (← Shelf.interpreterAt setting.interpreter).lazyNode none
          (.ok { expression := expression, interpreter := setting.interpreter }))
      (do
        (← Shelf.interpreterAt standardInterpreter).lazyNode none
          (.ok { expression := expression, interpreter := standardInterpreter })) := by
  refine mirrors_interpreted ?_
  change setting.Mirrors setting.Copies
    (Shelf.addBody _ >>= fun index =>
      Shelf.newValue (.node (.lazy (.built index (some setting.namer)))))
    (Shelf.addBody _ >>= fun index => Shelf.newValue (.node (.lazy (.built index none))))
  refine (mirrors_addBody isPlain).bind ?_
  rintro _ index ⟨rfl, isLate⟩
  have known : ∀ cell ∈ (Operand.node (.lazy (.built index (some setting.namer)))).keys,
      setting.IsNew cell :=
    fun cell isLeaf => ⟨index, isLate, List.mem_singleton.mp isLeaf⟩
  have copied := mirrors_newValue known
  rwa [Operand.map, Node.map, loosened_of_isNew isLate] at copied

end Steps

/-! ## Expressions -/

section Expressions

/-- The values of a list, and their copies. -/
def CopiesAll (setting : Setting) (values copies : List Value) : Prop :=
  copies = values.map (Value.map setting.loosened) ∧
    ∀ cell ∈ cellsOfMembers values, setting.IsNew cell

/-- The entries of a table, and their copies. -/
def CopiesTable (setting : Setting) (entries copies : List (Json × Value)) : Prop :=
  copies = entries.map (Prod.map id (Value.map setting.loosened)) ∧
    ∀ cell ∈ cellsOfEntries entries, setting.IsNew cell

theorem CopiesTable.set {table copies : List (Json × Value)} {value copy : Value}
    (copiesTable : setting.CopiesTable table copies) (copiesValue : setting.Copies value copy)
    (key : Json) :
    setting.CopiesTable (Table.set Json.equal key value table)
      (Table.set Json.equal key copy copies) := by
  obtain ⟨rfl, known⟩ := copiesTable
  obtain ⟨rfl, knownValue⟩ := copiesValue
  refine ⟨Table.set_map_content _ key value table, fun cell isLeaf => ?_⟩
  rcases List.mem_append.mp (cellsOfEntries_set_subset table key value isLeaf) with isOld | isNew
  · exact known cell isOld
  · exact knownValue cell isNew

theorem operandEntries_map (rename : Cell → Cell) (entries : List (Json × Value)) :
    operandEntries (entries.map (Prod.map id (Value.map rename))) =
      (operandEntries entries).map (Prod.map id (Operand.map rename)) := by
  rw [operandEntries, operandEntries, List.map_map, List.map_map]
  rfl

theorem contents_map (rename : Cell → Cell) (values : List Value) :
    (values.map (Value.map rename)).map Value.content =
      (values.map Value.content).map (Operand.map rename) := by
  rw [List.map_map, List.map_map]
  rfl

theorem ListConstructor.node_map
    (kind : ListConstructor) (rename : Cell → Cell) (members : List (Operand Cell)) :
    kind.node (members.map (Operand.map rename)) =
      (kind.node members).map (Node.map rename) := by
  cases kind with
  | tuple => exact Construction.tuple_map rename members
  | intersection => exact Construction.intersection_map rename members
  | union => exact Construction.union_map rename members

/-- The elements of a plain value are their own copies. -/
theorem map_operandsOf (rename : Cell → Cell) (value : Json) :
    operandsOf value = (operandsOf value).map (List.map (Operand.map rename)) := by
  unfold operandsOf
  split
  · next items _ =>
      change Except.ok (items.map (Operand.map rename ∘ Operand.plain)) = Except.ok _
      rw [List.map_map]
  · rfl

variable {call : String → Nat → ProgramWork Value}

mutual

theorem mirrors_build
    (calls : ∀ name ∈ setting.family, setting.Mirrors setting.Copies
      (call name setting.interpreter) (call name standardInterpreter)) :
    (expression : Expression) → expression.isPlain setting.family = true →
      setting.Mirrors setting.Copies (expression.build call setting.interpreter)
        (expression.build call standardInterpreter)
  | .primitive kind, _ => by
      rw [Expression.build, Expression.build]
      exact mirrors_primitive kind
  | .null, _ | .raw _, _ => by
      rw [Expression.build, Expression.build]
      exact .pure ⟨rfl, fun cell isLeaf => absurd isLeaf List.not_mem_nil⟩
  | .stored name, isPlain => absurd isPlain Bool.false_ne_true
  | .defined name, isPlain => by
      rw [Expression.build, Expression.build]
      exact calls name (List.contains_iff_mem.mp isPlain)
  | .constant _, _ | .probe _, _ => by
      rw [Expression.build, Expression.build]
      exact mirrors_newValue fun cell isLeaf => absurd isLeaf List.not_mem_nil
  | .produced value, _ => by
      rw [Expression.build, Expression.build]
      exact .throw _
  | .literals values, _ => by
      rw [Expression.build, Expression.build]
      refine mirrors_construct ?_ fun made isMade => ?_
      · cases values.sizedElements with
        | error failure => rfl
        | ok listed => exact Construction.literals_map _ listed
      · obtain ⟨_, _, isMade⟩ := Outcome.bind_eq_ok_iff.mp isMade
        rw [Construction.keys_literals isMade]
        exact fun cell isLeaf => absurd isLeaf List.not_mem_nil
  | .literalsOr values fallback, isPlain => by
      rw [Expression.build, Expression.build]
      refine (mirrors_build calls fallback isPlain).bind ?_
      rintro other _ ⟨rfl, known⟩
      refine mirrors_construct ?_ fun made isMade => ?_
      · cases values.sizedElements with
        | error failure => rfl
        | ok listed => exact Construction.literalsOr_map _ listed other.content
      · obtain ⟨_, _, isMade⟩ := Outcome.bind_eq_ok_iff.mp isMade
        rw [Construction.keys_literalsOr isMade]
        exact known
  | .fields presence entries, isPlain => by
      rw [Expression.build, Expression.build]
      refine (mirrors_buildEntries calls entries isPlain ⟨rfl, ?_⟩).bind ?_
      · exact fun cell isLeaf => absurd isLeaf List.not_mem_nil
      rintro table _ ⟨rfl, known⟩
      refine mirrors_construct ?_ fun made isMade => ?_
      · rw [operandEntries_map, Construction.fields_map]
      · rw [Construction.keys_fields isMade, keys_operandEntries]
        exact known
  | .container kind element, isPlain => by
      rw [Expression.build, Expression.build]
      refine (mirrors_build calls element isPlain).bind ?_
      rintro inner _ ⟨rfl, known⟩
      refine mirrors_construct (Construction.container_map _ _ _) fun made isMade => ?_
      rw [Construction.keys_container isMade]
      exact known
  | .list kind members, isPlain => by
      rw [Expression.build, Expression.build]
      refine (mirrors_buildAll calls members isPlain).bind ?_
      rintro built _ ⟨rfl, known⟩
      refine mirrors_construct ?_ fun made isMade => ?_
      · rw [contents_map, ListConstructor.node_map]
      · rw [ListConstructor.keys_node isMade, List.flatMap_map]
        exact known
  | .listOf kind members, _ => by
      rw [Expression.build, Expression.build]
      refine mirrors_construct ?_ fun made isMade => ?_
      · have same := map_operandsOf setting.loosened members
        cases listed : operandsOf members with
        | error failure => rfl
        | ok operands =>
            rw [listed] at same
            have unchanged := Except.ok.inj same
            change kind.node operands = (kind.node operands).map (Node.map setting.loosened)
            rw [← ListConstructor.node_map, ← unchanged]
      · obtain ⟨operands, listed, isMade⟩ := Outcome.bind_eq_ok_iff.mp isMade
        rw [ListConstructor.keys_node isMade, keys_operandsOf listed]
        exact fun cell isLeaf => absurd isLeaf List.not_mem_nil
  | .sum tag members, isPlain => by
      rw [Expression.build, Expression.build]
      refine (mirrors_buildEntries calls members isPlain ⟨rfl, ?_⟩).bind ?_
      · exact fun cell isLeaf => absurd isLeaf List.not_mem_nil
      rintro table _ ⟨rfl, known⟩
      refine mirrors_construct ?_ fun made isMade => ?_
      · have contents : (table.map (Prod.map id (Value.map setting.loosened))).map
            (fun entry => entry.2.content) =
            (table.map fun entry => entry.2.content).map (Operand.map setting.loosened) := by
          rw [List.map_map, List.map_map]
          rfl
        rw [contents, Construction.sum_map]
      · rw [Construction.keys_sum isMade, List.flatMap_map]
        exact known
  | .lazy body none, isPlain => by
      rw [Expression.build, Expression.build]
      exact mirrors_lazy isPlain
  | .lazyOf producer none, _ => by
      rw [Expression.build, Expression.build]
      exact mirrors_interpreted (.throw _)
  | .lazy _ (some _), isPlain | .lazyOf _ (some _), isPlain => absurd isPlain Bool.false_ne_true

theorem mirrors_buildAll
    (calls : ∀ name ∈ setting.family, setting.Mirrors setting.Copies
      (call name setting.interpreter) (call name standardInterpreter)) :
    (expressions : List Expression) →
      Expression.isPlainList setting.family expressions = true →
      setting.Mirrors setting.CopiesAll (Expression.buildAll call setting.interpreter expressions)
        (Expression.buildAll call standardInterpreter expressions)
  | [], _ => by
      rw [Expression.buildAll, Expression.buildAll]
      exact .pure ⟨rfl, fun cell isLeaf => absurd isLeaf List.not_mem_nil⟩
  | expression :: rest, isPlain => by
      rw [Expression.buildAll, Expression.buildAll]
      obtain ⟨isPlain, isPlainRest⟩ := Bool.and_eq_true_iff.mp isPlain
      refine (mirrors_build calls expression isPlain).bind ?_
      rintro first _ ⟨rfl, known⟩
      refine (mirrors_buildAll calls rest isPlainRest).bind ?_
      rintro others _ ⟨rfl, knownOthers⟩
      refine .pure ⟨rfl, fun cell isLeaf => ?_⟩
      rcases List.mem_append.mp isLeaf with isFirst | isLater
      · exact known cell isFirst
      · exact knownOthers cell isLater

theorem mirrors_buildEntries
    (calls : ∀ name ∈ setting.family, setting.Mirrors setting.Copies
      (call name setting.interpreter) (call name standardInterpreter))
    {table copies : List (Json × Value)} :
    (entries : List (Json × Expression)) →
      Expression.isPlainTable setting.family entries = true → setting.CopiesTable table copies →
      setting.Mirrors setting.CopiesTable
        (Expression.buildEntries call setting.interpreter table entries)
        (Expression.buildEntries call standardInterpreter copies entries)
  | [], _, copiesTable => by
      rw [Expression.buildEntries, Expression.buildEntries]
      exact .pure copiesTable
  | (key, expression) :: rest, isPlain, copiesTable => by
      rw [Expression.buildEntries, Expression.buildEntries]
      obtain ⟨isPlain, isPlainRest⟩ := Bool.and_eq_true_iff.mp isPlain
      refine (mirrors_build calls expression isPlain).bind fun copiesValue => ?_
      split
      · exact mirrors_buildEntries calls rest isPlainRest (copiesTable.set copiesValue key)
      · exact .throw _

end

end Expressions

/-! ## Definitions -/

section Calls

variable {desk shadow : Desk Cell Shelf} {name : String}

theorem Shadows.begun (shadows : setting.Shadows desk shadow) (name : String) :
    setting.Shadows (begunOn name desk) (begunOn name shadow) :=
  { shadows with own := shadows.own.amend name Corresponds.counted }

theorem Shadows.kept
    (shadows : setting.Shadows desk shadow) (name : String) {value copy : Value}
    (copies : setting.Copies value copy) :
    setting.Shadows (keptOn name setting.interpreter value desk)
      (keptOn name standardInterpreter copy shadow) :=
  { shadows with own := shadows.own.amend name (Corresponds.keeping copies) }

/-- A definition of the family keeps a result for the interpreter on both sides, or on neither. -/
theorem Shadows.result_cases
    (shadows : setting.Shadows desk shadow) (isMember : name ∈ setting.family) :
    (desk.own.result? name setting.interpreter = none ∧
      shadow.own.result? name standardInterpreter = none) ∨
    ∃ value copy, desk.own.result? name setting.interpreter = some value ∧
      shadow.own.result? name standardInterpreter = some copy ∧ setting.Copies value copy := by
  obtain ⟨definition, other, present, presentShadow, corresponds⟩ :=
    shadows.own.definitions name isMember
  rw [Shelf.result?, Shelf.result?, Shelf.resultsOf_of_definition present,
    Shelf.resultsOf_of_definition presentShadow]
  exact rel_cases corresponds.results

/-- A definition that has no result is evaluated on both sides, and if it is to keep the result it
does so on both. -/
theorem mirrors_evaluation {depth : Nat}
    (calls : ∀ used ∈ setting.family, setting.Mirrors setting.Copies
      (call depth used setting.interpreter) (call depth used standardInterpreter))
    (shadows : setting.Shadows desk shadow) (isMember : name ∈ setting.family)
    (absent : desk.own.result? name setting.interpreter = none)
    (absentShadow : shadow.own.result? name standardInterpreter = none) :
    Coincides setting.Copies ((call (depth + 1) name setting.interpreter).runOn desk).1
        ((call (depth + 1) name standardInterpreter).runOn shadow).1 ∧
      setting.Shadows ((call (depth + 1) name setting.interpreter).runOn desk).2
        ((call (depth + 1) name standardInterpreter).runOn shadow).2 := by
  obtain ⟨definition, other, present, presentShadow, corresponds⟩ :=
    shadows.own.definitions name isMember
  have sameExpression : other.expression = definition.expression :=
    congrArg Prod.fst corresponds.plan
  have sameKeeps : other.keepsResults = definition.keepsResults :=
    congrArg Prod.snd corresponds.plan
  obtain ⟨outcomes, after⟩ := mirrors_build calls definition.expression corresponds.isPlain _ _
    (shadows.begun name)
  rcases ran : (definition.expression.build (call depth) setting.interpreter).runOn
    (begunOn name desk) with ⟨outcome, middle⟩
  rcases ranShadow : (definition.expression.build (call depth) standardInterpreter).runOn
    (begunOn name shadow) with ⟨outcomeShadow, middleShadow⟩
  rw [ran, ranShadow] at outcomes after
  rw [← sameExpression] at ranShadow
  cases outcomes with
  | failed cause =>
      rw [runOn_call_of_error present absent ran,
        runOn_call_of_error presentShadow absentShadow ranShadow]
      exact ⟨.failed cause, after⟩
  | done copies =>
      cases keeps : definition.keepsResults with
      | false =>
          rw [runOn_call_of_plain present absent keeps ran,
            runOn_call_of_plain presentShadow absentShadow (sameKeeps.trans keeps) ranShadow]
          exact ⟨.done copies, after⟩
      | true =>
          obtain ⟨later, laterShadow, still, stillShadow, _⟩ :=
            after.own.definitions name isMember
          rw [runOn_call_of_ok present absent keeps ran still,
            runOn_call_of_ok presentShadow absentShadow (sameKeeps.trans keeps) ranShadow
              stillShadow]
          exact ⟨.done copies, after.kept name copies⟩

theorem mirrors_call (depth : Nat) :
    ∀ name ∈ setting.family, setting.Mirrors setting.Copies
      (call depth name setting.interpreter) (call depth name standardInterpreter) := by
  induction depth with
  | zero => exact fun name _ => .throw _
  | succ depth inductionHypothesis =>
      intro name isMember desk shadow shadows
      rcases shadows.result_cases isMember with
        ⟨absent, absentShadow⟩ | ⟨value, copy, kept, keptShadow, copies⟩
      · exact mirrors_evaluation inductionHypothesis shadows isMember absent absentShadow
      · obtain ⟨_, _, present, presentShadow, _⟩ := shadows.own.definitions name isMember
        rw [runOn_call_of_kept present kept, runOn_call_of_kept presentShadow keptShadow]
        exact ⟨.done copies, shadows⟩

end Calls

/-! ## Lazy nodes -/

section LazyNodes

theorem mirrors_requireNode {value copy : Value} (copies : setting.Copies value copy) :
    setting.Mirrors (Workshop.IsCopy setting.loosened setting.IsNew) (requireNode value)
      (requireNode copy) := by
  obtain ⟨rfl, known⟩ := copies
  obtain ⟨mark, content⟩ := value
  cases content with
  | node node => exact .pure ⟨rfl, known⟩
  | plain content => exact .throw _

theorem mirrors_bodyOf (depth : Nat) {cell : Cell} (isNew : setting.IsNew cell) :
    setting.Mirrors (Workshop.IsCopy setting.loosened setting.IsNew) (bodyOf depth cell)
      (bodyOf depth (setting.loosened cell)) := by
  obtain ⟨index, isLate, rfl⟩ := isNew
  rw [loosened_of_isNew isLate]
  intro desk shadow shadows
  have looked (desk : Desk Cell Shelf) : Shelf.current.runOn desk = (.ok desk.own, desk) := rfl
  rw [bodyOf, bodyOf, Work.runOn_bind_of_ok (looked desk), Work.runOn_bind_of_ok (looked shadow)]
  cases present : desk.own.bodies[index]? with
  | none =>
      have beyond := List.getElem?_eq_none_iff.mp present
      rw [← shadows.own.length] at beyond
      rw [List.getElem?_eq_none_iff.mpr beyond]
      exact ⟨.failed Failure.undefined, shadows⟩
  | some body =>
      obtain ⟨own, isPlain, presentShadow⟩ := shadows.own.bodies index body isLate present
      rw [presentShadow]
      have evaluated := mirrors_build (mirrors_call depth) body.expression isPlain
      rw [← own] at evaluated
      exact evaluated.bind mirrors_requireNode desk shadow shadows

theorem lookup_map_key {names : List (Cell × String)} {rename : Cell → Cell} {cell : Cell}
    (apart : ∀ entry ∈ names, rename entry.1 = rename cell → entry.1 = cell) :
    (names.map (Prod.map rename id)).lookup (rename cell) = names.lookup cell := by
  induction names with
  | nil => rfl
  | cons first rest inductionHypothesis =>
      obtain ⟨key, name⟩ := first
      have restSame := inductionHypothesis fun entry later =>
        apart entry (List.mem_cons_of_mem _ later)
      have sameTest : (rename cell == rename key) = (cell == key) := by
        rw [Bool.eq_iff_iff, beq_iff_eq, beq_iff_eq]
        exact ⟨fun same => (apart _ List.mem_cons_self same.symm).symm, congrArg rename⟩
      rw [List.map_cons, Prod.map_apply, List.lookup_cons, List.lookup_cons, sameTest, restSame, id]

/-- Corresponding leaves have the same name, or neither has one. -/
theorem Shadows.nameOf?
    {desk shadow : Desk Cell Shelf} (shadows : setting.Shadows desk shadow) {cell : Cell}
    (isNew : setting.IsNew cell) :
    shadow.nameOf? (setting.loosened cell) = desk.nameOf? cell := by
  rw [Desk.nameOf?, shadows.names, Desk.nameOf?]
  exact lookup_map_key fun entry isEntry same =>
    eq_of_loosened_eq isNew (shadows.claimed entry isEntry) same

theorem sharesNames :
    Desk.SharesNames setting.Shadows setting.loosened setting.IsNew setting.namer where
  namers shadows := shadows.namers
  nameOf? isNew _ _ shadows := shadows.nameOf? isNew
  put namer desk shadow shadows :=
    { shadows with
      namers := congrArg (·.set setting.namer namer) shadows.namers
      others := fun other isOther =>
        (List.getElem?_set_ne (Ne.symm isOther)).trans (shadows.others other isOther) }
  log _ _ _ shadows := { shadows with }
  give {cell} isNew given desk shadow shadows := by
    refine { shadows with names := ?_, claimed := fun entry isEntry => ?_ }
    · change shadow.names ++ [(setting.loosened cell, given)] =
        (desk.names ++ [(cell, given)]).map (Prod.map setting.loosened id)
      rw [List.map_append, shadows.names]
      rfl
    · rcases List.mem_append.mp isEntry with isOld | isLast
      · exact shadows.claimed entry isOld
      · exact Or.inl (List.mem_singleton.mp isLast ▸ isNew)

theorem mirrors_watch (depth : Nat) (name : String) :
    setting.Mirrors Eq ((workshop depth).watch name) ((workshop depth).watch name) :=
  mirrors_update fun shadows => { shadows with probes := congrArg (· ++ [name]) shadows.probes }

end LazyNodes

/-! ## Renderings -/

/-- The namer of the setting is active in the shadow. -/
def ShadowsUnder (setting : Setting) (desk shadow : Desk Cell Shelf) : Prop :=
  setting.Shadows desk shadow ∧ shadow.active = some setting.namer

section Renderings

variable {first second : Type} {alike : first → second → Prop} {work : ProgramWork first}
  {shadowWork : ProgramWork second}

theorem Mirrors.under
    (mirrors : setting.Mirrors alike work shadowWork)
    (steady : Work.Keeps Desk.SameActive shadowWork) :
    Work.Mirrors setting.ShadowsUnder alike work shadowWork := by
  rintro desk shadow ⟨shadows, isActive⟩
  obtain ⟨outcomes, after⟩ := mirrors desk shadow shadows
  exact ⟨outcomes, after, (steady shadow).trans isActive⟩

/-- In the shadow work is done while the namer of the setting is active. -/
theorem mirrors_activated (mirrors : Work.Mirrors setting.ShadowsUnder alike work shadowWork) :
    setting.Mirrors alike work (Work.withActive (some setting.namer) shadowWork) := by
  intro desk shadow shadows
  rw [Work.runOn_withActive]
  obtain ⟨outcomes, after, _⟩ :=
    mirrors desk { shadow with active := some setting.namer } ⟨{ shadows with }, rfl⟩
  exact ⟨outcomes, { after with }⟩

/-- It makes no difference which namer is active in the program. -/
theorem Mirrors.withActive (mirrors : setting.Mirrors alike work shadowWork) (active : Option Nat) :
    setting.Mirrors alike (Work.withActive active work) shadowWork := by
  intro desk shadow shadows
  rw [Work.runOn_withActive]
  obtain ⟨outcomes, after⟩ := mirrors { desk with active := active } shadow { shadows with }
  exact ⟨outcomes, { after with }⟩

theorem mirrors_workshop (depth : Nat) :
    (workshop depth).Mirrors setting.ShadowsUnder setting.loosened setting.IsNew
      (fun _ => setting.namer) (workshop depth) where
  sources := by
    rintro _ ⟨index, isLate, rfl⟩ desk shadow ⟨_, isActive⟩
    rw [loosened_of_isNew isLate]
    exact ⟨rfl, congrArg (Option.getD · 0) isActive⟩
  enter isNew := Mirrors.under (sharesNames.enter isNew) (Desk.sameActive_enter _ _)
  body isNew := (mirrors_bodyOf depth isNew).under fun desk => (rests_bodyOf depth _ desk).active
  watch name := (mirrors_watch depth name).under fun _ => rfl
  declare _ name expansion :=
    Mirrors.under (sharesNames.declare name expansion) (Desk.sameActive_declare _ name expansion)

end Renderings

end Setting

end SchemaSignature.Program
