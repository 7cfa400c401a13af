import SchemaSignature.Program.Building
import SchemaSignature.Proofs.Program.Results
import SchemaSignature.Proofs.Signature.Parts

/-!
What happens to the definitions of a program and to their results, as a history. Evaluations are
nested: between the beginning of one and its end there are the occurrences of the evaluations that it
rests on. Definitions that keep no results leave nothing of their own in a history.
-/

namespace SchemaSignature.Program

/-- Something that happens to the definitions, or that an evaluation takes from what is kept. -/
inductive Occurrence where
  /-- A definition takes a name, in the place of the one that had it. -/
  | defined (name : String) (expression : Expression) (keepsResults : Bool)
  /-- An evaluation fetches a stored value. -/
  | fetched (interpreter : Nat) (value : Value)
  /-- A definition returns the result that it keeps. -/
  | found (name : String) (interpreter : Nat) (value : Value)
  /-- A definition begins to be evaluated. -/
  | begun (name : String) (interpreter : Nat)
  /-- A definition has been evaluated, and it returns and keeps the result. -/
  | completed (name : String) (interpreter : Nat) (value : Value)
  | raised (name : String) (interpreter : Nat) (failure : Failure)

/-- The lazy leaves of a value. -/
def Value.cells (value : Value) : List Cell :=
  value.content.keys

theorem body_of_isPrefix
    {earlier later : List Body} (isPrefix : earlier <+: later) {index : Nat} {body : Body}
    (present : earlier[index]? = some body) : later[index]? = some body := by
  obtain ⟨rest, rfl⟩ := isPrefix
  rw [List.getElem?_append_left (List.getElem?_eq_some_iff.mp present).1]
  exact present

/-- Where a lazy leaf of a value comes from that an interpreter builds: it has been made on the way
for this interpreter, or it is a leaf of a stored value that has been fetched or of a result that has
been found. -/
inductive Drawn (interpreter : Nat) (history : List Occurrence) (before after : Shelf) :
    Cell → Prop where
  | made {index : Nat} {bound : Option Nat} {body : Body}
      (isNew : before.bodies.length ≤ index) (present : after.bodies[index]? = some body)
      (own : body.interpreter = interpreter) :
      Drawn interpreter history before after (.built index bound)
  | fetched {value : Value} {cell : Cell}
      (fetched : .fetched interpreter value ∈ history) (isLeaf : cell ∈ value.cells) :
      Drawn interpreter history before after cell
  | found {name : String} {value : Value} {cell : Cell}
      (found : .found name interpreter value ∈ history) (isLeaf : cell ∈ value.cells) :
      Drawn interpreter history before after cell

namespace Drawn

variable {interpreter : Nat} {earlier later : List Occurrence} {before middle after : Shelf}
  {cell : Cell}

theorem ahead
    (drawn : Drawn interpreter earlier before middle cell)
    (bodies : middle.bodies <+: after.bodies) :
    Drawn interpreter (earlier ++ later) before after cell := by
  cases drawn with
  | made isNew present own => exact .made isNew (body_of_isPrefix bodies present) own
  | fetched fetched isLeaf => exact .fetched (List.mem_append_left later fetched) isLeaf
  | found found isLeaf => exact .found (List.mem_append_left later found) isLeaf

theorem behind
    (drawn : Drawn interpreter later middle after cell)
    (bodies : before.bodies <+: middle.bodies) :
    Drawn interpreter (earlier ++ later) before after cell := by
  cases drawn with
  | made isNew present own => exact .made (Nat.le_trans bodies.length_le isNew) present own
  | fetched fetched isLeaf => exact .fetched (List.mem_append_right earlier fetched) isLeaf
  | found found isLeaf => exact .found (List.mem_append_right earlier found) isLeaf

end Drawn

/-- A desk on which the definition of a name begins to be evaluated. -/
def begunOn (name : String) (desk : Desk Cell Shelf) : Desk Cell Shelf :=
  { desk with own := desk.own.amend name Definition.counted }

/-- A desk on which the definition of a name keeps one more result. -/
def keptOn (name : String) (interpreter : Nat) (value : Value) (desk : Desk Cell Shelf) :
    Desk Cell Shelf :=
  { desk with own := desk.own.amend name (Definition.keeping interpreter value) }

/-- A desk on which a name has a new definition. -/
def definedOn (name : String) (definition : Definition) (desk : Desk Cell Shelf) :
    Desk Cell Shelf :=
  { desk with own :=
    { desk.own with definitions := Table.set (· == ·) name definition desk.own.definitions } }

/-- The occurrences of a history take one desk to another. An evaluation that has been completed or
that has failed is a run of the expression of the definition, from the desk on which it has begun,
and its history says what happens during the run. Only what definitions refer to is fetched. -/
inductive Passes : List Occurrence → Desk Cell Shelf → Desk Cell Shelf → Prop where
  | idle {desk after : Desk Cell Shelf} (idles : desk.own.Idles after.own) : Passes [] desk after
  | andThen {earlier later : List Occurrence} {desk middle after : Desk Cell Shelf}
      (first : Passes earlier desk middle) (second : Passes later middle after) :
      Passes (earlier ++ later) desk after
  | defined (name : String) (expression : Expression) (keepsResults : Bool)
      (desk : Desk Cell Shelf) :
      Passes [.defined name expression keepsResults] desk
        (definedOn name { expression := expression, keepsResults := keepsResults } desk)
  | fetched {desk : Desk Cell Shelf} {name : String} {value : Value} (interpreter : Nat)
      (present : Table.find? (· == name) desk.own.values = some value)
      (isFetched : desk.own.Fetches name) :
      Passes [.fetched interpreter value] desk desk
  | found {desk : Desk Cell Shelf} {name : String} {interpreter : Nat} {value : Value}
      (kept : desk.own.result? name interpreter = some value) :
      Passes [.found name interpreter value] desk desk
  | completed {depth interpreter : Nat} {name : String} {definition : Definition}
      {desk after : Desk Cell Shelf} {history : List Occurrence} {value : Value}
      (present : desk.own.definition? name = some definition)
      (keeps : definition.keepsResults = true)
      (absent : desk.own.result? name interpreter = none)
      (ran : (definition.expression.build (call depth) interpreter).runOn (begunOn name desk) =
        (.ok value, after))
      (inside : Passes history (begunOn name desk) after)
      (drawn : ∀ cell ∈ value.cells, Drawn interpreter history desk.own after.own cell) :
      Passes (.begun name interpreter :: (history ++ [.completed name interpreter value])) desk
        (keptOn name interpreter value after)
  | raised {depth interpreter : Nat} {name : String} {definition : Definition}
      {desk after : Desk Cell Shelf} {history : List Occurrence} {failure : Failure}
      (present : desk.own.definition? name = some definition)
      (keeps : definition.keepsResults = true)
      (absent : desk.own.result? name interpreter = none)
      (ran : (definition.expression.build (call depth) interpreter).runOn (begunOn name desk) =
        (.error failure, after))
      (inside : Passes history (begunOn name desk) after) :
      Passes (.begun name interpreter :: (history ++ [.raised name interpreter failure])) desk after

theorem Passes.bodies
    {history : List Occurrence} {desk after : Desk Cell Shelf} (passes : Passes history desk after) :
    desk.own.bodies <+: after.own.bodies := by
  have begins (name : String) (desk : Desk Cell Shelf) :
      desk.own.bodies = (begunOn name desk).own.bodies :=
    Shelf.bodies_amend.symm
  induction passes with
  | idle idles => exact idles.bodies
  | andThen _ _ first second => exact first.trans second
  | defined | fetched | found => exact List.prefix_rfl
  | @completed _ interpreter name _ desk after _ value _ _ _ _ _ _ inside =>
      have ends : (keptOn name interpreter value after).own.bodies = after.own.bodies :=
        Shelf.bodies_amend
      rw [begins name desk, ends]
      exact inside
  | @raised _ _ name _ desk _ _ _ _ _ _ _ _ inside =>
      rw [begins name desk]
      exact inside

end SchemaSignature.Program
