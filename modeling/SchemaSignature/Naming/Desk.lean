import SchemaSignature.Naming.Event
import SchemaSignature.Naming.Namer

/-!
The state that rendering works on, and the elementary steps on it: minting a name, claiming the name
of a lazy node, declaring what a name stands for, and activating a namer for a while. What a step
has changed stays changed if a later step fails.
-/

namespace SchemaSignature

/-- The state of rendering: the namers, of which the first is the default one; the namer that is
active, if any has been activated; the name of each key that has been claimed; what has happened so
far, oldest first; and whatever else the bodies of lazy nodes read and change. -/
structure Desk (key own : Type) where
  namers : List Namer
  active : Option Nat := none
  names : List (key × String) := []
  events : List Event := []
  own : own

abbrev Work (key own result : Type) : Type :=
  ExceptT Failure (StateM (Desk key own)) result

namespace Desk

variable {key own : Type}

def nameOf? [BEq key] (desk : Desk key own) (name : key) : Option String :=
  desk.names.lookup name

/-- The namer that new names come from: the active one, or else the default one. -/
def currentNamer (desk : Desk key own) : Nat :=
  desk.active.getD 0

end Desk

namespace Work

variable {key own result : Type}

/-- Runs work on a desk: the result, and the desk afterwards. -/
def runOn (work : Work key own result) (desk : Desk key own) :
    Except Failure result × Desk key own :=
  work.run desk

def ofExcept (outcome : Except Failure result) : Work key own result :=
  match outcome with
  | .ok value => pure value
  | .error failure => throw failure

def log (event : Event) : Work key own Unit :=
  modify fun desk => { desk with events := desk.events ++ [event] }

def putNamer (index : Nat) (namer : Namer) : Work key own Unit :=
  modify fun desk => { desk with namers := desk.namers.set index namer }

def namerAt (index : Nat) : Work key own Namer := do
  match (← get).namers[index]? with
  | some namer => pure namer
  | none => throw .undefined

def mint (index : Nat) : Work key own String := do
  let (outcome, namer) := (← namerAt index).mint
  putNamer index namer
  let name ← ofExcept outcome
  log (.minted name)
  pure name

/-- The name of a key, and whether this is the claim that gave it the name. A key without a name is
given the next one of the namer. -/
def claim [BEq key] (name : key) (index : Nat) : Work key own (String × Bool) := do
  match (← get).nameOf? name with
  | some given => pure (given, false)
  | none =>
      let given ← mint index
      modify fun desk => { desk with names := desk.names ++ [(name, given)] }
      pure (given, true)

/-- Records with a namer what a name stands for. -/
def declare (index : Nat) (name : String) (expansion : Signature) : Work key own Unit := do
  putNamer index ((← namerAt index).declare name expansion)

/-- Does work while the given namer is active. Whether the work succeeds or fails, the namer that
was active before is active again afterwards. -/
def withActive (active : Option Nat) (work : Work key own result) : Work key own result :=
  ExceptT.mk fun desk =>
    let (outcome, after) := work.run { desk with active := active }
    (outcome, { after with active := desk.active })

end Work

end SchemaSignature
