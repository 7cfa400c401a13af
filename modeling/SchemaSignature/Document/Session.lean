import SchemaSignature.Document.Draft
import SchemaSignature.Naming.Expansion

/-!
Rendering a document: its draft, and renderings of the resulting node with one namer. The
lazy leaves of a document are its references, keyed by their text; the body of a leaf is the
draft of what the reference points to.
-/

namespace SchemaSignature

mutual

/-- The texts of all members `$ref` anywhere in a value. -/
def Json.references : Json → List String
  | .arr items => referencesOfItems items
  | .obj members => referencesOfMembers members
  | _ => []

def Json.referencesOfItems : List Json → List String
  | [] => []
  | item :: rest => item.references ++ referencesOfItems rest

def Json.referencesOfMembers : List (String × Json) → List String
  | [] => []
  | (key, value) :: rest =>
      (match key, value with
        | "$ref", .str target => [target]
        | _, _ => value.references) ++ referencesOfMembers rest

end

namespace Document

/-- Work on a document. Its own part of the desk are the references seen so far, each of which is
reported once. -/
abbrev DocumentWork (result : Type) : Type :=
  Work String (List String) result

/-- Adds an event to the log, unless it reports a reference that has been seen. -/
def report (event : Event) : DocumentWork Unit := do
  match event with
  | .resolved target =>
      if (← get).own.contains target then pure ()
      else
        modify fun desk => { desk with own := desk.own ++ [target] }
        Work.log event
  | _ => Work.log event

/-- Reports the events of a computation and returns its outcome. -/
def perform {result : Type} (computation : Traced result) : DocumentWork result := do
  computation.events.forM report
  Work.ofExcept computation.outcome

/-- The lazy leaves of a document. Every leaf takes its name from the bound namer, if there is one,
and otherwise from the active one. -/
def workshop (root : Json) (bound : Option Nat) : Workshop String (List String) where
  bound _ := bound
  body target :=
    match Pointer.resolve root target with
    | .ok schema => perform (root.draft schema)
    | .error failure => throw failure
  watch _ := pure ()

/-- A bound on how deeply first renderings can be nested: each one gives a name to a reference that
had none. -/
def depth (root : Json) : Nat :=
  root.references.length

def documentDraft (root : Json) : DocumentWork (Node String) :=
  perform (root.draft root)

/-- Renders a node of a document several times, each time with the given namer active. A failed
rendering does not keep the next one from being tried. -/
def renderings (root : Json) (bound : Option Nat) (namer : Nat) (node : Node String) :
    Nat → Desk String (List String) →
      List (Except Failure Signature) × Desk String (List String)
  | 0, desk => ([], desk)
  | count + 1, desk =>
      let (first, after) :=
        ((workshop root bound).renderUnder (depth root) namer node).runOn desk
      let (others, last) := renderings root bound namer node count after
      (first :: others, last)

/-- What comes of rendering a document: its renderings, or why it has no node; the namer
afterwards; and what happened on the way. -/
structure Session where
  renderings : Except Failure (List (Except Failure Signature))
  namer : Namer
  events : List Event

/-- The desk of a session: the standard namer and the one of the session. -/
def desk (namer : Namer) : Desk String (List String) :=
  { namers := [Namer.standard, namer], own := [] }

def sessionNamer : Nat := 1

/-- Drafts a document, with its references bound to the namer or not, and renders it the given
number of times with the namer active. -/
def session (root : Json) (namer : Namer) (bind : Bool) (count : Nat) : Session :=
  let bound := if bind then some sessionNamer else none
  match (documentDraft root).runOn (desk namer) with
  | (.error failure, after) =>
      { renderings := .error failure
        namer := after.namers.getD sessionNamer namer
        events := after.events }
  | (.ok node, after) =>
      let (renderings, last) := renderings root bound sessionNamer node count after
      { renderings := .ok renderings
        namer := last.namers.getD sessionNamer namer
        events := last.events }

end Document

end SchemaSignature
