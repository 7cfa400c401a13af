import SchemaSignature.Naming.Desk

/-!
Rendering nodes with lazy leaves. A lazy node claims its name before its body is looked at, so that
references back to it render as that name; its first rendering is the expansion of its body, and
every later one the name alone.
-/

namespace SchemaSignature

/-- What lazy leaves mean: the namer that a key insists on, the node that a key stands for, and what
happens when a watched leaf is rendered. -/
structure Workshop (key own : Type) where
  bound : key → Option Nat
  body : key → Work key own (Node key)
  watch : String → Work key own Unit

namespace Workshop

variable {key own : Type} [BEq key]

/-- The signature of a lazy leaf, where `inner` renders the lazy leaves of its body. -/
def expandWith (workshop : Workshop key own) (inner : key → Work key own Signature) (leaf : key) :
    Work key own Signature := do
  let namer := (workshop.bound leaf).getD (← get).currentNamer
  let (name, first) ← Work.claim leaf namer
  if first then
    Work.log (.expanding name)
    let node ← workshop.body leaf
    let expansion ← node.traverse inner workshop.watch
    Work.declare namer name expansion
    pure expansion
  else pure (.lazy name)

/-- The signature of a lazy leaf. `depth` bounds how deeply first renderings are nested. -/
def expand (workshop : Workshop key own) : Nat → key → Work key own Signature
  | 0 => workshop.expandWith fun _ => throw .outOfFuel
  | depth + 1 => workshop.expandWith (workshop.expand depth)

def render (workshop : Workshop key own) (depth : Nat) (node : Node key) :
    Work key own Signature :=
  node.traverse (workshop.expand depth) workshop.watch

/-- The signature of a node, rendered while the given namer is active. -/
def renderUnder (workshop : Workshop key own) (depth namer : Nat) (node : Node key) :
    Work key own Signature :=
  Work.withActive (some namer) (workshop.render depth node)

end Workshop

end SchemaSignature
