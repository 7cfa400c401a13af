import SchemaSignature.Proofs.Naming.Confinement
import SchemaSignature.Proofs.Naming.Parallel
import SchemaSignature.Proofs.Naming.Renaming

/-!
Blocks in which a namer is active. Activating a namer hands out a token, and resetting with the token
makes the namer active that was active before, whatever has been done in between. A block resets
when its work ends, whether that succeeds or fails, so that it comes to doing the work while the
namer is active. Work in a thread of its own starts with no namer activated. Throughout a rendering
the namer is active that was active at its beginning.
-/

namespace SchemaSignature

variable {key own first : Type}

/-- What undoes an activation: the namer that was active before it, if any had been activated. -/
structure Token where
  previous : Option Nat

namespace Work

def activate (namer : Nat) : Work key own Token := do
  let token : Token := ⟨(← get).active⟩
  modify fun desk => { desk with active := some namer }
  pure token

def reset (token : Token) : Work key own Unit :=
  modify fun desk => { desk with active := token.previous }

/-- A block in which a namer is active. -/
def useNamer (namer : Nat) (block : Work key own first) : Work key own first := do
  let token ← activate namer
  try block
  finally reset token

/-- Does work in a thread of its own and waits for it. A failure ends the thread and nothing else. -/
def inThread (work : Work key own Unit) : Work key own Unit :=
  tryCatch (withActive none work) fun _ => pure ()

theorem runOn_finally_reset (token : Token) (block : Work key own first) (desk : Desk key own) :
    (tryFinally block (reset token)).runOn desk =
      ((block.runOn desk).1, { (block.runOn desk).2 with active := token.previous }) := by
  rcases ran : block.runOn desk with ⟨outcome, after⟩
  change block desk = (outcome, after) at ran
  simp only [tryFinally, tryFinally', runOn, ExceptT.run, Functor.map, ExceptT.map, ExceptT.mk,
    bind, StateT.bind, ran]
  cases outcome <;> rfl

/-- A block does its work while its namer is active, and what was active before is active again
afterwards. -/
theorem useNamer_eq (namer : Nat) (block : Work key own first) :
    useNamer namer block = withActive (some namer) block := by
  funext desk
  exact runOn_finally_reset ⟨desk.active⟩ block { desk with active := some namer }

end Work

/-! ## Throughout a rendering -/

/-- Does work if the given namer is active, and fails otherwise. -/
def Work.only (active : Option Nat) (work : Work key own first) : Work key own first := do
  if (← get).active = active then work else throw .undefined

/-- The desks of two runs are the same all along, and the given namer is active. -/
def Desk.IsUnder (active : Option Nat) (desk reflected : Desk key own) : Prop :=
  reflected = desk ∧ desk.active = active

namespace Work

variable {active : Option Nat} {work : Work key own first}

theorem mirrors_self (keeps : Work.Keeps Desk.SameActive work) :
    Mirrors (Desk.IsUnder active) Eq work work := by
  rintro _ desk ⟨rfl, isActive⟩
  exact ⟨.refl (fun _ => rfl) _, rfl, (keeps desk).trans isActive⟩

theorem mirrors_only {alike : first → first → Prop}
    (mirrors : Mirrors (Desk.IsUnder active) alike work work) :
    Mirrors (Desk.IsUnder active) alike work (only active work) := by
  rintro _ desk ⟨rfl, isActive⟩
  rw [only, runOn_get_bind, if_pos isActive]
  exact mirrors desk desk ⟨rfl, isActive⟩

end Work

namespace Workshop

/-- The workshop that builds the bodies of lazy leaves, and is told of watched leaves, only while the
given namer is active. -/
def insisting (workshop : Workshop key own) (active : Option Nat) : Workshop key own where
  bound := workshop.bound
  body leaf := Work.only active (workshop.body leaf)
  watch name := Work.only active (workshop.watch name)

variable [BEq key] {workshop : Workshop key own} {active : Option Nat}

theorem mirrors_insisting
    (bodies : ∀ leaf, Work.Keeps Desk.SameActive (workshop.body leaf))
    (watches : ∀ name, Work.Keeps Desk.SameActive (workshop.watch name)) :
    Mirrors (Desk.IsUnder active) id (fun _ => True)
      (fun leaf => (workshop.bound leaf).getD (active.getD 0)) workshop
      (workshop.insisting active) where
  sources _ := by
    rintro _ desk ⟨rfl, isActive⟩
    rw [Desk.currentNamer, isActive]
    exact ⟨rfl, rfl⟩
  enter _ := Work.mirrors_self (Desk.sameActive_enter _ _)
  body {leaf} _ := by
    refine Work.mirrors_only ?_
    rintro _ desk ⟨rfl, isActive⟩
    refine ⟨.refl (fun node => ⟨(Node.map_id node).symm, fun _ _ => trivial⟩) _, rfl, ?_⟩
    exact (bodies leaf desk).trans isActive
  watch name := Work.mirrors_only (Work.mirrors_self (watches name))
  declare _ name expansion := Work.mirrors_self (Desk.sameActive_declare _ name expansion)

/-- Throughout a rendering, in the bodies of lazy leaves to any depth, the namer is active that was
active at its beginning: insisting on it makes no difference. -/
theorem runOn_render_insisting
    (bodies : ∀ leaf, Work.Keeps Desk.SameActive (workshop.body leaf))
    (watches : ∀ name, Work.Keeps Desk.SameActive (workshop.watch name)) (depth : Nat)
    (node : Node key) (desk : Desk key own) :
    ((workshop.insisting desk.active).render depth node).runOn desk =
      (workshop.render depth node).runOn desk := by
  have isCopy : IsCopy id (fun _ => True) node node :=
    ⟨(Node.map_id node).symm, fun _ _ => trivial⟩
  obtain ⟨outcomes, same, _⟩ :=
    (mirrors_insisting bodies watches).render depth isCopy desk desk ⟨rfl, rfl⟩
  exact Prod.ext outcomes.eq same

end Workshop

end SchemaSignature
