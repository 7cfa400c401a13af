import SchemaSignature.Failure
import SchemaSignature.Naming.Event

/-!
Results with the events that led to them. The events of a failed computation are kept.
-/

namespace SchemaSignature

/-- The outcome of a computation and what happened on the way, oldest first. -/
structure Traced (result : Type) where
  events : List Event
  outcome : Except Failure result

namespace Traced

variable {first second : Type}

def ofExcept (outcome : Except Failure first) : Traced first :=
  ⟨[], outcome⟩

def log (event : Event) : Traced Unit :=
  ⟨[event], .ok ()⟩

def andThen (earlier : Traced first) (later : first → Traced second) : Traced second :=
  match earlier.outcome with
  | .ok value => ⟨earlier.events ++ (later value).events, (later value).outcome⟩
  | .error failure => ⟨earlier.events, .error failure⟩

instance : Monad Traced where
  pure value := ⟨[], .ok value⟩
  bind := andThen

@[simp] theorem outcome_pure (value : first) :
    (pure value : Traced first).outcome = .ok value := rfl

@[simp] theorem outcome_ofExcept (outcome : Except Failure first) :
    (ofExcept outcome).outcome = outcome := rfl

@[simp] theorem outcome_bind (earlier : Traced first) (later : first → Traced second) :
    (earlier >>= later).outcome = earlier.outcome >>= fun value => (later value).outcome := by
  obtain ⟨events, outcome⟩ := earlier
  cases outcome <;> rfl

end Traced

end SchemaSignature
