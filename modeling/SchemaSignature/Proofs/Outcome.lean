import SchemaSignature.Failure

/-!
Sequences of computations that may fail: a sequence succeeds if every step does, and it fails with
the failure of its first failing step.
-/

namespace SchemaSignature.Outcome

variable {failure first second : Type}

@[simp]
theorem bind_ok (value : first) (next : first → Except failure second) :
    (Except.ok value >>= next) = next value :=
  rfl

@[simp]
theorem bind_error (cause : failure) (next : first → Except failure second) :
    (Except.error cause >>= next) = .error cause :=
  rfl

@[simp]
theorem map_ok (value : first) (change : first → second) :
    (change <$> (.ok value : Except failure first)) = .ok (change value) :=
  rfl

@[simp]
theorem map_error (cause : failure) (change : first → second) :
    (change <$> (.error cause : Except failure first)) = .error cause :=
  rfl

theorem bind_eq_ok_iff
    {computation : Except failure first} {next : first → Except failure second} {result : second} :
    computation >>= next = .ok result ↔ ∃ value, computation = .ok value ∧ next value = .ok result := by
  cases computation with
  | error cause => simp
  | ok value => simp

theorem bind_eq_error_iff
    {computation : Except failure first} {next : first → Except failure second} {cause : failure} :
    computation >>= next = .error cause ↔
      computation = .error cause ∨ ∃ value, computation = .ok value ∧ next value = .error cause := by
  cases computation with
  | error other => simp
  | ok value => simp

theorem forM_congr
    {one other : first → Except failure Unit} {values : List first}
    (same : ∀ value ∈ values, one value = other value) : values.forM one = values.forM other := by
  induction values with
  | nil => rfl
  | cons head rest inductionHypothesis =>
      have sameRest := inductionHypothesis fun value later =>
        same value (List.mem_cons_of_mem _ later)
      change (one head >>= fun _ => rest.forM one) = (other head >>= fun _ => rest.forM other)
      rw [same head List.mem_cons_self, sameRest]

/-- Steps that are taken in order all succeed if the whole does. -/
theorem of_forM_eq_ok
    {step : first → Except failure Unit} {values : List first}
    (done : values.forM step = .ok ()) : ∀ value ∈ values, step value = .ok () := by
  induction values with
  | nil =>
      intro value isValue
      cases isValue
  | cons head rest inductionHypothesis =>
      change (step head >>= fun _ => rest.forM step) = .ok () at done
      obtain ⟨_, headDone, restDone⟩ := bind_eq_ok_iff.mp done
      intro value isValue
      rcases List.mem_cons.mp isValue with isHead | later
      · exact isHead ▸ headDone
      · exact inductionHypothesis restDone value later

/-! ## Kinds of failures -/

/-- A computation succeeds, or fails with a failure of a certain kind. -/
def FailsOnly (allowed : failure → Prop) (computation : Except failure first) : Prop :=
  ∀ cause, computation = .error cause → allowed cause

section FailsOnly

variable {allowed : failure → Prop}

theorem FailsOnly.ok (value : first) : FailsOnly allowed (.ok value) := by
  intro cause impossible
  cases impossible

theorem FailsOnly.error {cause : failure} (isAllowed : allowed cause) :
    FailsOnly allowed (.error cause : Except failure first) := by
  intro other same
  cases same
  exact isAllowed

theorem FailsOnly.bind
    {computation : Except failure first} {next : first → Except failure second}
    (failsFirst : FailsOnly allowed computation)
    (failsLater : ∀ value, computation = .ok value → FailsOnly allowed (next value)) :
    FailsOnly allowed (computation >>= next) := by
  intro cause failed
  rcases bind_eq_error_iff.mp failed with atOnce | ⟨value, done, later⟩
  · exact failsFirst cause atOnce
  · exact failsLater value done cause later

theorem FailsOnly.map
    {computation : Except failure first} (fails : FailsOnly allowed computation)
    (change : first → second) :
    FailsOnly allowed (computation.map change) := by
  cases computation with
  | ok value => exact .ok _
  | error cause => exact .error (fails cause rfl)

theorem FailsOnly.foldlM
    {step : second → first → Except failure second} {values : List first}
    (fails : ∀ state, ∀ value ∈ values, FailsOnly allowed (step state value)) (start : second) :
    FailsOnly allowed (values.foldlM step start) := by
  induction values generalizing start with
  | nil => exact .ok start
  | cons head rest inductionHypothesis =>
      rw [List.foldlM_cons]
      refine (fails start head List.mem_cons_self).bind fun state _ => ?_
      exact inductionHypothesis
        (fun state value later => fails state value (List.mem_cons_of_mem _ later)) state

theorem FailsOnly.forM
    {step : first → Except failure Unit} {values : List first}
    (fails : ∀ value ∈ values, FailsOnly allowed (step value)) :
    FailsOnly allowed (values.forM step) := by
  induction values with
  | nil => exact .ok ()
  | cons head rest inductionHypothesis =>
      change FailsOnly allowed (step head >>= fun _ => rest.forM step)
      exact (fails head List.mem_cons_self).bind fun _ _ =>
        inductionHypothesis fun value later => fails value (List.mem_cons_of_mem _ later)

theorem FailsOnly.mono
    {other : failure → Prop} {computation : Except failure first}
    (fails : FailsOnly allowed computation) (weaker : ∀ cause, allowed cause → other cause) :
    FailsOnly other computation :=
  fun cause failed => weaker cause (fails cause failed)

end FailsOnly

/-! ## Computations that match -/

/-- Two computations both fail, for whatever reasons, or both succeed with related results. -/
inductive Matches {other : Type} (related : first → other → Prop) :
    Except failure first → Except failure other → Prop where
  | failed (cause otherCause : failure) : Matches related (.error cause) (.error otherCause)
  | done {value : first} {otherValue : other} (each : related value otherValue) :
      Matches related (.ok value) (.ok otherValue)

section Matches

variable {third fourth : Type} {related : first → second → Prop} {relatedLater : third → fourth → Prop}
  {one : Except failure first} {other : Except failure second}

theorem Matches.outcomes (matched : Matches related one other) :
    (∃ cause otherCause, one = .error cause ∧ other = .error otherCause) ∨
      ∃ value otherValue, one = .ok value ∧ other = .ok otherValue ∧ related value otherValue := by
  cases matched with
  | failed cause otherCause => exact Or.inl ⟨cause, otherCause, rfl, rfl⟩
  | done each => exact Or.inr ⟨_, _, rfl, rfl, each⟩

theorem Matches.exists_of_ok
    {value : first} (matched : Matches related (.ok value) other) :
    ∃ otherValue, other = .ok otherValue ∧ related value otherValue := by
  cases matched with
  | done each => exact ⟨_, rfl, each⟩

theorem Matches.exists_of_error
    {cause : failure} (matched : Matches related (.error cause) other) :
    ∃ otherCause, other = .error otherCause := by
  cases matched with
  | failed _ otherCause => exact ⟨otherCause, rfl⟩

theorem Matches.bind
    {next : first → Except failure third} {otherNext : second → Except failure fourth}
    (matched : Matches related one other)
    (matchedLater : ∀ value otherValue, one = .ok value → related value otherValue →
      Matches relatedLater (next value) (otherNext otherValue)) :
    Matches relatedLater (one >>= next) (other >>= otherNext) := by
  cases matched with
  | failed cause otherCause => exact .failed cause otherCause
  | done each => exact matchedLater _ _ rfl each

end Matches

/-! ## Computations that coincide -/

/-- Two computations fail for the same reason, or both succeed with related results. -/
inductive Coincides {other : Type} (related : first → other → Prop) :
    Except failure first → Except failure other → Prop where
  | failed (cause : failure) : Coincides related (.error cause) (.error cause)
  | done {value : first} {otherValue : other} (each : related value otherValue) :
      Coincides related (.ok value) (.ok otherValue)

section Coincides

variable {third fourth : Type} {related : first → second → Prop} {relatedLater : third → fourth → Prop}
  {one : Except failure first} {other : Except failure second}

theorem Coincides.outcomes (coinciding : Coincides related one other) :
    (∃ cause, one = .error cause ∧ other = .error cause) ∨
      ∃ value otherValue, one = .ok value ∧ other = .ok otherValue ∧ related value otherValue := by
  cases coinciding with
  | failed cause => exact Or.inl ⟨cause, rfl, rfl⟩
  | done each => exact Or.inr ⟨_, _, rfl, rfl, each⟩

theorem Coincides.matches (coinciding : Coincides related one other) :
    Matches related one other := by
  cases coinciding with
  | failed cause => exact .failed cause cause
  | done each => exact .done each

theorem Coincides.refl
    {related : first → first → Prop} (each : ∀ value, related value value)
    (computation : Except failure first) : Coincides related computation computation := by
  cases computation with
  | error cause => exact .failed cause
  | ok value => exact .done (each value)

theorem Coincides.eq {one other : Except failure first} (coinciding : Coincides Eq one other) :
    other = one := by
  cases coinciding with
  | failed cause => rfl
  | done same => exact congrArg Except.ok same.symm

theorem Coincides.eq_of_error
    {cause otherCause : failure} (coinciding : Coincides related (.error cause) (.error otherCause)) :
    otherCause = cause := by
  cases coinciding with
  | failed => rfl

theorem Coincides.bind
    {next : first → Except failure third} {otherNext : second → Except failure fourth}
    (coinciding : Coincides related one other)
    (coincidingLater : ∀ value otherValue, one = .ok value → related value otherValue →
      Coincides relatedLater (next value) (otherNext otherValue)) :
    Coincides relatedLater (one >>= next) (other >>= otherNext) := by
  cases coinciding with
  | failed cause => exact .failed cause
  | done each => exact coincidingLater _ _ rfl each

/-- Computations that coincide have the same result, once related results are mapped to one. -/
theorem Coincides.map_eq
    {change : first → third} {otherChange : second → third} (coinciding : Coincides related one other)
    (same : ∀ value otherValue, related value otherValue → otherChange otherValue = change value) :
    other.map otherChange = one.map change := by
  cases coinciding with
  | failed cause => rfl
  | done each => exact congrArg Except.ok (same _ _ each)

end Coincides

end SchemaSignature.Outcome
