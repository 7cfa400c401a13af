import SchemaSignature.Proofs.Program.Histories

/-!
Which interpreter the lazy leaves of returned values belong to. A definition returns to an interpreter
only lazy leaves that have been made for this interpreter, apart from those of stored values that
evaluations for the interpreter have fetched.
-/

namespace SchemaSignature.Program

/-- A lazy leaf has been made for an interpreter, or it is one of a stored value that an evaluation
for the interpreter has fetched. -/
inductive Owned (history : List Occurrence) (shelf : Shelf) (interpreter : Nat) : Cell → Prop where
  | made {index : Nat} {bound : Option Nat} {body : Body}
      (present : shelf.bodies[index]? = some body) (own : body.interpreter = interpreter) :
      Owned history shelf interpreter (.built index bound)
  | fetched {value : Value} {cell : Cell}
      (fetched : .fetched interpreter value ∈ history) (isLeaf : cell ∈ value.cells) :
      Owned history shelf interpreter cell

theorem Owned.mono
    {history longer : List Occurrence} {before after : Shelf} {interpreter : Nat} {cell : Cell}
    (owned : Owned history before interpreter cell) (more : history ⊆ longer)
    (bodies : before.bodies <+: after.bodies) : Owned longer after interpreter cell := by
  cases owned with
  | made present own => exact .made (body_of_isPrefix bodies present) own
  | fetched fetched isLeaf => exact .fetched (more fetched) isLeaf

/-- The lazy leaves of the results that definitions keep belong to the interpreters that they are
kept for. -/
def OwnsResults (history : List Occurrence) (shelf : Shelf) : Prop :=
  ∀ name interpreter value, (interpreter, value) ∈ shelf.resultsOf name →
    ∀ cell ∈ value.cells, Owned history shelf interpreter cell

/-- The lazy leaves of the values that definitions return belong to the interpreters that they are
returned to. -/
def OwnsReturned (past history : List Occurrence) (shelf : Shelf) : Prop :=
  ∀ name interpreter value, ∀ occurrence ∈ history, occurrence.Returns name interpreter value →
    ∀ cell ∈ value.cells, Owned past shelf interpreter cell

theorem resultsOf_definedOn
    (definition : Definition) (fresh : definition.results = []) (name : String)
    (desk : Desk Cell Shelf) :
    (definedOn name definition desk).own.resultsOf =
      Function.update desk.own.resultsOf name [] :=
  congrArg Ledger.results (ledger_definedOn definition fresh name desk)

theorem resultsOf_keptOn
    {definition : Definition} {name : String} {desk : Desk Cell Shelf}
    (present : desk.own.definition? name = some definition) (interpreter : Nat) (value : Value) :
    (keptOn name interpreter value desk).own.resultsOf =
      Function.update desk.own.resultsOf name
        (desk.own.resultsOf name ++ [(interpreter, value)]) :=
  congrArg Ledger.results (ledger_keptOn present interpreter value)

section Owns

variable {past longer history earlier later : List Occurrence} {before after : Shelf}
  {name : String} {interpreter : Nat} {value : Value} {cell : Cell}

theorem OwnsResults.mono
    (owns : OwnsResults past before) (more : past ⊆ longer) (bodies : before.bodies <+: after.bodies)
    (results : ∀ name, after.resultsOf name = before.resultsOf name) : OwnsResults longer after :=
  fun name interpreter value isResult cell isLeaf =>
    (owns name interpreter value (results name ▸ isResult) cell isLeaf).mono more bodies

theorem OwnsReturned.mono
    (owns : OwnsReturned past history before) (more : past ⊆ longer)
    (bodies : before.bodies <+: after.bodies) : OwnsReturned longer history after :=
  fun name interpreter value occurrence isOccurrence returns cell isLeaf =>
    (owns name interpreter value occurrence isOccurrence returns cell isLeaf).mono more bodies

theorem OwnsReturned.append
    (first : OwnsReturned past earlier after) (second : OwnsReturned past later after) :
    OwnsReturned past (earlier ++ later) after := by
  intro name interpreter value occurrence isOccurrence returns
  rcases List.mem_append.mp isOccurrence with isEarlier | isLater
  · exact first name interpreter value occurrence isEarlier returns
  · exact second name interpreter value occurrence isLater returns

theorem OwnsReturned.nil : OwnsReturned past [] after :=
  fun _ _ _ _ impossible => by cases impossible

theorem OwnsReturned.silent {occurrence : Occurrence}
    (silent : ∀ name interpreter value, ¬occurrence.Returns name interpreter value) :
    OwnsReturned past [occurrence] after := by
  intro name interpreter value last isLast returns
  cases List.mem_singleton.mp isLast
  exact (silent name interpreter value returns).elim

/-- A leaf that an evaluation has drawn belongs to the interpreter of the evaluation. -/
theorem Drawn.owned
    (drawn : Drawn interpreter history before after cell)
    (returned : OwnsReturned (past ++ history) history after) :
    Owned (past ++ history) after interpreter cell := by
  cases drawn with
  | made _ present own => exact .made present own
  | fetched fetched isLeaf => exact .fetched (List.mem_append_right past fetched) isLeaf
  | found found isLeaf => exact returned _ _ _ _ found (Or.inl rfl) cell isLeaf

theorem mem_of_result?
    {shelf : Shelf} (kept : shelf.result? name interpreter = some value) :
    (interpreter, value) ∈ shelf.resultsOf name := by
  obtain ⟨front, back, split, _⟩ := List.lookup_eq_some_iff.mp kept
  rw [split]
  exact List.mem_append_right front List.mem_cons_self

end Owns

theorem OwnsResults.begun {desk : Desk Cell Shelf} (owns : OwnsResults past desk.own) (name : String)
    (interpreter : Nat) :
    OwnsResults (past ++ [.begun name interpreter]) (begunOn name desk).own :=
  owns.mono (List.subset_append_left past _) (Shelf.idles_counted desk.own name).bodies
    (Shelf.idles_counted desk.own name).results

/-- The leaves of what is kept and returned in the end belong to their interpreters if those of what
is kept at the beginning do. -/
theorem Passes.owns
    {history : List Occurrence} {desk after : Desk Cell Shelf} (passes : Passes history desk after)
    {past : List Occurrence} (owns : OwnsResults past desk.own) :
    OwnsResults (past ++ history) after.own ∧
      OwnsReturned (past ++ history) history after.own := by
  have surround (first last : Occurrence) (past history : List Occurrence) :
      past ++ first :: (history ++ [last]) = past ++ [first] ++ history ++ [last] := by
    rw [List.append_assoc, List.append_assoc]
    rfl
  induction passes generalizing past with
  | idle idles =>
      exact ⟨owns.mono (List.subset_append_left past []) idles.bodies idles.results, .nil⟩
  | @andThen earlier later desk middle after first second ownsFirst ownsSecond =>
      obtain ⟨kept, returned⟩ := ownsFirst owns
      obtain ⟨keptLater, returnedLater⟩ := ownsSecond kept
      rw [← List.append_assoc]
      exact ⟨keptLater, (returned.mono (List.subset_append_left _ later) second.bodies).append
        returnedLater⟩
  | defined name expression keepsResults desk =>
      refine ⟨fun other interpreter value isResult cell isLeaf => ?_, .silent ?_⟩
      · rw [resultsOf_definedOn _ rfl] at isResult
        by_cases isSame : other = name
        · rw [isSame, Function.update_self] at isResult
          cases isResult
        · rw [Function.update_of_ne isSame] at isResult
          exact (owns other interpreter value isResult cell isLeaf).mono
            (List.subset_append_left past _) List.prefix_rfl
      · rintro _ _ _ (impossible | impossible) <;> cases impossible
  | fetched =>
      refine ⟨owns.mono (List.subset_append_left past _) List.prefix_rfl fun _ => rfl, .silent ?_⟩
      rintro _ _ _ (impossible | impossible) <;> cases impossible
  | @found desk name interpreter value kept =>
      have keeps : OwnsResults (past ++ [.found name interpreter value]) desk.own :=
        owns.mono (List.subset_append_left past _) List.prefix_rfl fun _ => rfl
      refine ⟨keeps, fun other owner result last isLast returns => ?_⟩
      cases List.mem_singleton.mp isLast
      rcases returns with same | impossible
      · cases same
        exact keeps name interpreter value (mem_of_result? kept)
      · cases impossible
  | @completed _ interpreter name definition desk after history value present _ _ ran inside drawn
      ownsInside =>
      obtain ⟨kept, returned⟩ := ownsInside (owns.begun name interpreter)
      obtain ⟨_, still, _⟩ := (fills_of_ran present ran).definition? present
      have bodies : after.own.bodies <+: (keptOn name interpreter value after).own.bodies :=
        Shelf.bodies_extended_amend
      have more := List.subset_append_left (past ++ [.begun name interpreter] ++ history)
        [.completed name interpreter value]
      have ownsValue : ∀ cell ∈ value.cells, Owned _ _ interpreter cell := fun cell isLeaf =>
        ((drawn cell isLeaf).owned returned).mono more bodies
      rw [surround]
      refine ⟨fun other owner result isResult cell isLeaf => ?_,
        ((OwnsReturned.silent ?_).append (returned.mono more bodies)).append ?_⟩
      · rw [resultsOf_keptOn still] at isResult
        by_cases isSame : other = name
        · rw [isSame, Function.update_self] at isResult
          rcases List.mem_append.mp isResult with isOld | isNew
          · exact (kept name owner result isOld cell isLeaf).mono more bodies
          · cases List.mem_singleton.mp isNew
            exact ownsValue cell isLeaf
        · rw [Function.update_of_ne isSame] at isResult
          exact (kept other owner result isResult cell isLeaf).mono more bodies
      · rintro _ _ _ (impossible | impossible) <;> cases impossible
      · intro other owner result last isLast returns
        cases List.mem_singleton.mp isLast
        rcases returns with impossible | same
        · cases impossible
        · cases same
          exact ownsValue
  | @raised _ interpreter name _ _ _ history failure _ _ _ _ _ ownsInside =>
      obtain ⟨kept, returned⟩ := ownsInside (owns.begun name interpreter)
      have more := List.subset_append_left (past ++ [.begun name interpreter] ++ history)
        [.raised name interpreter failure]
      rw [surround]
      refine ⟨kept.mono more List.prefix_rfl fun _ => rfl,
        ((OwnsReturned.silent ?_).append (returned.mono more List.prefix_rfl)).append (.silent ?_)⟩
      · rintro _ _ _ (impossible | impossible) <;> cases impossible
      · rintro _ _ _ (impossible | impossible) <;> cases impossible

/-! ## Definitions that refer to no stored values -/

/-- No definition that is made in a history refers to a stored value. -/
def Sealed (history : List Occurrence) : Prop :=
  ∀ name expression keepsResults, .defined name expression keepsResults ∈ history →
    expression.fetches = []

theorem sealed_append {earlier later : List Occurrence} :
    Sealed (earlier ++ later) ↔ Sealed earlier ∧ Sealed later := by
  simp only [Sealed, List.mem_append, or_imp, forall_and]

/-- Where definitions refer to no stored values, nothing is fetched. -/
theorem Passes.unfetched
    {history : List Occurrence} {desk after : Desk Cell Shelf} (passes : Passes history desk after)
    (isSealed : Sealed history) (nothing : ∀ stored, ¬desk.own.Fetches stored) :
    (∀ interpreter value, .fetched interpreter value ∉ history) ∧
      ∀ stored, ¬after.own.Fetches stored := by
  have begins (name : String) {desk : Desk Cell Shelf} (nothing : ∀ stored, ¬desk.own.Fetches stored)
      (stored : String) : ¬(begunOn name desk).own.Fetches stored := fun fetches =>
    nothing stored (fetches.of_plans fun other =>
      ((Shelf.idles_counted desk.own name).plans other).symm)
  have inside {first last : Occurrence} {history : List Occurrence}
      (isSealed : Sealed (first :: (history ++ [last]))) : Sealed history :=
    fun name expression keeps made =>
      isSealed name expression keeps (List.mem_cons_of_mem _ (List.mem_append_left _ made))
  induction passes with
  | idle idles =>
      refine ⟨fun _ _ => List.not_mem_nil, fun stored fetches => nothing stored ?_⟩
      exact fetches.of_plans fun name => (idles.plans name).symm
  | andThen _ _ first second =>
      obtain ⟨sealedFirst, sealedSecond⟩ := sealed_append.mp isSealed
      obtain ⟨unfetched, nothingAfter⟩ := first sealedFirst nothing
      obtain ⟨unfetchedLater, nothingLater⟩ := second sealedSecond nothingAfter
      refine ⟨fun interpreter value isFetched => ?_, nothingLater⟩
      rcases List.mem_append.mp isFetched with isFetched | isFetched
      · exact unfetched interpreter value isFetched
      · exact unfetchedLater interpreter value isFetched
  | defined name expression keepsResults desk =>
      refine ⟨fun interpreter value isFetched => ?_, ?_⟩
      · cases List.mem_singleton.mp isFetched
      · rintro stored ⟨other, plan, made, isFetched⟩
        by_cases isSame : other = name
        · subst isSame
          rw [Shelf.definition?, definedOn, Table.find?_set_self] at made
          cases made
          have fetchesNothing := isSealed other expression keepsResults (List.mem_singleton_self _)
          change stored ∈ expression.fetches at isFetched
          rw [fetchesNothing] at isFetched
          cases isFetched
        · rw [Shelf.definition?, definedOn, Table.find?_set_of_ne isSame] at made
          exact nothing stored ⟨other, plan, made, isFetched⟩
  | fetched _ _ isFetched => exact (nothing _ isFetched).elim
  | found kept =>
      refine ⟨fun interpreter value isFetched => ?_, nothing⟩
      cases List.mem_singleton.mp isFetched
  | @completed _ interpreter name _ desk after _ value _ _ _ _ _ _ inductionHypothesis =>
      obtain ⟨unfetched, nothingAfter⟩ :=
        inductionHypothesis (inside isSealed) (begins name nothing)
      refine ⟨fun owner result isFetched => ?_, fun stored fetches => nothingAfter stored ?_⟩
      · simp only [List.mem_cons, List.mem_append, reduceCtorEq, List.not_mem_nil, or_false,
          false_or] at isFetched
        exact unfetched owner result isFetched
      · have same : ∀ definition, (Definition.keeping interpreter value definition).plan =
            definition.plan :=
          fun _ => rfl
        exact fetches.of_plans fun other => (Shelf.plan_amend same other).symm
  | @raised _ interpreter name _ desk _ _ _ _ _ _ _ _ inductionHypothesis =>
      obtain ⟨unfetched, nothingAfter⟩ :=
        inductionHypothesis (inside isSealed) (begins name nothing)
      refine ⟨fun owner result isFetched => ?_, nothingAfter⟩
      simp only [List.mem_cons, List.mem_append, reduceCtorEq, List.not_mem_nil, or_false,
        false_or] at isFetched
      exact unfetched owner result isFetched

/-- A leaf that belongs to an interpreter has been made for it, unless something has been fetched. -/
theorem Owned.exists_body
    {history : List Occurrence} {shelf : Shelf} {interpreter : Nat} {cell : Cell}
    (owned : Owned history shelf interpreter cell)
    (unfetched : ∀ interpreter value, .fetched interpreter value ∉ history) :
    ∃ index bound body, cell = .built index bound ∧ shelf.bodies[index]? = some body ∧
      body.interpreter = interpreter := by
  cases owned with
  | @made index bound body present own => exact ⟨index, bound, body, rfl, present, own⟩
  | fetched fetched isLeaf => exact (unfetched _ _ fetched).elim

end SchemaSignature.Program
