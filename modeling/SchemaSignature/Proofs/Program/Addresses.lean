import SchemaSignature.Proofs.Program.Histories

/-!
Results under the addresses of interpreters. A process that keeps the results of a definition under
the addresses of the interpreters may use an address again when the interpreter that had it is gone.
Each entry therefore says which interpreter it is for, and it is removed when that interpreter is
collected. Such a process finds for every interpreter that is alive what the definitions keep for it.
-/

namespace SchemaSignature.Program

/-- The interpreter that an occurrence is about. -/
def Occurrence.interpreter? : Occurrence → Option Nat
  | .defined _ _ _ => none
  | .fetched interpreter _ | .found _ interpreter _ | .begun _ interpreter
  | .completed _ interpreter _ | .raised _ interpreter _ => some interpreter

/-- Something that happens in the memory of a process. -/
inductive Incident where
  /-- An interpreter comes to be at an address. -/
  | created (interpreter address : Nat)
  /-- Nothing refers to an interpreter any more, and its address becomes free. -/
  | collected (interpreter : Nat)
  | occurred (occurrence : Occurrence)

def Incident.occurrence? : Incident → Option Occurrence
  | .occurred occurrence => some occurrence
  | _ => none

/-- The memory of a process: where the interpreters are that are alive, which interpreters there have
been, and for each definition the entries of its table by address. An entry is a result with the
interpreter that it is for. -/
structure Memory where
  address? : Nat → Option Nat := fun _ => none
  created : List Nat := []
  slot? : String → Nat → Option (Nat × Value) := fun _ _ => none

namespace Memory

/-- What the table of a definition has for an interpreter: the result of the entry at its address, if
the entry is for this interpreter. -/
def answer? (memory : Memory) (name : String) (interpreter : Nat) : Option Value := do
  let address ← memory.address? interpreter
  let (owner, value) ← memory.slot? name address
  if owner = interpreter then some value else none

/-- Puts an entry into the table of a definition, at the address of the interpreter. -/
def put (memory : Memory) (name : String) (interpreter : Nat) (value : Value) : Memory :=
  match memory.address? interpreter with
  | some address =>
      { memory with
        slot? := Function.update memory.slot? name
          (Function.update (memory.slot? name) address (some (interpreter, value))) }
  | none => memory

/-- When an interpreter is collected its entries are removed, before its address can be used again. A
new definition has a table of its own. -/
def after (memory : Memory) : Incident → Memory
  | .created interpreter address =>
      { memory with
        address? := Function.update memory.address? interpreter (some address)
        created := interpreter :: memory.created }
  | .collected interpreter =>
      { memory with
        address? := Function.update memory.address? interpreter none
        slot? := fun name address =>
          (memory.slot? name address).filter fun entry => entry.1 != interpreter }
  | .occurred (.defined name _ _) =>
      { memory with slot? := Function.update memory.slot? name fun _ => none }
  | .occurred (.completed name interpreter value) => memory.put name interpreter value
  | .occurred (.fetched _ _) | .occurred (.found _ _ _) | .occurred (.begun _ _)
  | .occurred (.raised _ _ _) => memory

/-- A process can be in such a situation: an interpreter comes to be once, at an address at which there
is none, and only interpreters that are alive are collected or used. -/
def Allows (memory : Memory) : Incident → Prop
  | .created interpreter address =>
      interpreter ∉ memory.created ∧ ∀ other, memory.address? other ≠ some address
  | .collected interpreter => memory.address? interpreter ≠ none
  | .occurred occurrence =>
      ∀ interpreter, occurrence.interpreter? = some interpreter → memory.address? interpreter ≠ none

/-- The memory after some incidents. -/
def afterAll (memory : Memory) (incidents : List Incident) : Memory :=
  incidents.foldl after memory

/-- Each incident can happen when it does. -/
def AllowsAll : Memory → List Incident → Prop
  | _, [] => True
  | memory, incident :: rest => memory.Allows incident ∧ AllowsAll (memory.after incident) rest

/-- The tables have what the definitions keep for the interpreters that are alive, and nothing else. -/
structure Mirrors (memory : Memory) (ledger : Ledger) : Prop where
  alive : ∀ interpreter address, memory.address? interpreter = some address → ∀ name,
    memory.slot? name address =
      (ledger.answer? name interpreter).map fun value => (interpreter, value)
  vacant : ∀ address, (∀ interpreter, memory.address? interpreter ≠ some address) → ∀ name,
    memory.slot? name address = none
  distinct : ∀ interpreter other address, memory.address? interpreter = some address →
    memory.address? other = some address → interpreter = other
  known : ∀ interpreter address, memory.address? interpreter = some address →
    interpreter ∈ memory.created
  unborn : ∀ interpreter, interpreter ∉ memory.created → ∀ name,
    ledger.answer? name interpreter = none

namespace Mirrors

variable {memory : Memory} {ledger : Ledger} {interpreter address : Nat} {name : String} {value : Value}

theorem answer?_eq
    (mirrors : memory.Mirrors ledger) (isAlive : memory.address? interpreter = some address)
    (name : String) : memory.answer? name interpreter = ledger.answer? name interpreter := by
  have entry := mirrors.alive interpreter address isAlive name
  rw [answer?, isAlive]
  change (do
    let found ← memory.slot? name address
    if found.1 = interpreter then some found.2 else none) = _
  rw [entry]
  cases ledger.answer? name interpreter with
  | none => rfl
  | some value => exact if_pos rfl

theorem created
    (mirrors : memory.Mirrors ledger) (allows : memory.Allows (.created interpreter address)) :
    (memory.after (.created interpreter address)).Mirrors ledger := by
  obtain ⟨isNew, isFree⟩ := allows
  have address_cases {other place : Nat}
      (isAlive : Function.update memory.address? interpreter (some address) other = some place) :
      other = interpreter ∧ place = address ∨ memory.address? other = some place := by
    by_cases isSame : other = interpreter
    · rw [isSame, Function.update_self] at isAlive
      exact Or.inl ⟨isSame, (Option.some.inj isAlive).symm⟩
    · rw [Function.update_of_ne isSame] at isAlive
      exact Or.inr isAlive
  refine ⟨?_, ?_, ?_, ?_, ?_⟩
  · intro other place isAlive name
    rcases address_cases isAlive with ⟨rfl, rfl⟩ | wasAlive
    · rw [mirrors.unborn other isNew name]
      exact mirrors.vacant place isFree name
    · exact mirrors.alive other place wasAlive name
  · intro place isVacant name
    refine mirrors.vacant place (fun other isAlive => isVacant other ?_) name
    have isOther : other ≠ interpreter := by
      rintro rfl
      exact isNew (mirrors.known other place isAlive)
    exact (Function.update_of_ne isOther _ _).trans isAlive
  · intro first second place isFirst isSecond
    rcases address_cases isFirst with ⟨rfl, rfl⟩ | wasFirst
    · rcases address_cases isSecond with ⟨rfl, _⟩ | wasSecond
      · rfl
      · exact (isFree second wasSecond).elim
    · rcases address_cases isSecond with ⟨rfl, rfl⟩ | wasSecond
      · exact (isFree first wasFirst).elim
      · exact mirrors.distinct first second place wasFirst wasSecond
  · intro other place isAlive
    rcases address_cases isAlive with ⟨rfl, _⟩ | wasAlive
    · exact List.mem_cons_self
    · exact List.mem_cons_of_mem _ (mirrors.known other place wasAlive)
  · intro other isUnborn name
    exact mirrors.unborn other (fun wasBorn => isUnborn (List.mem_cons_of_mem _ wasBorn)) name

/-- When an interpreter is gone nothing is left at its address. -/
theorem collected (mirrors : memory.Mirrors ledger) (interpreter : Nat) :
    (memory.after (.collected interpreter)).Mirrors ledger := by
  have alive_cases {other place : Nat}
      (isAlive : Function.update memory.address? interpreter none other = some place) :
      other ≠ interpreter ∧ memory.address? other = some place := by
    by_cases isSame : other = interpreter
    · rw [isSame, Function.update_self] at isAlive
      cases isAlive
    · rw [Function.update_of_ne isSame] at isAlive
      exact ⟨isSame, isAlive⟩
  refine ⟨?_, ?_, ?_, ?_, mirrors.unborn⟩
  · intro other place isAlive name
    obtain ⟨isOther, wasAlive⟩ := alive_cases isAlive
    change (memory.slot? name place).filter _ = _
    rw [mirrors.alive other place wasAlive name]
    cases ledger.answer? name other with
    | none => rfl
    | some value => exact if_pos (bne_iff_ne.mpr isOther)
  · intro place isVacant name
    change (memory.slot? name place).filter _ = none
    by_cases wasThere : memory.address? interpreter = some place
    · rw [mirrors.alive interpreter place wasThere name]
      cases ledger.answer? name interpreter with
      | none => rfl
      | some value => exact if_neg fun isOther => bne_iff_ne.mp isOther rfl
    · have wasVacant : ∀ other, memory.address? other ≠ some place := by
        intro other isAlive
        have isOther : other ≠ interpreter := by
          rintro rfl
          exact wasThere isAlive
        exact isVacant other ((Function.update_of_ne isOther _ _).trans isAlive)
      rw [mirrors.vacant place wasVacant name]
      rfl
  · intro first second place isFirst isSecond
    exact mirrors.distinct first second place (alive_cases isFirst).2 (alive_cases isSecond).2
  · intro other place isAlive
    exact mirrors.known other place (alive_cases isAlive).2

/-- A new definition has no results, and its table has no entries. -/
theorem defined
    (mirrors : memory.Mirrors ledger) (name : String) (expression : Expression)
    (keepsResults : Bool) :
    (memory.after (.occurred (.defined name expression keepsResults))).Mirrors
      (ledger.after (.defined name expression keepsResults)) := by
  have entries (other : String) (place : Nat) :
      (memory.after (.occurred (.defined name expression keepsResults))).slot? other place =
        if other = name then none else memory.slot? other place := by
    change Function.update memory.slot? name (fun _ => none) other place = _
    rw [Function.update_apply]
    split <;> rfl
  refine ⟨?_, ?_, mirrors.distinct, mirrors.known, ?_⟩
  · intro interpreter place isAlive other
    rw [entries, Ledger.answer?_defined]
    split
    · rfl
    · exact mirrors.alive interpreter place isAlive other
  · intro place isVacant other
    rw [entries, mirrors.vacant place isVacant other, ite_self]
  · intro interpreter isUnborn other
    rw [Ledger.answer?_defined, mirrors.unborn interpreter isUnborn other, ite_self]

/-- A result that is completed is the only one for its interpreter, and no other interpreter that is
alive is at the same address. -/
theorem completed
    (mirrors : memory.Mirrors ledger) (isAlive : memory.address? interpreter = some address)
    (absent : ledger.answer? name interpreter = none) (value : Value) :
    (memory.after (.occurred (.completed name interpreter value))).Mirrors
      (ledger.after (.completed name interpreter value)) := by
  have put : memory.after (.occurred (.completed name interpreter value)) =
      { memory with
        slot? := Function.update memory.slot? name
          (Function.update (memory.slot? name) address (some (interpreter, value))) } := by
    rw [after, Memory.put, isAlive]
  have entries (other : String) (place : Nat) :
      (memory.after (.occurred (.completed name interpreter value))).slot? other place =
        if other = name ∧ place = address then some (interpreter, value)
        else memory.slot? other place := by
    rw [put]
    by_cases isSame : other = name
    · subst isSame
      simp only [Function.update_self, Function.update_apply, true_and]
    · simp only [Function.update_of_ne isSame, isSame, false_and, if_false]
  have lives : (memory.after (.occurred (.completed name interpreter value))).address? =
      memory.address? := by
    rw [put]
  have born : (memory.after (.occurred (.completed name interpreter value))).created =
      memory.created := by
    rw [put]
  refine ⟨?_, ?_, ?_, ?_, ?_⟩
  · intro owner place ownerAlive other
    rw [lives] at ownerAlive
    rw [entries, Ledger.answer?_completed]
    have atAddress : place = address ↔ owner = interpreter := by
      constructor
      · rintro rfl
        exact mirrors.distinct owner interpreter place ownerAlive isAlive
      · rintro rfl
        exact Option.some.inj (ownerAlive.symm.trans isAlive)
    by_cases isHere : other = name ∧ owner = interpreter
    · rw [if_pos isHere, if_pos ⟨isHere.1, atAddress.mpr isHere.2⟩, isHere.1, isHere.2, absent]
      rfl
    · rw [if_neg isHere, if_neg fun both => isHere ⟨both.1, atAddress.mp both.2⟩, Option.or_none]
      exact mirrors.alive owner place ownerAlive other
  · intro place isVacant other
    rw [lives] at isVacant
    have isElsewhere : ¬(other = name ∧ place = address) := by
      rintro ⟨_, rfl⟩
      exact isVacant interpreter isAlive
    rw [entries, if_neg isElsewhere]
    exact mirrors.vacant place isVacant other
  · rw [lives]
    exact mirrors.distinct
  · rw [lives, born]
    exact mirrors.known
  · intro owner isUnborn other
    rw [born] at isUnborn
    have isElse : ¬(other = name ∧ owner = interpreter) := by
      rintro ⟨_, rfl⟩
      exact isUnborn (mirrors.known owner address isAlive)
    rw [Ledger.answer?_completed, if_neg isElse, Option.or_none]
    exact mirrors.unborn owner isUnborn other

/-- What an incident does to the tables is what its occurrence, if there is one, does to the
ledger. -/
theorem after
    (mirrors : memory.Mirrors ledger) {incident : Incident} (allows : memory.Allows incident)
    (fits : ∀ occurrence ∈ incident.occurrence?, occurrence.Fits ledger.answer?) :
    (memory.after incident).Mirrors (ledger.afterAll incident.occurrence?.toList) := by
  cases incident with
  | created interpreter address => exact mirrors.created allows
  | collected interpreter => exact mirrors.collected interpreter
  | occurred occurrence =>
      cases occurrence with
      | defined name expression keepsResults =>
          exact mirrors.defined name expression keepsResults
      | completed name interpreter value =>
          obtain ⟨address, isAlive⟩ := Option.ne_none_iff_exists'.mp (allows interpreter rfl)
          exact mirrors.completed isAlive (fits _ rfl) value
      | fetched | found | begun | raised => exact mirrors

/-- An occurrence that fits what the definitions keep fits what the tables have. -/
theorem fits
    (mirrors : memory.Mirrors ledger) {occurrence : Occurrence}
    (allows : memory.Allows (.occurred occurrence)) (fits : occurrence.Fits ledger.answer?) :
    occurrence.Fits memory.answer? := by
  have answers : ∀ interpreter, occurrence.interpreter? = some interpreter → ∀ name,
      memory.answer? name interpreter = ledger.answer? name interpreter := by
    intro interpreter isAbout name
    obtain ⟨address, isAlive⟩ := Option.ne_none_iff_exists'.mp (allows interpreter isAbout)
    exact mirrors.answer?_eq isAlive name
  cases occurrence with
  | defined | fetched => trivial
  | found name interpreter value => exact (answers interpreter rfl name).trans fits
  | begun name interpreter => exact (answers interpreter rfl name).trans fits
  | completed name interpreter value => exact (answers interpreter rfl name).trans fits
  | raised name interpreter failure => exact (answers interpreter rfl name).trans fits

end Mirrors

theorem mirrors_empty : Mirrors {} .empty where
  alive _ _ isAlive := by cases isAlive
  vacant _ _ _ := rfl
  distinct _ _ _ isAlive _ := by cases isAlive
  known _ _ isAlive := by cases isAlive
  unborn _ _ _ := rfl

/-- Whenever interpreters come and go, and wherever they are in memory, a definition finds a result
in its table when it returns what it keeps, and finds none when it is evaluated. -/
theorem fits_of_admits
    {memory : Memory} {ledger : Ledger} (mirrors : memory.Mirrors ledger) {incidents : List Incident}
    (allows : memory.AllowsAll incidents)
    (admits : ledger.Admits (incidents.filterMap Incident.occurrence?))
    {earlier later : List Incident} {occurrence : Occurrence}
    (split : incidents = earlier ++ .occurred occurrence :: later) :
    occurrence.Fits (memory.afterAll earlier).answer? := by
  induction earlier generalizing memory ledger incidents with
  | nil =>
      subst split
      exact mirrors.fits allows.1 admits.1.1
  | cons incident rest inductionHypothesis =>
      subst split
      have parts : (incident :: rest ++ .occurred occurrence :: later).filterMap
          Incident.occurrence? = incident.occurrence?.toList ++
            (rest ++ .occurred occurrence :: later).filterMap Incident.occurrence? := by
        rw [List.cons_append, List.filterMap_cons]
        cases incident.occurrence? <;> rfl
      rw [parts, Ledger.admits_append] at admits
      refine inductionHypothesis (mirrors.after allows.1 ?_) allows.2 admits.2 rfl
      intro first isFirst
      rw [Option.mem_def.mp isFirst] at admits
      exact admits.1.1.1

end Memory

end SchemaSignature.Program
