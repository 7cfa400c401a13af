import SchemaSignature.Proofs.Naming.Names
import SchemaSignature.Proofs.Naming.Visits

/-!
Why rendering fails. A visit breaks off at a reference that stands for no node, or at a number that
is too long to be written. The number of the last name and the count of references without a name
never grow together, so that no number is too long if there is room for a name for each reference.
-/

namespace SchemaSignature

/-- References that are closed under what they stand for, and listed. -/
structure Enclosed (body : String → Except Failure (Node String)) (known : String → Prop)
    (scope : List String) : Prop where
  closed : ∀ reference node, known reference → body reference = .ok node →
    ∀ inside ∈ node.keys, known inside
  listed : ∀ reference, known reference → reference ∈ scope

/-- The number of the last name if each reference of a list gets one. -/
def Ledger.lastNumber (ledger : Ledger) (references : List String) : Nat :=
  ledger.namer.count + ledger.unnamed references

namespace Ledger

variable {ledger : Ledger} {reference : String} {scope : List String}

theorem lastNumber_claim_le
    (isListed : reference ∈ scope) (unnamed : ledger.nameOf? reference = none) (name : String) :
    (ledger.claim reference name).lastNumber scope ≤ ledger.lastNumber scope := by
  have fewer := unnamed_claim_lt isListed unnamed name
  have next : (ledger.claim reference name).namer.count = ledger.namer.count + 1 := rfl
  unfold lastNumber
  omega

theorem lastNumber_declare (ledger : Ledger) (name : String) (expansion : Signature) :
    (ledger.declare name expansion).lastNumber scope = ledger.lastNumber scope :=
  rfl

/-- A number is too long only if there is no room for a name for each reference of the list. -/
theorem nextName_error
    (isListed : reference ∈ scope) (unnamed : ledger.nameOf? reference = none) {failure : Failure}
    (tooLong : ledger.nextName = .error failure) :
    failure = .misuse .numberTooLong ∧ Nat.pow 10 Number.digitLimit ≤ ledger.lastNumber scope := by
  obtain ⟨cause, long⟩ := Namer.nameOf_error tooLong
  have remaining : 0 < ledger.unnamed scope :=
    List.countP_pos_iff.mpr ⟨reference, isListed, by rw [unnamed]; rfl⟩
  refine ⟨cause, ?_⟩
  unfold lastNumber
  omega

end Ledger

section Visiting

variable {body : String → Except Failure (Node String)} {known : String → Prop}
  {scope : List String} (enclosed : Enclosed body known scope)

include enclosed

/-- Visiting does not raise the last number. -/
theorem Visits.lastNumber_le
    {ledger after : Ledger} {references : List String} {signatures : List Signature}
    (visited : Visits body ledger references signatures after)
    (allKnown : ∀ reference ∈ references, known reference) :
    after.lastNumber scope ≤ ledger.lastNumber scope := by
  induction visited with
  | done => exact Nat.le_refl _
  | again _ _ inductionHypothesis =>
      exact inductionHypothesis fun other isRest => allKnown other (List.mem_cons_of_mem _ isRest)
  | @first ledger expanded after reference name rest node parts signatures unnamed _ stands _ _
      inside later =>
      have isKnown := allKnown reference List.mem_cons_self
      -- A claim takes one number and leaves one reference fewer without a name.
      calc
        after.lastNumber scope
          ≤ (expanded.declare name (node.fill parts)).lastNumber scope :=
            later fun other isRest => allKnown other (List.mem_cons_of_mem _ isRest)
        _ = expanded.lastNumber scope := Ledger.lastNumber_declare _ _ _
        _ ≤ (ledger.claim reference name).lastNumber scope :=
            inside (enclosed.closed reference node isKnown stands)
        _ ≤ ledger.lastNumber scope :=
            Ledger.lastNumber_claim_le (enclosed.listed reference isKnown) unnamed name

/-- A visit breaks off at a reference without a node, or because a number is too long. -/
theorem Breaks.cause
    {ledger after : Ledger} {references : List String} {failure : Failure}
    (broken : Breaks body ledger references failure after)
    (allKnown : ∀ reference ∈ references, known reference) :
    ((∃ reference, known reference ∧ body reference = .error failure) ∧
        after.lastNumber scope ≤ ledger.lastNumber scope) ∨
      failure = .misuse .numberTooLong ∧ Nat.pow 10 Number.digitLimit ≤ ledger.lastNumber scope := by
  induction broken with
  | @nameless ledger reference rest failure unnamed tooLong =>
      have isListed := enclosed.listed reference (allKnown reference List.mem_cons_self)
      exact Or.inr (Ledger.nextName_error isListed unnamed tooLong)
  | @bodiless ledger reference name rest failure unnamed _ faulty =>
      have isKnown := allKnown reference List.mem_cons_self
      exact Or.inl ⟨⟨reference, isKnown, faulty⟩,
        Ledger.lastNumber_claim_le (enclosed.listed reference isKnown) unnamed name⟩
  | @inside ledger after reference name rest node failure unnamed _ stands _ inductionHypothesis =>
      have isKnown := allKnown reference List.mem_cons_self
      have claimed := Ledger.lastNumber_claim_le (enclosed.listed reference isKnown) unnamed name
      rcases inductionHypothesis (enclosed.closed reference node isKnown stands) with
        ⟨cause, lower⟩ | ⟨cause, long⟩
      · exact Or.inl ⟨cause, Nat.le_trans lower claimed⟩
      · exact Or.inr ⟨cause, Nat.le_trans long claimed⟩
  | afterAgain _ _ inductionHypothesis =>
      exact inductionHypothesis fun other isRest => allKnown other (List.mem_cons_of_mem _ isRest)
  | @afterFirst ledger expanded after reference name rest node parts failure unnamed minted stands
      visited _ inductionHypothesis =>
      have restKnown : ∀ other ∈ rest, known other :=
        fun other isRest => allKnown other (List.mem_cons_of_mem _ isRest)
      have single : Visits body ledger [reference] [node.fill parts]
          (expanded.declare name (node.fill parts)) :=
        .first unnamed minted stands visited (.done _)
      have passed := single.lastNumber_le enclosed fun other isOnly =>
        List.mem_singleton.mp isOnly ▸ allKnown reference List.mem_cons_self
      rcases inductionHypothesis restKnown with ⟨cause, lower⟩ | ⟨cause, long⟩
      · exact Or.inl ⟨cause, Nat.le_trans lower passed⟩
      · exact Or.inr ⟨cause, Nat.le_trans long passed⟩

/-- Every failed rendering is due to a reference without a node or to a number that is too long. -/
theorem Renders.cause
    {node : Node String} {ledger after : Ledger} {outcomes : List (Except Failure Signature)}
    (renders : Renders body node ledger outcomes after)
    (allKnown : ∀ reference ∈ node.keys, known reference) {failure : Failure}
    (failed : .error failure ∈ outcomes) :
    (∃ reference, known reference ∧ body reference = .error failure) ∨
      failure = .misuse .numberTooLong ∧ Nat.pow 10 Number.digitLimit ≤ ledger.lastNumber scope := by
  induction renders with
  | done => cases failed
  | @signature ledger middle after parts outcomes visited _ inductionHypothesis =>
      rcases List.mem_cons.mp failed with impossible | later
      · cases impossible
      · rcases inductionHypothesis later with bodiless | ⟨cause, long⟩
        · exact Or.inl bodiless
        · exact Or.inr ⟨cause, Nat.le_trans long (visited.lastNumber_le enclosed allKnown)⟩
  | @failure ledger middle after cause outcomes broken _ inductionHypothesis =>
      have ownCause := broken.cause enclosed allKnown
      rcases List.mem_cons.mp failed with same | later
      · cases same
        rcases ownCause with ⟨bodiless, _⟩ | tooLong
        · exact Or.inl bodiless
        · exact Or.inr tooLong
      · rcases inductionHypothesis later with bodiless | ⟨laterCause, long⟩
        · exact Or.inl bodiless
        · rcases ownCause with ⟨_, lower⟩ | ⟨_, longHere⟩
          · exact Or.inr ⟨laterCause, Nat.le_trans long lower⟩
          · exact Or.inr ⟨laterCause, longHere⟩

end Visiting

/-- If the first reference of a node has no name and the next number of the namer is too long, every
rendering fails at once, and all that changes is the number. -/
theorem Renders.of_exhausted
    {body : String → Except Failure (Node String)} {node : Node String} {reference : String}
    {rest : List String} (keys : node.keys = reference :: rest) {ledger : Ledger}
    (unnamed : ledger.nameOf? reference = none)
    (exhausted : Nat.pow 10 Number.digitLimit ≤ ledger.namer.count + 1) (count : Nat) :
    Renders body node ledger (List.replicate count (.error (.misuse .numberTooLong)))
      { ledger with namer := { ledger.namer with count := ledger.namer.count + count } } := by
  induction count generalizing ledger with
  | zero => exact .done ledger
  | succ count inductionHypothesis =>
      have tooLong : ledger.nextName = .error (.misuse .numberTooLong) := by
        rw [Ledger.nextName, Namer.nameOf_eq, if_neg (Nat.not_lt.mpr exhausted)]
      have broken : Breaks body ledger node.keys (.misuse .numberTooLong) ledger.skip := by
        rw [keys]
        exact .nameless unnamed tooLong
      have stillExhausted : Nat.pow 10 Number.digitLimit ≤ ledger.skip.namer.count + 1 :=
        Nat.le_succ_of_le exhausted
      have later := @inductionHypothesis ledger.skip unnamed stillExhausted
      have advanced : ledger.skip.namer.count + count = ledger.namer.count + (count + 1) :=
        Nat.succ_add_eq_add_succ _ _
      rw [advanced] at later
      exact .failure broken later

end SchemaSignature
