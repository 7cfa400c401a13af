import SchemaSignature.Proofs.Document.Sessions
import SchemaSignature.Proofs.Naming.Causes
import SchemaSignature.Proofs.Naming.Visits

/-!
Why a session fails: a schema that is drafted has a fault, or the namer does not have a name for each
reference of the document left.
-/

namespace SchemaSignature.Document

/-- A session fails if its document has no node or if one of its renderings fails. -/
def Session.FailsWith (session : Session) (failure : Failure) : Prop :=
  session.renderings = .error failure ∨
    ∃ outcomes, session.renderings = .ok outcomes ∧ .error failure ∈ outcomes

/-- A session succeeds if it has the given number of renderings, and each of them is a signature. -/
def Session.Succeeds (session : Session) (count : Nat) : Prop :=
  ∃ signatures : List Signature, signatures.length = count ∧
    session.renderings = .ok (signatures.map .ok)

theorem exists_signatures
    {outcomes : List (Except Failure Signature)}
    (successful : ∀ failure, Except.error failure ∉ outcomes) :
    ∃ signatures : List Signature, outcomes = signatures.map .ok := by
  induction outcomes with
  | nil => exact ⟨[], rfl⟩
  | cons first rest inductionHypothesis =>
      obtain ⟨others, same⟩ := inductionHypothesis
        fun failure isLater => successful failure (List.mem_cons_of_mem _ isLater)
      cases first with
      | ok signature => exact ⟨signature :: others, by rw [same, List.map_cons]⟩
      | error failure => exact absurd List.mem_cons_self (successful failure)

/-- A session succeeds or fails. -/
theorem succeeds_iff (root : Json) (namer : Namer) (bind : Bool) (count : Nat) :
    (session root namer bind count).Succeeds count ↔
      ∀ failure, ¬(session root namer bind count).FailsWith failure := by
  constructor
  · rintro ⟨signatures, _, rendered⟩ failure (atOnce | ⟨outcomes, same, isOutcome⟩)
    · rw [rendered] at atOnce
      cases atOnce
    · rw [rendered] at same
      cases same
      obtain ⟨signature, _, impossible⟩ := List.mem_map.mp isOutcome
      cases impossible
  · intro successful
    cases drafted : (root.draft root).outcome with
    | error failure =>
        exact absurd (Or.inl (renderings_of_draft_error drafted namer bind count))
          (successful failure)
    | ok node =>
        obtain ⟨outcomes, _, _, length, rendered, _⟩ :=
          renders_of_draft_ok drafted namer bind count
        obtain ⟨signatures, rfl⟩ := exists_signatures fun failure isOutcome =>
          successful failure (Or.inr ⟨outcomes, rendered, isOutcome⟩)
        exact ⟨signatures, (List.length_map _).symm.trans length, rendered⟩

variable {root : Json} {failure : Failure}

theorem enclosed_isMet_of_listed
    {scope : List String} (listed : ∀ reference, IsMet root reference → reference ∈ scope) :
    Enclosed (body root) (IsMet root) scope where
  closed _ _ met stands _ isKey := isMet_of_body met stands isKey
  listed := listed

theorem enclosed_isMet (root : Json) : Enclosed (body root) (IsMet root) root.references :=
  enclosed_isMet_of_listed fun _ met => met.mem_references

theorem exists_fault_of_reached
    {schema : Json} (reached : Reached root schema)
    (failed : (root.draft schema).outcome = .error failure) :
    ∃ inner, Reached root inner ∧ (root.form inner).fault? = some failure := by
  obtain ⟨inner, within, faulty⟩ := fault_of_draft_error failed
  exact ⟨inner, reached.within within, faulty⟩

theorem exists_fault_of_isMet
    {reference : String} (met : IsMet root reference)
    (bodiless : body root reference = .error failure) :
    ∃ inner, Reached root inner ∧ (root.form inner).fault? = some failure := by
  obtain ⟨value, resolved, reached⟩ := met.exists_reached
  rw [body, resolved] at bodiless
  exact exists_fault_of_reached reached bodiless

/-- A session fails with the fault of a schema that is drafted, unless the namer runs out of numbers
that can be written. The list has room for all references that are met. -/
theorem cause_of_failsWith_listed
    {scope : List String} (listed : ∀ reference, IsMet root reference → reference ∈ scope)
    {namer : Namer} {bind : Bool} {count : Nat}
    (failed : (session root namer bind count).FailsWith failure) :
    (∃ schema, Reached root schema ∧ (root.form schema).fault? = some failure) ∨
      failure = .misuse .numberTooLong ∧
        Nat.pow 10 Number.digitLimit ≤ namer.count + scope.length := by
  cases drafted : (root.draft root).outcome with
  | error draftFailure =>
      have noRenderings := renderings_of_draft_error drafted namer bind count
      have same : draftFailure = failure := by
        rcases failed with atOnce | ⟨outcomes, rendered, _⟩
        · exact Except.error.inj (noRenderings.symm.trans atOnce)
        · rw [noRenderings] at rendered
          cases rendered
      exact Or.inl (exists_fault_of_reached .document (same ▸ drafted))
  | ok node =>
      obtain ⟨outcomes, after, renders, _, rendered, _⟩ :=
        renders_of_draft_ok drafted namer bind count
      have isOutcome : .error failure ∈ outcomes := by
        rcases failed with atOnce | ⟨others, same, isOutcome⟩
        · rw [rendered] at atOnce
          cases atOnce
        · rw [rendered] at same
          exact Except.ok.inj same ▸ isOutcome
      have headsMet : ∀ reference ∈ node.keys, IsMet root reference :=
        fun reference isKey => isMet_of_mem_keys .document drafted isKey
      rcases renders.cause (enclosed_isMet_of_listed listed) headsMet isOutcome with
        ⟨reference, met, bodiless⟩ | ⟨cause, long⟩
      · exact Or.inl (exists_fault_of_isMet met bodiless)
      · have atMostAll : Ledger.unnamed { namer := namer } scope ≤ scope.length :=
          List.countP_le_length
        exact Or.inr ⟨cause, Nat.le_trans long (Nat.add_le_add_left atMostAll namer.count)⟩

theorem cause_of_failsWith
    {namer : Namer} {bind : Bool} {count : Nat}
    (failed : (session root namer bind count).FailsWith failure) :
    (∃ schema, Reached root schema ∧ (root.form schema).fault? = some failure) ∨
      failure = .misuse .numberTooLong ∧
        Nat.pow 10 Number.digitLimit ≤ namer.count + root.references.length :=
  cause_of_failsWith_listed (fun _ met => met.mem_references) failed

/-- If the next number of the namer is too long, no rendering of a document that shows a reference
ever succeeds. Each one takes a number, and no reference is given a name. -/
theorem session_of_exhausted
    {node : Node String} (drafted : (root.draft root).outcome = .ok node) {reference : String}
    {rest : List String} (keys : node.keys = reference :: rest) {namer : Namer}
    (exhausted : Nat.pow 10 Number.digitLimit ≤ namer.count + 1) (bind : Bool) (count : Nat) :
    (session root namer bind count).renderings =
        .ok (List.replicate count (.error (.misuse .numberTooLong))) ∧
      (session root namer bind count).namer = { namer with count := namer.count + count } ∧
      (lastDesk root namer bind count).names = [] := by
  obtain ⟨outcomes, after, renders, sameLength, rendered, shown⟩ :=
    renders_lastDesk drafted namer bind count
  have expected : Renders (body root) node { namer := namer } _ _ :=
    .of_exhausted keys rfl exhausted count
  obtain ⟨rfl, rfl⟩ := expected.unique renders (by rw [sameLength, List.length_replicate])
  exact ⟨rendered, congrArg Ledger.namer (ledgerAfter_of_shows shown), shown.names⟩

/-- A document that is a reference to a definition. -/
def referredWord : Json :=
  .obj [("$ref", .str "#/definitions/Word"),
    ("definitions", .obj [("Word", .obj [("type", .str "string")])])]

/-- The standard namer, started from the largest number that can be written. -/
def exhaustedNamer : Namer :=
  { Namer.standard with count := Nat.pow 10 Number.digitLimit - 1 }

theorem session_referredWord_exhausted (bind : Bool) (count : Nat) :
    (session referredWord exhaustedNamer bind count).renderings =
        .ok (List.replicate count (.error (.misuse .numberTooLong))) ∧
      (session referredWord exhaustedNamer bind count).namer =
        { exhaustedNamer with count := exhaustedNamer.count + count } ∧
      (lastDesk referredWord exhaustedNamer bind count).names = [] := by
  have drafted : (referredWord.draft referredWord).outcome = .ok (.lazy "#/definitions/Word") := rfl
  have exhausted : Nat.pow 10 Number.digitLimit ≤ exhaustedNamer.count + 1 :=
    Nat.le_add_of_sub_le (Nat.le_refl _)
  exact session_of_exhausted drafted rfl exhausted bind count

end SchemaSignature.Document
