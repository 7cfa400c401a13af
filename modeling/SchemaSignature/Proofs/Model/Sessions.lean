import SchemaSignature.Proofs.Document.Declarations
import SchemaSignature.Proofs.Document.Failures
import SchemaSignature.Proofs.Document.Retries
import SchemaSignature.Proofs.Model.Descent

/-!
Rendering a model. A model of a well-formed family is rendered unless it reaches a tuple that is too
long. Its first rendering names and declares each model that it leads to, and a second one adds
nothing.
-/

namespace SchemaSignature.Model

open Document (IsMet)

/-- Renderings of a model with a fresh namer that its references are bound to. -/
def freshSession (family : List RecordModel) (root : RecordModel) (stem : String) (count : Nat) :
    Document.Session :=
  Document.session (document family root) { stem := stem, count := 0 } true count

/-- If the first rendering of a model succeeds, so does the second one, and it names and declares
nothing. -/
theorem second_of_first
    {family : List RecordModel} {root : RecordModel} {stem : String} {signature : Signature}
    (rendered : (freshSession family root stem 1).renderings = .ok [.ok signature]) :
    (freshSession family root stem 2).Succeeds 2 ∧
      (freshSession family root stem 2).namer = (freshSession family root stem 1).namer := by
  obtain ⟨again, renderedAgain, sameNamer⟩ :=
    Document.exists_repeated_rendering [] rendered
  exact ⟨⟨[signature, again], rfl, renderedAgain⟩, sameNamer⟩

section Sessions

variable {family : List RecordModel} (wellFormed : WellFormed family) {root : RecordModel}
  (isRoot : root ∈ family)

include wellFormed isRoot

theorem session_eq_freshSession :
    session family root.name = .ok (freshSession family root Namer.defaultStem 2) := by
  have found := (find?_eq_some_iff wellFormed.distinct).mpr ⟨isRoot, rfl⟩
  rw [session, found]
  rfl

variable {stem : String} {count : Nat}

/-- Rendering a model fails only because of a tuple, or for want of a name. -/
theorem cause_of_failsWith
    {failure : Failure} (failed : (freshSession family root stem count).FailsWith failure) :
    TupleFault family root failure ∨
      failure = .misuse .numberTooLong ∧
        Nat.pow 10 Number.digitLimit ≤ (reachable family root).length := by
  have listed : ∀ reference, IsMet (document family root) reference →
      reference ∈ (reachable family root).map pointerTo := by
    intro reference met
    obtain ⟨name, leads, rfl⟩ := (isMet_iff wellFormed isRoot).mp met
    exact List.mem_map.mpr ⟨name, (wellFormed.mem_reachable_iff isRoot).mpr leads, rfl⟩
  rcases Document.cause_of_failsWith_listed listed failed with
    ⟨schema, reached, faulty⟩ | ⟨cause, long⟩
  · exact Or.inl (tupleFault_of_reached wellFormed isRoot reached faulty)
  · rw [List.length_map, Nat.zero_add] at long
    exact Or.inr ⟨cause, long⟩

/-- The references that appear in a document of a model are as many as the models that the model leads
to. -/
theorem length_eq_of_met
    {references : List String} (distinct : references.Nodup)
    (met : ∀ reference, reference ∈ references ↔ IsMet (document family root) reference) :
    references.length = (reachable family root).length := by
  have pointersDistinct := (nodup_reachable family root).map pointerTo_injective
  have permuted : references.Perm ((reachable family root).map pointerTo) := by
    rw [List.perm_ext_iff_of_nodup distinct pointersDistinct]
    intro reference
    rw [met, isMet_iff wellFormed isRoot, List.mem_map]
    constructor
    · rintro ⟨name, leads, same⟩
      exact ⟨name, (wellFormed.mem_reachable_iff isRoot).mpr leads, same.symm⟩
    · rintro ⟨name, isReached, same⟩
      exact ⟨name, (wellFormed.mem_reachable_iff isRoot).mp isReached, same.symm⟩
  rw [permuted.length_eq, List.length_map]

/-- The first rendering of a model names and declares the models that it leads to. -/
theorem names_of_first_rendering
    {signature : Signature}
    (rendered : (freshSession family root stem 1).renderings = .ok [.ok signature]) :
    (freshSession family root stem 1).namer.count = (reachable family root).length ∧
      (freshSession family root stem 1).namer.declarations.length =
        (reachable family root).length := by
  obtain ⟨references, distinct, met, count, declared⟩ :=
    Document.exists_references_of_renderings (distinctKeys_document wellFormed isRoot) rendered
  have sameLength := length_eq_of_met wellFormed isRoot distinct met
  constructor
  · rw [freshSession, count, Nat.zero_add, sameLength]
  · rw [freshSession, declared, sameLength]

end Sessions

/-- A model of a well-formed family is rendered twice with a fresh namer. Nothing but refused values
keeps it from that, and only a tuple with more than five members in the model or in one that it leads
to, apart from more models than there are numbers that can be written. Otherwise the first rendering
counts and declares the models that the model leads to, and the second one changes nothing. Tuples
without members are no obstacle, because they are described as arrays of any items. -/
theorem renders_completely
    {family : List RecordModel} (wellFormed : WellFormed family) {root : RecordModel}
    (isRoot : root ∈ family) (stem : String) :
    session family root.name = .ok (freshSession family root Namer.defaultStem 2) ∧
      (∀ failure, (freshSession family root stem 2).FailsWith failure →
        failure.category = .invalidValue) ∧
      ∃ names : List String, names.Nodup ∧
        (∀ name, name ∈ names ↔ LeadsTo family root.name name) ∧
        ((∃ model ∈ family, Relation.ReflTransGen (Refers family) root.name model.name ∧
            ∃ length ∈ model.tupleLengths, 5 < length) ∨
          Nat.pow 10 Number.digitLimit ≤ names.length ∨
          (freshSession family root stem 2).Succeeds 2 ∧
            (freshSession family root stem 1).namer.count = names.length ∧
            (freshSession family root stem 1).namer.declarations.length = names.length ∧
            (freshSession family root stem 2).namer = (freshSession family root stem 1).namer) := by
  refine ⟨session_eq_freshSession wellFormed isRoot, ?_, reachable family root,
    nodup_reachable family root, fun _ => wellFormed.mem_reachable_iff isRoot, ?_⟩
  · intro failure failed
    rcases cause_of_failsWith wellFormed isRoot failed with ⟨_, _, _, refused, _⟩ | ⟨rfl, _⟩
    · exact refused
    · rfl
  · by_cases successful : (freshSession family root stem 1).Succeeds 1
    · obtain ⟨signatures, length, rendered⟩ := successful
      obtain ⟨signature, rfl⟩ := List.length_eq_one_iff.mp length
      obtain ⟨counted, declared⟩ := names_of_first_rendering wellFormed isRoot rendered
      obtain ⟨succeeds, unchanged⟩ := second_of_first rendered
      exact Or.inr (Or.inr ⟨succeeds, counted, declared, unchanged⟩)
    · rw [freshSession, Document.succeeds_iff] at successful
      obtain ⟨failure, failed⟩ := not_forall_not.mp successful
      rcases cause_of_failsWith wellFormed isRoot failed with
        ⟨model, isModel, leads, _, tooLong⟩ | ⟨_, long⟩
      · exact Or.inl ⟨model, isModel, leads, tooLong⟩
      · exact Or.inr (Or.inl long)

/-- Persons and companies that refer to each other. -/
def workplaces : List RecordModel :=
  [⟨"Report", [⟨"company", .model "Company", true⟩]⟩,
    ⟨"Company", [⟨"owner", .optional (.model "Person"), true⟩,
      ⟨"place", .tuple [.number, .number], true⟩,
      ⟨"kind", .literal [.str "public", .str "private"], false⟩]⟩,
    ⟨"Person", [⟨"name", .text, true⟩, ⟨"employer", .model "Company", true⟩,
      ⟨"friends", .listOf (.union [.model "Person", .text]), false⟩]⟩]

def report : RecordModel :=
  ⟨"Report", [⟨"company", .model "Company", true⟩]⟩

theorem wellFormed_workplaces : WellFormed workplaces where
  distinct := by decide
  identifiers := by decide
  fieldsDistinct := by decide
  fieldTypes := by simp [workplaces, FieldType.WellFormed, AllWellFormed, Json.isKey]
  closed := by decide

theorem renders_completely_workplaces :
    WellFormed workplaces ∧ report ∈ workplaces ∧
      session workplaces "Report" = .ok (freshSession workplaces report Namer.defaultStem 2) ∧
      ∃ names : List String, names.Nodup ∧
        (∀ name, name ∈ names ↔ LeadsTo workplaces "Report" name) ∧
        (freshSession workplaces report "$Ref" 2).Succeeds 2 ∧
        (freshSession workplaces report "$Ref" 1).namer.count = names.length ∧
        (freshSession workplaces report "$Ref" 1).namer.declarations.length = names.length ∧
        (freshSession workplaces report "$Ref" 2).namer =
          (freshSession workplaces report "$Ref" 1).namer := by
  have isRoot : report ∈ workplaces := List.mem_cons_self
  obtain ⟨isSession, _, names, distinct, among, outcome⟩ :=
    renders_completely wellFormed_workplaces isRoot "$Ref"
  have shortTuples : ∀ model ∈ workplaces, ∀ length ∈ model.tupleLengths, length ≤ 5 := by decide
  have room : 3 < Nat.pow 10 Number.digitLimit :=
    (Number.fits_eq_true_iff Number.digitLimit _).mp rfl
  have known : names ⊆ workplaces.map RecordModel.name := fun name isName =>
    wellFormed_workplaces.mem_of_leadsTo ((among name).mp isName)
  have few : names.length ≤ 3 := (distinct.subperm known).length_le
  refine ⟨wellFormed_workplaces, isRoot, isSession, names, distinct, among, ?_⟩
  rcases outcome with ⟨model, isModel, _, length, isLength, tooLong⟩ | long | succeeds
  · exact absurd tooLong (Nat.not_lt_of_le (shortTuples model isModel length isLength))
  · exact absurd (Nat.lt_of_lt_of_le room long) (Nat.not_lt_of_le few)
  · exact succeeds

end SchemaSignature.Model
