import SchemaSignature.Proofs.Document.References
import SchemaSignature.Proofs.Document.Sessions
import SchemaSignature.Proofs.Naming.Likeness
import SchemaSignature.Proofs.Naming.Visits

/-!
Sessions of documents that are drafted alike. If the drafts of two documents, and of what their
references stand for, are written alike, the renderings have the same texts, the same ones fail, and
the namers count and declare the same. If moreover everything is refused for the same reason, the
failures are the same as well.
-/

namespace SchemaSignature.Document

/-- Two sessions read alike: both documents are refused, or the same renderings succeed, with the same
texts; the namers have counted the same, and the same texts are declared. -/
structure Session.ReadsLike (one other : Session) : Prop where
  renderings : Outcome.Matches
    (List.Forall₂ (Outcome.Matches fun signature otherSignature : Signature =>
      otherSignature.text = signature.text))
    one.renderings other.renderings
  count : other.namer.count = one.namer.count
  declarations : other.namer.declaredTexts = one.namer.declaredTexts

/-- The texts of the renderings of a session, or the failures in their place. -/
def Session.texts (session : Session) : Except Failure (List (Except Failure String)) :=
  session.renderings.map (List.map fun outcome => outcome.map Node.text)

/-- Two sessions read the same: the texts and the failures of their renderings are the same, the
namers have counted the same, and the same texts are declared. -/
structure Session.ReadsSame (one other : Session) : Prop where
  texts : other.texts = one.texts
  count : other.namer.count = one.namer.count
  declarations : other.namer.declaredTexts = one.namer.declaredTexts

/-- Declarations that are written alike have the same texts. -/
theorem declaredTexts_alike {ledger other : Ledger} (alike : ledger.Alike other) :
    other.namer.declaredTexts = ledger.namer.declaredTexts := by
  have canonicalTexts (ledger : Ledger) :
      ledger.canonical.namer.declaredTexts = ledger.namer.declaredTexts := by
    unfold Namer.declaredTexts Ledger.canonical
    rw [List.map_map]
    refine List.map_congr_left fun entry _ => ?_
    exact congrArg (Prod.mk entry.1) (Node.text_canonical entry.2)
  rw [← canonicalTexts other, ← canonicalTexts ledger, alike]

theorem texts_eq_of_coincides
    {outcomes others : List (Except Failure Signature)}
    (coinciding : List.Forall₂ (Outcome.Coincides Node.Alike) outcomes others) :
    others.map (fun outcome => outcome.map Node.text) =
      outcomes.map fun outcome => outcome.map Node.text := by
  induction coinciding with
  | nil => rfl
  | cons first _ inductionHypothesis =>
      rw [List.map_cons, List.map_cons, inductionHypothesis,
        first.map_eq fun _ _ signaturesAlike => signaturesAlike.text_eq]

/-- Documents whose drafts are written alike have sessions that read alike, whatever the namer. -/
theorem session_alike
    {known : String → Prop} {root other : Json}
    (drafts : Outcome.Matches Node.Alike (root.draft root).outcome (other.draft other).outcome)
    (bodies : StandAlike known (body root) (body other))
    (leaves : ∀ node, (root.draft root).outcome = .ok node → ∀ reference ∈ node.keys, known reference)
    (namer : Namer) (bind : Bool) (count : Nat) :
    (session root namer bind count).ReadsLike (session other namer bind count) ∧
      (Outcome.Coincides Node.Alike (root.draft root).outcome (other.draft other).outcome →
        RefuseAlike known (body root) (body other) →
          (session root namer bind count).ReadsSame (session other namer bind count)) := by
  rcases drafts.outcomes with
    ⟨failure, otherFailure, failed, otherFailed⟩ | ⟨node, otherNode, drafted, otherDrafted, alike⟩
  · have refused := renderings_of_draft_error failed namer bind count
    have otherRefused := renderings_of_draft_error otherFailed namer bind count
    have same : (session other namer bind count).namer = (session root namer bind count).namer := by
      rw [session_namer_of_draft_error failed, session_namer_of_draft_error otherFailed]
    refine ⟨⟨?_, congrArg Namer.count same, congrArg Namer.declaredTexts same⟩,
      fun coinciding _ => ⟨?_, congrArg Namer.count same, congrArg Namer.declaredTexts same⟩⟩
    · rw [refused, otherRefused]
      exact .failed _ _
    · rw [failed, otherFailed] at coinciding
      unfold Session.texts
      rw [refused, otherRefused, coinciding.eq_of_error]
  · obtain ⟨outcomes, after, renders, sameLength, rendered, namerAfter⟩ :=
      renders_of_draft_ok drafted namer bind count
    obtain ⟨otherOutcomes, otherAfter, otherRenders, otherLength, otherRendered, otherNamerAfter⟩ :=
      renders_of_draft_ok otherDrafted namer bind count
    obtain ⟨others, last, rendersAlike, matched, alikeAfter, coinciding⟩ :=
      renders.alike bodies alike (leaves node drafted)
        (rfl : Ledger.Alike { namer := namer } { namer := namer })
    have sameCount : others.length = otherOutcomes.length := by
      rw [← matched.length_eq, sameLength, otherLength]
    obtain ⟨rfl, rfl⟩ := otherRenders.unique rendersAlike sameCount
    have countEq : (session other namer bind count).namer.count =
        (session root namer bind count).namer.count := by
      rw [namerAfter, otherNamerAfter]
      exact alikeAfter.count_eq
    have declaredEq : (session other namer bind count).namer.declaredTexts =
        (session root namer bind count).namer.declaredTexts := by
      rw [namerAfter, otherNamerAfter]
      exact declaredTexts_alike alikeAfter
    refine ⟨⟨?_, countEq, declaredEq⟩, fun _ refuse => ⟨?_, countEq, declaredEq⟩⟩
    · rw [rendered, otherRendered]
      refine .done (matched.imp ?_)
      intro outcome otherOutcome related
      cases related with
      | failed => exact .failed _ _
      | done signaturesAlike => exact .done signaturesAlike.text_eq
    · unfold Session.texts
      rw [rendered, otherRendered]
      exact congrArg Except.ok (texts_eq_of_coincides (coinciding refuse))

end SchemaSignature.Document
