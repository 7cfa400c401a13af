import SchemaSignature.Proofs.Document.Sessions
import SchemaSignature.Proofs.Naming.Visits

/-!
Where the names of a document come from. Binding its references to a namer when it is drafted comes
to the same as activating the namer for each of its renderings: every nested expansion takes its name
from that namer, and no other namer is touched, whichever is active.
-/

namespace SchemaSignature.Document

/-- Drafts a document, with its references bound to a namer or not, and renders it once for each
choice of a namer: the renderings, or why there is no node, and the desk afterwards. -/
def sessionWith (root : Json) (bound : Option Nat) (choices : List (Option Nat))
    (desk : Desk String (List String)) :
    Except Failure (List (Except Failure Signature)) × Desk String (List String) :=
  match (documentDraft root).runOn desk with
  | (.error failure, after) => (.error failure, after)
  | (.ok node, after) =>
      let (renderings, last) := renderingsWith root bound node choices after
      (.ok renderings, last)

/-- In a session the namer of the session is chosen for each rendering. -/
theorem session_eq_sessionWith (root : Json) (namer : Namer) (bind : Bool) (count : Nat) :
    let bound := if bind then some sessionNamer else none
    let result := sessionWith root bound (List.replicate count (some sessionNamer)) (desk namer)
    session root namer bind count =
      { renderings := result.1
        namer := result.2.namers.getD sessionNamer namer
        events := result.2.events } := by
  unfold session sessionWith
  rcases (documentDraft root).runOn (desk namer) with ⟨outcome, after⟩
  cases outcome with
  | error failure => rfl
  | ok node => simp only [renderings_eq_renderingsWith]

/-- A desk on which at most one namer has changed. -/
theorem namers_eq_set
    {desk after : Desk String (List String)} {index : Nat} {ledger : Ledger}
    (inRange : index < desk.namers.length) (shown : after.Shows index ledger)
    (kept : desk.KeepsOthers index after) :
    after.namers = desk.namers.set index ledger.namer := by
  apply List.ext_getElem?
  intro other
  by_cases same : other = index
  · rw [same, shown.namer, List.getElem?_set_self inRange]
  · rw [kept.namers other same, List.getElem?_set_ne (Ne.symm same)]

/-- A session renders the draft of its document, if there is one. Drafting does not concern the
names. -/
theorem exists_sessionWith (root : Json) (desk : Desk String (List String)) :
    ∃ started, desk.SameNaming started ∧ ∀ bound choices, sessionWith root bound choices desk =
      match (root.draft root).outcome with
      | .error failure => (.error failure, started)
      | .ok node =>
          (.ok (renderingsWith root bound node choices started).1,
            (renderingsWith root bound node choices started).2) := by
  obtain ⟨started, performed, same⟩ := runOn_perform (root.draft root) desk
  refine ⟨started, same, fun bound choices => ?_⟩
  rw [sessionWith, documentDraft, performed]
  cases (root.draft root).outcome <;> rfl

/-- Binding the references of a document to a namer of the desk, whichever namers are chosen for its
renderings, and choosing that namer for each rendering without binding it, come to the same
renderings, the same names and the same state of the namer. Neither touches any other namer or
which one is active. -/
theorem bound_as_activated
    (root : Json) (namers : List Namer) (index : Fin namers.length) (active : Option Nat)
    (choices : List (Option Nat)) :
    let desk : Desk String (List String) := { namers := namers, active := active, own := [] }
    let bound := sessionWith root (some index) choices desk
    let activated := sessionWith root none (choices.map fun _ => some index.val) desk
    bound.1 = activated.1 ∧ bound.2.names = activated.2.names ∧
      bound.2.active = active ∧ activated.2.active = active ∧
      ∃ namer, bound.2.namers = namers.set index namer ∧
        activated.2.namers = namers.set index namer := by
  intro desk
  obtain ⟨started, same, session⟩ := exists_sessionWith root desk
  have inRange : index.val < started.namers.length := by
    rw [same.namers]
    exact index.isLt
  have shown : started.Shows index { namer := namers[index] } := by
    refine ⟨same.names, ?_⟩
    rw [same.namers]
    exact List.getElem?_eq_getElem index.isLt
  rw [session, session]
  cases drafted : (root.draft root).outcome with
  | error failure =>
      have unchanged : started.namers = namers.set index namers[index] := by
        rw [same.namers]
        exact (List.set_getElem_self index.isLt).symm
      exact ⟨rfl, rfl, same.active, same.active, namers[index], unchanged, unchanged⟩
  | ok node =>
      have known : ∀ reference ∈ node.keys, reference ∈ root.references :=
        fun reference isKey => mem_references_of_mem_keys drafted isKey
      have sourceBound : ∀ chosen ∈ choices,
          (some index.val).getD (chosen.getD started.currentNamer) = index.val :=
        fun _ _ => rfl
      have sourceActivated : ∀ chosen ∈ choices.map fun _ => some index.val,
          Option.getD none (chosen.getD started.currentNamer) = index.val := by
        intro chosen isChosen
        obtain ⟨_, _, rfl⟩ := List.mem_map.mp isChosen
        rfl
      obtain ⟨after, renders, shownAfter, kept, sameLength⟩ :=
        renders_renderingsWith known choices shown sourceBound
      obtain ⟨otherAfter, rendersOther, shownOther, keptOther, otherLength⟩ :=
        renders_renderingsWith known (choices.map fun _ => some index.val) shown sourceActivated
      -- What rendering comes to depends on the names before only, and these are the same.
      rw [List.length_map, ← sameLength] at otherLength
      obtain ⟨sameOutcomes, rfl⟩ := renders.unique rendersOther otherLength
      have namersBound := namers_eq_set inRange shownAfter kept
      have namersActivated := namers_eq_set inRange shownOther keptOther
      rw [same.namers] at namersBound namersActivated
      exact ⟨congrArg Except.ok sameOutcomes.symm, shownAfter.names.trans shownOther.names.symm,
        kept.active.trans same.active, keptOther.active.trans same.active, otherAfter.namer,
        namersBound, namersActivated⟩

end SchemaSignature.Document
