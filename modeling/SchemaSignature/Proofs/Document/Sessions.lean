import SchemaSignature.Proofs.Document.References
import SchemaSignature.Proofs.Naming.Growth
import SchemaSignature.Proofs.Naming.Rendering
import SchemaSignature.Proofs.Naming.Stability
import SchemaSignature.Proofs.Naming.Visits

/-!
A session in terms of visits: the renderings of a document are those of its draft, in which each
reference stands for the draft of what it points to. The bound on the depth of nested renderings is
never reached, because there are no more references than the document has.
-/

namespace SchemaSignature.Document

theorem shows_desk (namer : Namer) : (desk namer).Shows sessionNamer { namer := namer } :=
  ⟨rfl, rfl⟩

theorem runOn_report (event : Event) (desk : Desk String (List String)) :
    ∃ after, (report event).runOn desk = (.ok (), after) ∧ desk.SameNaming after := by
  by_cases isSeen : ∃ target, event = .resolved target ∧ desk.own.contains target = true
  · obtain ⟨target, rfl, seen⟩ := isSeen
    refine ⟨desk, ?_, rfl, rfl, rfl⟩
    rw [report, Work.runOn_get_bind, if_pos seen, Work.runOn_pure]
  · cases event with
    | resolved target =>
        have unseen : ¬desk.own.contains target = true := fun seen => isSeen ⟨target, rfl, seen⟩
        refine ⟨{ desk with
          own := desk.own ++ [target]
          events := desk.events ++ [.resolved target] }, ?_, rfl, rfl, rfl⟩
        rw [report, Work.runOn_get_bind, if_neg unseen, Work.runOn_modify_bind, Work.runOn_log]
    | _ => exact ⟨_, rfl, rfl, rfl, rfl⟩

theorem runOn_reports (events : List Event) (desk : Desk String (List String)) :
    ∃ after, (events.forM report : DocumentWork Unit).runOn desk = (.ok (), after) ∧
      desk.SameNaming after := by
  induction events generalizing desk with
  | nil => exact ⟨desk, rfl, rfl, rfl, rfl⟩
  | cons event rest inductionHypothesis =>
      obtain ⟨middle, reported, same⟩ := runOn_report event desk
      obtain ⟨after, reportedRest, sameRest⟩ := inductionHypothesis middle
      refine ⟨after, ?_, sameRest.names.trans same.names, sameRest.namers.trans same.namers,
        sameRest.active.trans same.active⟩
      change (report event >>= fun _ => rest.forM report).runOn desk = _
      rw [Work.runOn_bind_of_ok reported, reportedRest]

/-- Performing a computation reports its events and leaves the names alone. -/
theorem runOn_perform
    {result : Type} (computation : Traced result) (desk : Desk String (List String)) :
    ∃ after, (perform computation).runOn desk = (computation.outcome, after) ∧
      desk.SameNaming after := by
  obtain ⟨after, reported, same⟩ := runOn_reports computation.events desk
  refine ⟨after, ?_, same⟩
  rw [perform, Work.runOn_bind_of_ok reported, Work.runOn_ofExcept]

/-- A reference of a document stands for the draft of what it points to. -/
theorem workshop_gives (root : Json) (bound : Option Nat) :
    (workshop root bound).Gives bound (body root) where
  bound := rfl
  watch := rfl
  body := by
    intro reference desk
    cases resolved : Pointer.resolve root reference with
    | ok schema =>
        obtain ⟨after, performed, same⟩ := runOn_perform (root.draft schema) desk
        refine ⟨after, ?_, same⟩
        simp only [workshop, body, resolved]
        exact performed
    | error failure =>
        refine ⟨desk, ?_, rfl, rfl, rfl⟩
        simp only [workshop, body, resolved]
        exact Work.runOn_throw failure desk

section Renderings

variable {root : Json} {bound : Option Nat} {node : Node String}

theorem runOn_render (depth : Nat) (desk : Desk String (List String)) :
    ((workshop root bound).render depth node).runOn desk =
      (Work.onEach ((workshop root bound).expand depth) node.keys >>= fun parts =>
        pure (node.fill parts)).runOn desk := by
  rw [Workshop.render, (workshop_gives root bound).watch, Node.traverse_eq_onEach]

/-- A rendering visits the references of the node, and does nothing to other namers than the one
that its names come from. -/
theorem exists_of_renderWith
    (known : ∀ reference ∈ node.keys, reference ∈ root.references) {index : Nat}
    {chosen : Option Nat} {desk : Desk String (List String)} {ledger : Ledger}
    (shown : desk.Shows index ledger)
    (source : bound.getD (chosen.getD desk.currentNamer) = index) :
    ∃ outcome after ledgerAfter,
      ((workshop root bound).renderWith (depth root) node chosen).runOn desk = (outcome, after) ∧
      Renders (body root) node ledger [outcome] ledgerAfter ∧ after.Shows index ledgerAfter ∧
      desk.KeepsOthers index after := by
  have atMostAll : ledger.unnamed root.references ≤ depth root := List.countP_le_length
  have rendered (started : Desk String (List String)) (shownThere : started.Shows index ledger)
      (sourceThere : bound.getD started.currentNamer = index) :
      ∃ outcome after ledgerAfter,
        ((workshop root bound).render (depth root) node).runOn started = (outcome, after) ∧
        Renders (body root) node ledger [outcome] ledgerAfter ∧ after.Shows index ledgerAfter ∧
        started.KeepsOthers index after := by
    obtain ⟨outcome, after, ledgerAfter, ran, shownAfter, kept, result⟩ :=
      Workshop.visiting_expand
        (fun reference _ expansion stands inside isKey => mem_references_of_body stands isKey)
        (workshop_gives root bound) (depth root) started ledger node.keys known shownThere
        sourceThere atMostAll
    refine ⟨outcome.map node.fill, after, ledgerAfter, ?_, ?_, shownAfter, kept⟩
    · rw [runOn_render, Work.runOn_bind, ran]
      cases outcome <;> rfl
    · cases outcome with
      | ok parts => exact .signature result (.done ledgerAfter)
      | error failure => exact .failure result (.done ledgerAfter)
  cases chosen with
  | none => exact rendered desk shown source
  | some namer =>
      obtain ⟨outcome, after, ledgerAfter, ran, renders, shownAfter, kept⟩ :=
        rendered { desk with active := some namer } ⟨shown.names, shown.namer⟩ source
      refine ⟨outcome, { after with active := desk.active }, ledgerAfter, ?_, renders,
        ⟨shownAfter.names, shownAfter.namer⟩, ⟨rfl, kept.namers⟩⟩
      rw [Workshop.renderWith, Workshop.renderUnder, Work.runOn_withActive, ran]

/-- Renders a node of a document several times, each time with the namer active that is chosen for
it, or with the one that is active anyway. -/
def renderingsWith (root : Json) (bound : Option Nat) (node : Node String) :
    List (Option Nat) → Desk String (List String) →
      List (Except Failure Signature) × Desk String (List String)
  | [], desk => ([], desk)
  | chosen :: rest, desk =>
      let (first, after) :=
        ((workshop root bound).renderWith (depth root) node chosen).runOn desk
      let (others, last) := renderingsWith root bound node rest after
      (first :: others, last)

theorem renderings_eq_renderingsWith
    (root : Json) (bound : Option Nat) (namer : Nat) (node : Node String) (count : Nat)
    (desk : Desk String (List String)) :
    renderings root bound namer node count desk =
      renderingsWith root bound node (List.replicate count (some namer)) desk := by
  induction count generalizing desk with
  | zero => rfl
  | succ count inductionHypothesis =>
      rw [renderings, List.replicate_succ, renderingsWith, Workshop.renderWith]
      simp only [inductionHypothesis]

/-- If the names of all renderings come from one namer, the renderings visit the references of the
node, and no other namer changes. -/
theorem renders_renderingsWith
    (known : ∀ reference ∈ node.keys, reference ∈ root.references) {index : Nat}
    (choices : List (Option Nat)) {desk : Desk String (List String)} {ledger : Ledger}
    (shown : desk.Shows index ledger)
    (source : ∀ chosen ∈ choices, bound.getD (chosen.getD desk.currentNamer) = index) :
    ∃ after,
      Renders (body root) node ledger (renderingsWith root bound node choices desk).1 after ∧
      (renderingsWith root bound node choices desk).2.Shows index after ∧
      desk.KeepsOthers index (renderingsWith root bound node choices desk).2 ∧
      (renderingsWith root bound node choices desk).1.length = choices.length := by
  induction choices generalizing desk ledger with
  | nil => exact ⟨ledger, .done ledger, shown, .refl desk index, rfl⟩
  | cons chosen rest inductionHypothesis =>
      obtain ⟨outcome, middle, ledgerMiddle, rendered, renders, shownMiddle, kept⟩ :=
        exists_of_renderWith known shown (source chosen List.mem_cons_self)
      have sourceLater : ∀ other ∈ rest, bound.getD (other.getD middle.currentNamer) = index := by
        intro other isLater
        rw [Desk.currentNamer, kept.active]
        exact source other (List.mem_cons_of_mem _ isLater)
      obtain ⟨last, rendersLater, shownLast, keptLater, sameLength⟩ :=
        inductionHypothesis shownMiddle sourceLater
      rw [renderingsWith, rendered]
      exact ⟨last, renders.append rendersLater, shownLast, kept.trans keptLater,
        congrArg (· + 1) sameLength⟩

end Renderings

/-! ## Sessions -/

/-- The desk at the end of a session. -/
def lastDesk (root : Json) (namer : Namer) (bind : Bool) (count : Nat) :
    Desk String (List String) :=
  match (documentDraft root).runOn (desk namer) with
  | (.error _, after) => after
  | (.ok node, after) =>
      (renderings root (if bind then some sessionNamer else none) sessionNamer node count after).2

theorem session_events (root : Json) (namer : Namer) (bind : Bool) (count : Nat) :
    (session root namer bind count).events = (lastDesk root namer bind count).events := by
  rw [session, lastDesk]
  rcases (documentDraft root).runOn (desk namer) with ⟨outcome, after⟩
  cases outcome <;> rfl

theorem session_namer (root : Json) (namer : Namer) (bind : Bool) (count : Nat) :
    (session root namer bind count).namer =
      (lastDesk root namer bind count).namers.getD sessionNamer namer := by
  rw [session, lastDesk]
  rcases (documentDraft root).runOn (desk namer) with ⟨outcome, after⟩
  cases outcome <;> rfl

/-- A session whose document has no node has no renderings, and gives no names. -/
theorem session_of_draft_error
    {root : Json} {failure : Failure} (failed : (root.draft root).outcome = .error failure)
    (namer : Namer) (bind : Bool) (count : Nat) :
    (session root namer bind count).renderings = .error failure ∧
      (lastDesk root namer bind count).names = [] := by
  obtain ⟨after, performed, same⟩ := runOn_perform (root.draft root) (desk namer)
  rw [failed] at performed
  rw [session, lastDesk, documentDraft, performed]
  exact ⟨rfl, same.names⟩

theorem session_namer_of_draft_error
    {root : Json} {failure : Failure} (failed : (root.draft root).outcome = .error failure)
    (namer : Namer) (bind : Bool) (count : Nat) : (session root namer bind count).namer = namer := by
  obtain ⟨after, performed, same⟩ := runOn_perform (root.draft root) (desk namer)
  rw [failed] at performed
  rw [session, documentDraft, performed]
  simp only [same.namers]
  rfl

theorem renderings_of_draft_error
    {root : Json} {failure : Failure} (failed : (root.draft root).outcome = .error failure)
    (namer : Namer) (bind : Bool) (count : Nat) :
    (session root namer bind count).renderings = .error failure :=
  (session_of_draft_error failed namer bind count).1

/-- The names that a session has given, and the namer that it leaves behind. -/
def ledgerAfter (root : Json) (namer : Namer) (bind : Bool) (count : Nat) : Ledger where
  names := (lastDesk root namer bind count).names
  namer := (session root namer bind count).namer

theorem ledgerAfter_of_shows
    {root : Json} {namer : Namer} {bind : Bool} {count : Nat} {after : Ledger}
    (shown : (lastDesk root namer bind count).Shows sessionNamer after) :
    ledgerAfter root namer bind count = after := by
  rw [ledgerAfter, session_namer, List.getD_eq_getElem?_getD, shown.namer, Option.getD_some,
    shown.names]

/-- The renderings of a session visit the references of the draft of its document. -/
theorem renders_lastDesk
    {root : Json} {node : Node String} (drafted : (root.draft root).outcome = .ok node)
    (namer : Namer) (bind : Bool) (count : Nat) :
    ∃ outcomes after, Renders (body root) node { namer := namer } outcomes after ∧
      outcomes.length = count ∧
      (session root namer bind count).renderings = .ok outcomes ∧
      (lastDesk root namer bind count).Shows sessionNamer after := by
  obtain ⟨started, performed, same⟩ := runOn_perform (root.draft root) (desk namer)
  rw [drafted] at performed
  have shown := same.shows (shows_desk namer)
  have known : ∀ reference ∈ node.keys, reference ∈ root.references :=
    fun reference isKey => mem_references_of_mem_keys drafted isKey
  have source : ∀ chosen ∈ List.replicate count (some sessionNamer),
      (if bind then some sessionNamer else none).getD (chosen.getD started.currentNamer) =
        sessionNamer := by
    intro chosen isChosen
    rw [List.eq_of_mem_replicate isChosen]
    cases bind
    · rfl
    · rfl
  obtain ⟨after, renders, shownAfter, _, sameLength⟩ := renders_renderingsWith known _ shown source
  rw [← renderings_eq_renderingsWith] at renders shownAfter sameLength
  rw [List.length_replicate] at sameLength
  refine ⟨_, after, renders, sameLength, ?_, ?_⟩
  · rw [session, documentDraft, performed]
  · rw [lastDesk, documentDraft, performed]
    exact shownAfter

theorem renders_of_draft_ok
    {root : Json} {node : Node String} (drafted : (root.draft root).outcome = .ok node)
    (namer : Namer) (bind : Bool) (count : Nat) :
    ∃ outcomes after, Renders (body root) node { namer := namer } outcomes after ∧
      outcomes.length = count ∧
      (session root namer bind count).renderings = .ok outcomes ∧
      (session root namer bind count).namer = after.namer := by
  obtain ⟨outcomes, after, renders, sameLength, rendered, shown⟩ :=
    renders_lastDesk drafted namer bind count
  exact ⟨outcomes, after, renders, sameLength, rendered,
    congrArg Ledger.namer (ledgerAfter_of_shows shown)⟩

/-- The renderings of a session lead to the names that it leaves behind. -/
theorem renders_ledgerAfter
    {root : Json} {namer : Namer} {bind : Bool} {count : Nat}
    {outcomes : List (Except Failure Signature)}
    (rendered : (session root namer bind count).renderings = .ok outcomes) :
    ∃ node, (root.draft root).outcome = .ok node ∧
      Renders (body root) node { namer := namer } outcomes (ledgerAfter root namer bind count) ∧
      outcomes.length = count := by
  cases drafted : (root.draft root).outcome with
  | error failure =>
      rw [renderings_of_draft_error drafted] at rendered
      cases rendered
  | ok node =>
      obtain ⟨others, after, renders, sameLength, same, shown⟩ :=
        renders_lastDesk drafted namer bind count
      rw [same] at rendered
      cases rendered
      exact ⟨node, rfl, ledgerAfter_of_shows shown ▸ renders, sameLength⟩

theorem exists_renders_of_renderings
    {root : Json} {namer : Namer} {bind : Bool} {count : Nat}
    {outcomes : List (Except Failure Signature)}
    (rendered : (session root namer bind count).renderings = .ok outcomes) :
    ∃ node after, (root.draft root).outcome = .ok node ∧
      Renders (body root) node { namer := namer } outcomes after ∧
      (session root namer bind count).namer = after.namer := by
  obtain ⟨node, drafted, renders, _⟩ := renders_ledgerAfter rendered
  exact ⟨node, _, drafted, renders, rfl⟩

/-- One more rendering leaves the renderings before it as they are, and starts from the names that
they have left. -/
theorem renders_next
    {root : Json} {namer : Namer} {bind : Bool} {count : Nat}
    {outcomes : List (Except Failure Signature)}
    (rendered : (session root namer bind count).renderings = .ok outcomes) :
    ∃ node outcome, (root.draft root).outcome = .ok node ∧
      (session root namer bind (count + 1)).renderings = .ok (outcomes ++ [outcome]) ∧
      Renders (body root) node { namer := namer } outcomes (ledgerAfter root namer bind count) ∧
      Renders (body root) node (ledgerAfter root namer bind count) [outcome]
        (ledgerAfter root namer bind (count + 1)) := by
  obtain ⟨node, drafted, renders, sameLength⟩ := renders_ledgerAfter rendered
  obtain ⟨extended, after, rendersAll, nextLength, renderedNext, shown⟩ :=
    renders_lastDesk drafted namer bind (count + 1)
  obtain rfl := ledgerAfter_of_shows shown
  rcases List.eq_nil_or_concat extended with rfl | ⟨before, outcome, rfl⟩
  · cases nextLength
  · rw [List.concat_eq_append] at renderedNext rendersAll nextLength
    obtain ⟨middle, rendersBefore, last⟩ := rendersAll.exists_of_concat
    have beforeLength : before.length = outcomes.length := by
      rw [List.length_append, List.length_singleton] at nextLength
      omega
    obtain ⟨rfl, rfl⟩ := renders.unique rendersBefore beforeLength
    exact ⟨node, outcome, drafted, renderedNext, renders, last⟩

/-- The last rendering of a session starts from the names that the renderings before it have left. -/
theorem renders_last
    {root : Json} {namer : Namer} {bind : Bool} {count : Nat}
    {outcomes : List (Except Failure Signature)} {outcome : Except Failure Signature}
    (rendered : (session root namer bind (count + 1)).renderings = .ok (outcomes ++ [outcome])) :
    ∃ node, (root.draft root).outcome = .ok node ∧
      Renders (body root) node { namer := namer } outcomes (ledgerAfter root namer bind count) ∧
      Renders (body root) node (ledgerAfter root namer bind count) [outcome]
        (ledgerAfter root namer bind (count + 1)) := by
  obtain ⟨_, drafted, _, _⟩ := renders_ledgerAfter rendered
  obtain ⟨before, _, _, _, renderedBefore, _⟩ := renders_of_draft_ok drafted namer bind count
  obtain ⟨node, other, drafted, renderedAgain, renders, last⟩ := renders_next renderedBefore
  have same : before ++ [other] = outcomes ++ [outcome] :=
    Except.ok.inj (renderedAgain.symm.trans rendered)
  obtain ⟨rfl, isLast⟩ := List.append_inj' same rfl
  cases isLast
  exact ⟨node, drafted, renders, last⟩

/-- The references that a session gives names to are different and are met in the document, and
their names are different as well. -/
theorem apart_and_numbered (root : Json) (namer : Namer) (bind : Bool) (count : Nat) :
    (ledgerAfter root namer bind count).Apart (IsMet root) ∧
      (ledgerAfter root namer bind count).Numbered namer.stem := by
  have noneApart : Ledger.Apart (IsMet root) { namer := namer } :=
    ⟨List.nodup_nil, fun _ impossible => by cases impossible⟩
  have noneNumbered : Ledger.Numbered namer.stem { namer := namer } :=
    ⟨rfl, List.nodup_nil, fun _ impossible => by cases impossible⟩
  cases drafted : (root.draft root).outcome with
  | error failure =>
      have noNames := (session_of_draft_error drafted namer bind count).2
      rw [ledgerAfter, noNames, session_namer_of_draft_error drafted]
      exact ⟨noneApart, noneNumbered⟩
  | ok node =>
      obtain ⟨outcomes, after, renders, _, _, shown⟩ := renders_lastDesk drafted namer bind count
      obtain rfl := ledgerAfter_of_shows shown
      have headsMet : ∀ reference ∈ node.keys, IsMet root reference :=
        fun reference isKey => isMet_of_mem_keys .document drafted isKey
      have grows := renders.grows (fun _ _ met stands _ isKey => isMet_of_body met stands isKey)
        headsMet
      exact ⟨grows.apart noneApart, grows.numbered noneNumbered⟩

/-- The names that a session has given are still there after more renderings. -/
theorem names_grown
    (root : Json) (namer : Namer) (bind : Bool) {count later : Nat} (atMost : count ≤ later) :
    (lastDesk root namer bind count).names <+: (lastDesk root namer bind later).names := by
  induction atMost with
  | refl => exact List.prefix_rfl
  | @step later _ inductionHypothesis =>
      cases drafted : (root.draft root).outcome with
      | error failure =>
          rw [(session_of_draft_error drafted namer bind count).2]
          exact List.nil_prefix
      | ok node =>
          obtain ⟨_, _, _, _, rendered, _⟩ := renders_of_draft_ok drafted namer bind later
          obtain ⟨_, _, _, _, _, last⟩ := renders_next rendered
          exact inductionHypothesis.trans last.names_grown

/-- A reference that has got a name in a session is rendered as this name from then on, in whatever
way, and nothing else happens. -/
theorem runOn_renderWith_of_mem_names
    {root : Json} {namer : Namer} {bind : Bool} {count later : Nat} {entry : String × String}
    (isNamed : entry ∈ (lastDesk root namer bind count).names) (atMost : count ≤ later)
    (bound : Option Nat) (depth : Nat) (chosen : Option Nat) :
    ((workshop root bound).renderWith depth (.lazy entry.1) chosen).runOn
        (lastDesk root namer bind later) =
      (.ok (.lazy entry.2), lastDesk root namer bind later) := by
  have once := (apart_and_numbered root namer bind later).1.once
  have named : (lastDesk root namer bind later).nameOf? entry.1 = some entry.2 :=
    Table.lookup_eq_some_of_mem once ((names_grown root namer bind atMost).subset isNamed)
  have namedLeaf : ∀ leaf ∈ (Node.lazy entry.1).keys,
      (lastDesk root namer bind later).nameOf? leaf = some entry.2 := by
    intro leaf isLeaf
    rw [List.mem_singleton.mp isLeaf]
    exact named
  have watches (seen : String) (desk : Desk String (List String)) :
      ((workshop root bound).watch seen).runOn desk =
        (.ok (), { desk with own := Function.const String desk.own seen }) := rfl
  exact Workshop.runOn_renderWith_of_named watches namedLeaf

end SchemaSignature.Document
