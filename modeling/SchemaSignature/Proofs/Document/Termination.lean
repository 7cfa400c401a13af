import Mathlib.Data.List.Perm.Subperm
import SchemaSignature.Proofs.Document.Failures
import SchemaSignature.Proofs.Document.Rejections
import SchemaSignature.Proofs.Naming.Expansions
import SchemaSignature.Proofs.Naming.Growth

/-!
Every session ends. Its renderings are signatures or failures that lie in the document or in the
length of a number, and never in the depth to which expansions are nested. What makes it end is that
a reference is expanded at most once in a session, however its renderings come out.
-/

namespace SchemaSignature

/-! ## Drafting does not touch the names -/

/-- A computation reports nothing about names. -/
def Traced.Quiet {result : Type} (computation : Traced result) : Prop :=
  ∀ event ∈ computation.events, event.minted? = none ∧ event.expanded? = none

namespace Traced

variable {first second : Type}

theorem quiet_pure (value : first) : (pure value : Traced first).Quiet := by
  intro event isEvent
  cases isEvent

theorem quiet_ofExcept (outcome : Except Failure first) : (ofExcept outcome).Quiet := by
  intro event isEvent
  cases isEvent

theorem Quiet.bind
    {earlier : Traced first} {later : first → Traced second} (quiet : earlier.Quiet)
    (quietLater : ∀ value, (later value).Quiet) : (earlier >>= later).Quiet := by
  obtain ⟨events, outcome⟩ := earlier
  cases outcome with
  | error failure => exact quiet
  | ok value =>
      intro event isEvent
      rcases List.mem_append.mp isEvent with isEarlier | isLater
      · exact quiet event isEarlier
      · exact quietLater value event isLater

end Traced

namespace Form

section Assembly

variable {draft : Json → Traced Draft} (quiet : ∀ schema, (draft schema).Quiet)

include quiet

theorem quiet_draftAll (members : List Json) : (draftAll draft members).Quiet := by
  induction members with
  | nil => exact Traced.quiet_pure _
  | cons member rest inductionHypothesis =>
      rw [draftAll]
      exact (quiet member).bind fun _ => inductionHypothesis.bind fun _ => Traced.quiet_pure _

theorem quiet_draftProperties (collected : Fields) (listed : List Property) :
    (draftProperties draft collected listed).Quiet := by
  induction listed generalizing collected with
  | nil => exact Traced.quiet_pure _
  | cons property rest inductionHypothesis =>
      rw [draftProperties]
      exact (quiet property.schema).bind fun node => inductionHypothesis (collected.add property node)

theorem quiet_objectNode
    (properties : Except Failure (Option (List Property))) (others : Option Draft) :
    (objectNode draft properties others).Quiet := by
  refine (Traced.quiet_ofExcept properties).bind fun listed => ?_
  cases listed with
  | none =>
      cases others with
      | some node => exact Traced.quiet_ofExcept _
      | none => exact Traced.quiet_pure _
  | some listed =>
      exact (quiet_draftProperties quiet {} listed).bind fun _ => Traced.quiet_ofExcept _

omit quiet in
/-- Members with equal tags are reported, which does not concern the names. -/
theorem quiet_discriminatedNode (tag : Json) (tags : List Json) (members : List Draft) :
    (discriminatedNode tag tags members).Quiet := by
  refine (Traced.quiet_ofExcept _).bind fun table => ?_
  split
  · have logged : (Traced.log (.equalTags tag tags)).Quiet := by
      intro event isEvent
      cases List.mem_singleton.mp isEvent
      exact ⟨rfl, rfl⟩
    exact logged.bind fun _ => Traced.quiet_ofExcept _
  · exact Traced.quiet_ofExcept _

end Assembly

section Forms

variable {draft : Json → Traced Draft}

mutual

theorem quiet_assemble (quiet : ∀ schema, (draft schema).Quiet) :
    (form : Form) → (assemble draft form).Quiet
  | .rejected _ | .values _ _ => by
      rw [assemble]
      exact Traced.quiet_ofExcept _
  | .primitive _ => by
      rw [assemble]
      exact Traced.quiet_pure _
  | .reference target => by
      rw [assemble]
      have logged : (Traced.log (.resolved target)).Quiet := by
        intro event isEvent
        cases List.mem_singleton.mp isEvent
        exact ⟨rfl, rfl⟩
      exact logged.bind fun _ => Traced.quiet_pure _
  | .choice members | .intersection members | .tuple members => by
      rw [assemble]
      exact (quiet_draftAll quiet members).bind fun _ => Traced.quiet_ofExcept _
  | .discriminated tag tags members => by
      rw [assemble]
      exact (quiet_draftAll quiet members).bind fun nodes => quiet_discriminatedNode tag tags nodes
  | .alternatives forms => by
      rw [assemble]
      exact (quiet_assembleAll quiet forms).bind fun _ => Traced.quiet_ofExcept _
  | .object (some schema) properties => by
      rw [assemble]
      exact (quiet schema).bind fun others => quiet_objectNode quiet properties (some others)
  | .object none properties => by
      rw [assemble]
      exact quiet_objectNode quiet properties none
  | .array item => by
      rw [assemble]
      exact (quiet item).bind fun _ => Traced.quiet_ofExcept _

theorem quiet_assembleAll (quiet : ∀ schema, (draft schema).Quiet) :
    (forms : List Form) → (assembleAll draft forms).Quiet
  | [] => by
      rw [assembleAll]
      exact Traced.quiet_pure _
  | form :: rest => by
      rw [assembleAll]
      exact (quiet_assemble quiet form).bind fun _ =>
        (quiet_assembleAll quiet rest).bind fun _ => Traced.quiet_pure _

end

end Forms

end Form

theorem Json.quiet_draft (root schema : Json) : (root.draft schema).Quiet := by
  have bounded (bound : Nat) (schema : Json) : (root.draftWithin bound schema).Quiet := by
    induction bound generalizing schema with
    | zero => exact Traced.quiet_ofExcept _
    | succ bound inductionHypothesis =>
        rw [draftWithin]
        exact Form.quiet_assemble inductionHypothesis (root.form schema)
  exact bounded _ schema

namespace Document

/-! ## The log of a session -/

theorem accounts_report
    {event : Event} (quiet : event.minted? = none ∧ event.expanded? = none) :
    Work.Keeps Desk.Accounts (report event) := by
  have logged (desk : Desk String (List String)) (own : List String) :
      desk.Accounts { desk with own := own, events := desk.events ++ [event] } := by
    refine Desk.accounts_of_same rfl ?_ ?_
    · exact List.filterMap_append.trans (by simp [quiet.1, Desk.mintedNames])
    · exact List.filterMap_append.trans (by simp [quiet.2, Desk.expandedNames])
  intro desk
  cases event with
  | resolved target =>
      by_cases seen : desk.own.contains target = true
      · rw [report, Work.runOn_get_bind, if_pos seen, Work.runOn_pure]
        exact Desk.cumulative_accounts.refl desk
      · rw [report, Work.runOn_get_bind, if_neg seen, Work.runOn_modify_bind, Work.runOn_log]
        exact logged desk _
  | _ => exact logged desk desk.own

theorem accounts_perform
    {result : Type} {computation : Traced result} (quiet : computation.Quiet) :
    Work.Keeps Desk.Accounts (perform computation) := by
  have reported (events : List Event)
      (allQuiet : ∀ event ∈ events, event.minted? = none ∧ event.expanded? = none) :
      Work.Keeps Desk.Accounts (events.forM report : DocumentWork Unit) := by
    induction events with
    | nil => exact Desk.cumulative_accounts.pure ()
    | cons event rest inductionHypothesis =>
        have first := accounts_report (allQuiet event List.mem_cons_self)
        exact Desk.cumulative_accounts.bind first fun _ => inductionHypothesis
          fun other later => allQuiet other (List.mem_cons_of_mem _ later)
  exact Desk.cumulative_accounts.bind (reported computation.events quiet) fun _ =>
    Desk.cumulative_accounts.ofExcept _

theorem steps_workshop (root : Json) (bound : Option Nat) :
    (workshop root bound).Steps Desk.Accounts where
  enter := Desk.accounts_enter
  body target := by
    unfold workshop
    simp only
    split
    · exact accounts_perform (root.quiet_draft _)
    · exact Desk.cumulative_accounts.throw _
  watch _ := Desk.cumulative_accounts.pure ()
  declare := Desk.accounts_declare

theorem accounts_renderings
    (root : Json) (bound : Option Nat) (namer : Nat) (node : Node String) (count : Nat)
    (desk : Desk String (List String)) :
    desk.Accounts (renderings root bound namer node count desk).2 := by
  induction count generalizing desk with
  | zero => exact Desk.cumulative_accounts.refl desk
  | succ count inductionHypothesis =>
      have first := (steps_workshop root bound).renderUnder Desk.cumulative_accounts (depth root)
        namer node desk
      exact Desk.cumulative_accounts.trans first (inductionHypothesis _)

/-- The log of a session has one minted name and one expansion for each reference with a name. -/
theorem accounts_lastDesk (root : Json) (namer : Namer) (bind : Bool) (count : Nat) :
    (desk namer).Accounts (lastDesk root namer bind count) := by
  have drafted := accounts_perform (root.quiet_draft root) (desk namer)
  rw [lastDesk]
  split
  · next failure after ran =>
      rw [documentDraft] at ran
      rw [ran] at drafted
      exact drafted
  · next node after ran =>
      rw [documentDraft] at ran
      rw [ran] at drafted
      exact Desk.cumulative_accounts.trans drafted (accounts_renderings _ _ _ _ _ _)

theorem exists_ledger_lastDesk (root : Json) (namer : Namer) (bind : Bool) (count : Nat) :
    ∃ ledger : Ledger, (lastDesk root namer bind count).names = ledger.names ∧
      ledger.Apart (IsMet root) ∧ ledger.Numbered namer.stem :=
  ⟨ledgerAfter root namer bind count, rfl, apart_and_numbered root namer bind count⟩

theorem apart_lastDesk (root : Json) (namer : Namer) (bind : Bool) (count : Nat) :
    ((lastDesk root namer bind count).names.map Prod.fst).Nodup ∧
      ∀ reference ∈ (lastDesk root namer bind count).names.map Prod.fst,
        reference ∈ root.references := by
  obtain ⟨apart, _⟩ := apart_and_numbered root namer bind count
  exact ⟨apart.once, fun reference isNamed => (apart.known reference isNamed).mem_references⟩

theorem length_renderings
    {root : Json} {namer : Namer} {bind : Bool} {count : Nat}
    {outcomes : List (Except Failure Signature)}
    (rendered : (session root namer bind count).renderings = .ok outcomes) :
    outcomes.length = count := by
  obtain ⟨_, _, _, sameLength⟩ := renders_ledgerAfter rendered
  exact sameLength

/-- A session fails, if it does, for a reason that lies in the document or in the length of a
number. -/
theorem isRefusal_of_failsWith
    {root : Json} {namer : Namer} {bind : Bool} {count : Nat} {failure : Failure}
    (failed : (session root namer bind count).FailsWith failure) : failure.IsRefusal := by
  rcases cause_of_failsWith failed with ⟨schema, _, faulty⟩ | ⟨rfl, _⟩
  · exact (Form.faultsOnly_form root schema failure faulty).isRefusal
  · trivial

/-- Every session ends, with as many renderings as were asked for or without any. Each rendering is a
signature or a failure that lies in the document or in the length of a number. Over the whole session
each reference is expanded at most once, so that there are no more names than different references
in the document. -/
theorem session_ends (root : Json) (namer : Namer) (bind : Bool) (count : Nat) :
    (∀ outcomes, (session root namer bind count).renderings = .ok outcomes →
        outcomes.length = count) ∧
      (∀ failure, (session root namer bind count).FailsWith failure →
        failure.IsRefusal ∧ failure ≠ .outOfFuel) ∧
      ((lastDesk root namer bind count).names.map Prod.fst).Nodup ∧
      (∀ reference ∈ (lastDesk root namer bind count).names.map Prod.fst,
        reference ∈ root.references) ∧
      (session root namer bind count).events.filterMap Event.expanded? =
        (lastDesk root namer bind count).names.map Prod.snd ∧
      (session root namer bind count).events.filterMap Event.minted? =
        (lastDesk root namer bind count).names.map Prod.snd ∧
      (lastDesk root namer bind count).names.length ≤ root.references.eraseDups.length := by
  obtain ⟨once, listed⟩ := apart_lastDesk root namer bind count
  obtain ⟨entered, names, minted, expanded⟩ := accounts_lastDesk root namer bind count
  have sameNames : (lastDesk root namer bind count).names = entered := names
  refine ⟨fun _ rendered => length_renderings rendered, ?_, once, listed, ?_, ?_, ?_⟩
  · intro failure failed
    have isRefusal := isRefusal_of_failsWith failed
    refine ⟨isRefusal, ?_⟩
    rintro rfl
    exact isRefusal
  · rw [session_events, sameNames]
    exact expanded
  · rw [session_events, sameNames]
    exact minted
  · have among := List.subperm_of_subset once fun reference isNamed =>
      List.mem_eraseDups.mpr (listed reference isNamed)
    have bounded := among.length_le
    rw [List.length_map] at bounded
    exact bounded

end Document

end SchemaSignature
