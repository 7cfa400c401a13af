import Mathlib.Logic.Relation
import SchemaSignature.Proofs.Naming.Causes

/-!
How names grow. Whatever is rendered, and whether or not it breaks off, the names change in three ways
only: a reference without a name is given the next one, a number that is too long to be written is
passed over, and something is declared. So what each of these preserves holds after any number of
renderings.
-/

namespace SchemaSignature

namespace Ledger

/-- One change of the names, while references of a certain kind are rendered. -/
inductive Step (known : String → Prop) : Ledger → Ledger → Prop where
  | claim {ledger : Ledger} {reference name : String}
      (isKnown : known reference)
      (unnamed : ledger.nameOf? reference = none)
      (minted : ledger.nextName = .ok name) :
      Step known ledger (ledger.claim reference name)
  | skip (ledger : Ledger) : Step known ledger ledger.skip
  | declare (ledger : Ledger) (name : String) (expansion : Signature) :
      Step known ledger (ledger.declare name expansion)

abbrev Grows (known : String → Prop) : Ledger → Ledger → Prop :=
  Relation.ReflTransGen (Step known)

theorem Grows.preserves
    {known : String → Prop} {holds : Ledger → Prop}
    (step : ∀ ledger after, Step known ledger after → holds ledger → holds after)
    {ledger after : Ledger} (grows : Grows known ledger after) (start : holds ledger) :
    holds after := by
  induction grows with
  | refl => exact start
  | tail _ last inductionHypothesis => exact step _ _ last inductionHypothesis

end Ledger

open Ledger (Grows)

section Visiting

variable {body : String → Except Failure (Node String)} {known : String → Prop}
  (closed : ∀ reference node, known reference → body reference = .ok node →
    ∀ inside ∈ node.keys, known inside)

include closed

theorem Visits.grows
    {ledger after : Ledger} {references : List String} {signatures : List Signature}
    (visited : Visits body ledger references signatures after)
    (allKnown : ∀ reference ∈ references, known reference) : Grows known ledger after := by
  induction visited with
  | done => exact .refl
  | again _ _ inductionHypothesis =>
      exact inductionHypothesis fun other isRest => allKnown other (List.mem_cons_of_mem _ isRest)
  | @first ledger expanded after reference name rest node parts signatures unnamed minted stands _ _
      inside later =>
      have isKnown := allKnown reference List.mem_cons_self
      have restKnown : ∀ other ∈ rest, known other :=
        fun other isRest => allKnown other (List.mem_cons_of_mem _ isRest)
      have claimed : Grows known ledger (ledger.claim reference name) :=
        .single (.claim isKnown unnamed minted)
      have expands := inside (closed reference node isKnown stands)
      have declares : Grows known expanded (expanded.declare name (node.fill parts)) :=
        .single (.declare _ _ _)
      exact claimed.trans (expands.trans (declares.trans (later restKnown)))

theorem Breaks.grows
    {ledger after : Ledger} {references : List String} {failure : Failure}
    (broken : Breaks body ledger references failure after)
    (allKnown : ∀ reference ∈ references, known reference) : Grows known ledger after := by
  induction broken with
  | nameless => exact .single (.skip _)
  | bodiless unnamed minted _ =>
      exact .single (.claim (allKnown _ List.mem_cons_self) unnamed minted)
  | @inside ledger after reference name rest node failure unnamed minted stands _
      inductionHypothesis =>
      have isKnown := allKnown reference List.mem_cons_self
      have claimed : Grows known ledger (ledger.claim reference name) :=
        .single (.claim isKnown unnamed minted)
      exact claimed.trans (inductionHypothesis (closed reference node isKnown stands))
  | afterAgain _ _ inductionHypothesis =>
      exact inductionHypothesis fun other isRest => allKnown other (List.mem_cons_of_mem _ isRest)
  | @afterFirst ledger expanded after reference name rest node parts failure unnamed minted stands
      visited _ inductionHypothesis =>
      have single : Visits body ledger [reference] [node.fill parts]
          (expanded.declare name (node.fill parts)) :=
        .first unnamed minted stands visited (.done _)
      have expands := single.grows closed fun other isOnly =>
        List.mem_singleton.mp isOnly ▸ allKnown reference List.mem_cons_self
      exact expands.trans
        (inductionHypothesis fun other isRest => allKnown other (List.mem_cons_of_mem _ isRest))

/-- However many renderings there are, the names grow step by step. -/
theorem Renders.grows
    {node : Node String} {ledger after : Ledger} {outcomes : List (Except Failure Signature)}
    (renders : Renders body node ledger outcomes after)
    (allKnown : ∀ reference ∈ node.keys, known reference) : Grows known ledger after := by
  induction renders with
  | done => exact .refl
  | signature visited _ inductionHypothesis =>
      exact (visited.grows closed allKnown).trans inductionHypothesis
  | failure broken _ inductionHypothesis =>
      exact (broken.grows closed allKnown).trans inductionHypothesis

end Visiting

/-! ## Names that are different -/

namespace Ledger

/-- The references with a name are different, and of the kind that is rendered. -/
structure Apart (known : String → Prop) (ledger : Ledger) : Prop where
  once : (ledger.names.map Prod.fst).Nodup
  known : ∀ reference ∈ ledger.names.map Prod.fst, known reference

/-- The names are different, and numbered up to the count of the namer. -/
structure Numbered (stem : String) (ledger : Ledger) : Prop where
  sameStem : ledger.namer.stem = stem
  different : (ledger.names.map Prod.snd).Nodup
  counted : ∀ name ∈ ledger.names.map Prod.snd,
    ∃ number ≤ ledger.namer.count, name = Namer.numbered stem number

variable {known : String → Prop} {ledger after : Ledger}

theorem Step.apart (step : Step known ledger after) (apart : ledger.Apart known) :
    after.Apart known := by
  cases step with
  | @claim reference name isKnown unnamed minted =>
      refine ⟨Table.nodup_keys_concat apart.once unnamed name, ?_⟩
      intro other isNamed
      rw [Ledger.claim, List.map_append] at isNamed
      rcases List.mem_append.mp isNamed with isOld | isLast
      · exact apart.known other isOld
      · exact List.mem_singleton.mp isLast ▸ isKnown
  | skip => exact ⟨apart.once, apart.known⟩
  | declare => exact ⟨apart.once, apart.known⟩

theorem Step.numbered {stem : String} (step : Step known ledger after)
    (numbered : ledger.Numbered stem) : after.Numbered stem := by
  cases step with
  | @claim reference name isKnown unnamed minted =>
      have isNext : name = Namer.numbered stem (ledger.namer.count + 1) := by
        rw [← numbered.sameStem]
        exact Namer.eq_numbered_of_nameOf minted
      have isNew : name ∉ ledger.names.map Prod.snd := by
        intro isOld
        obtain ⟨number, counted, same⟩ := numbered.counted name isOld
        have sameNumber := Namer.numbered_injective stem (isNext.symm.trans same)
        omega
      refine ⟨numbered.sameStem, ?_, ?_⟩
      · rw [Ledger.claim, List.map_append, List.map_singleton]
        refine List.nodup_append.mpr ⟨numbered.different, List.nodup_singleton _, ?_⟩
        intro old isOld last isLast same
        rw [same, List.mem_singleton.mp isLast] at isOld
        exact isNew isOld
      · intro other isNamed
        rw [Ledger.claim, List.map_append] at isNamed
        rcases List.mem_append.mp isNamed with isOld | isLast
        · obtain ⟨number, counted, same⟩ := numbered.counted other isOld
          exact ⟨number, Nat.le_succ_of_le counted, same⟩
        · exact ⟨ledger.namer.count + 1, Nat.le_refl _, (List.mem_singleton.mp isLast).trans isNext⟩
  | skip =>
      refine ⟨numbered.sameStem, numbered.different, ?_⟩
      intro name isNamed
      obtain ⟨number, counted, same⟩ := numbered.counted name isNamed
      exact ⟨number, Nat.le_succ_of_le counted, same⟩
  | declare => exact ⟨numbered.sameStem, numbered.different, numbered.counted⟩

theorem Step.count_le (step : Step known ledger after) :
    ledger.namer.count ≤ after.namer.count := by
  cases step with
  | claim | skip => exact Nat.le_succ _
  | declare => exact Nat.le_refl _

theorem Grows.count_le (grows : Grows known ledger after) :
    ledger.namer.count ≤ after.namer.count := by
  induction grows with
  | refl => exact Nat.le_refl _
  | tail _ last inductionHypothesis => exact Nat.le_trans inductionHypothesis last.count_le

theorem Step.names_grown (step : Step known ledger after) : ledger.names <+: after.names := by
  cases step with
  | claim => exact List.prefix_append _ _
  | skip | declare => exact List.prefix_rfl

theorem Grows.names_grown (grows : Grows known ledger after) : ledger.names <+: after.names := by
  induction grows with
  | refl => exact List.prefix_rfl
  | tail _ last inductionHypothesis => exact inductionHypothesis.trans last.names_grown

theorem Grows.apart (grows : Grows known ledger after) (apart : ledger.Apart known) :
    after.Apart known :=
  grows.preserves (fun _ _ => Step.apart) apart

theorem Grows.numbered {stem : String} (grows : Grows known ledger after)
    (numbered : ledger.Numbered stem) : after.Numbered stem :=
  grows.preserves (fun _ _ => Step.numbered) numbered

end Ledger

section Rendering

variable {body : String → Except Failure (Node String)} {node : Node String} {ledger after : Ledger}
  {outcomes : List (Except Failure Signature)}

theorem Renders.grows_of_any (renders : Renders body node ledger outcomes after) :
    Grows (fun _ => True) ledger after :=
  renders.grows (fun _ _ _ _ _ _ => trivial) fun _ _ => trivial

/-- The count does not fall, however many renderings there are. -/
theorem Renders.count_le (renders : Renders body node ledger outcomes after) :
    ledger.namer.count ≤ after.namer.count :=
  renders.grows_of_any.count_le

theorem Renders.names_grown (renders : Renders body node ledger outcomes after) :
    ledger.names <+: after.names :=
  renders.grows_of_any.names_grown

end Rendering

end SchemaSignature
