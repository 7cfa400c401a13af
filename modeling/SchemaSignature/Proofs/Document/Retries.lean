import SchemaSignature.Proofs.Document.Sessions
import SchemaSignature.Proofs.Naming.Pending
import SchemaSignature.Proofs.Naming.Visits

/-!
Rendering a document again, and which of the names that it shows can be looked up. As long as no
rendering fails, all of them. A failed rendering leaves the references whose expansions were under way
with a name and without an entry, for the rest of the session: a rendering that is tried again shows
such a name, and the table does not have it. After a rendering that has come to a signature the next
one comes to a signature too, and it leaves the namer as it is.
-/

namespace SchemaSignature.Document

/-- The references that have a name without an entry at the end of a session, with their names. -/
def pending (root : Json) (namer : Namer) (bind : Bool) (count : Nat) : List (String × String) :=
  Ledger.pending
    { names := (lastDesk root namer bind count).names
      namer := (session root namer bind count).namer }

section Retrying

variable {root : Json} {namer : Namer} {bind : Bool} {count : Nat}
  {outcomes : List (Except Failure Signature)}

theorem kept_fresh (fresh : namer.declarations = []) :
    Ledger.Kept namer.stem { namer := namer } := by
  refine ⟨⟨rfl, List.nodup_nil, fun _ impossible => by cases impossible⟩, ?_, ?_⟩
  · intro name isDeclared
    rw [Namer.declared, fresh] at isDeclared
    cases isDeclared
  · intro entry isEntry
    rw [fresh] at isEntry
    cases isEntry

theorem exists_renders_pending
    (rendered : (session root namer bind count).renderings = .ok outcomes) :
    ∃ node after, (root.draft root).outcome = .ok node ∧
      Renders (body root) node { namer := namer } outcomes after ∧ outcomes.length = count ∧
      (session root namer bind count).namer = after.namer ∧
      pending root namer bind count = after.pending := by
  obtain ⟨node, drafted, renders, sameLength⟩ := renders_ledgerAfter rendered
  exact ⟨node, _, drafted, renders, sameLength, rfl, rfl⟩

theorem exists_next_rendering
    (rendered : (session root namer bind count).renderings = .ok outcomes) :
    ∃ node middle after outcome, (root.draft root).outcome = .ok node ∧
      (session root namer bind (count + 1)).renderings = .ok (outcomes ++ [outcome]) ∧
      Renders (body root) node { namer := namer } outcomes middle ∧
      Renders (body root) node middle [outcome] after ∧
      pending root namer bind count = middle.pending ∧
      pending root namer bind (count + 1) = after.pending ∧
      (session root namer bind (count + 1)).namer = after.namer := by
  obtain ⟨node, outcome, drafted, renderedNext, renders, last⟩ := renders_next rendered
  exact ⟨node, _, _, outcome, drafted, renderedNext, renders, last, rfl, rfl, rfl⟩

/-- What one more rendering with a namer that was fresh shows and leaves behind. After a signature,
the names in it and in the recorded expansions have an entry, except those that were pending before,
and the same names are pending. After a failure, the references whose expansions it has ended are
pending too. Nothing is pending before the first failure. -/
theorem lookup_unless_pending
    (fresh : namer.declarations = [])
    (rendered : (session root namer bind count).renderings = .ok outcomes) :
    ∃ outcome, (session root namer bind (count + 1)).renderings = .ok (outcomes ++ [outcome]) ∧
      ((∀ failure, .error failure ∉ outcomes) → pending root namer bind count = []) ∧
      (∀ signature, outcome = .ok signature →
        pending root namer bind (count + 1) = pending root namer bind count ∧
        ∀ leaf, (leaf ∈ signature.keys ∨
            ∃ entry ∈ (session root namer bind (count + 1)).namer.declarations,
              leaf ∈ entry.2.keys) →
          (leaf ∈ (session root namer bind (count + 1)).namer.declared ↔
            leaf ∉ (pending root namer bind count).map Prod.snd)) ∧
      ∀ failure, outcome = .error failure →
        ∃ (node : Node String) (chain : List (String × String)),
          (root.draft root).outcome = .ok node ∧
          BrokenOff (body root) node.keys (chain.map Prod.fst) failure ∧
          pending root namer bind (count + 1) = pending root namer bind count ++ chain := by
  obtain ⟨node, middle, after, outcome, drafted, renderedNext, before, last, pendingBefore,
    pendingAfter, namerAfter⟩ := exists_next_rendering rendered
  have keptStart := kept_fresh fresh
  have keptMiddle := before.kept keptStart
  refine ⟨outcome, renderedNext, ?_, ?_, ?_⟩
  · intro noneFails
    rw [pendingBefore]
    exact before.pending_eq keptStart noneFails
  · rintro signature rfl
    cases last with
    | signature visited later =>
        cases later
        obtain ⟨keptAfter, settled, leaves⟩ := visited.keeps keptMiddle
        refine ⟨by rw [pendingAfter, settled, pendingBefore], ?_⟩
        intro leaf isShown
        rw [namerAfter] at isShown ⊢
        have isGiven : leaf ∈ after.given := by
          rcases isShown with isLeaf | ⟨entry, isEntry, isLeaf⟩
          · obtain ⟨part, isPart, isLeaf⟩ := (Node.mem_keys_fill visited.length_eq).mp isLeaf
            exact leaves part isPart leaf isLeaf
          · exact keptAfter.leaves entry isEntry leaf isLeaf
        rw [Ledger.mem_declared_iff isGiven, settled, pendingBefore]
  · rintro failure rfl
    cases last with
    | failure broken later =>
        cases later
        obtain ⟨_, chain, brokenOff, grown⟩ := broken.keeps keptMiddle
        exact ⟨node, chain, drafted, brokenOff, by rw [pendingAfter, grown, pendingBefore]⟩

end Retrying

/-- A document whose only definition has a type that does not exist. -/
def misspelledDefinition : Json :=
  .obj [("$ref", .str "#/$defs/A"),
    ("$defs", .obj [("A", .obj [("type", .str "bogus")])])]

/-- The second rendering shows the name that the first one has given, and it is not declared. -/
theorem retried_misspelledDefinition :
    (session misspelledDefinition Namer.standard true 2).renderings =
        .ok [.error (.unsupportedType (.str "bogus")), .ok (.lazy "$Ref1")] ∧
      "$Ref1" ∉ (session misspelledDefinition Namer.standard true 2).namer.declared := by
  refine ⟨rfl, ?_⟩
  have empty : (session misspelledDefinition Namer.standard true 2).namer.declared = [] := rfl
  rw [empty]
  exact List.not_mem_nil

theorem lookup_unless_pending_misspelled :
    Namer.standard.declarations = [] ∧
    (session misspelledDefinition Namer.standard true 1).renderings =
      .ok [.error (.unsupportedType (.str "bogus"))] ∧
    pending misspelledDefinition Namer.standard true 1 = [("#/$defs/A", "$Ref1")] ∧
    ∃ outcome, (session misspelledDefinition Namer.standard true 2).renderings =
        .ok [.error (.unsupportedType (.str "bogus")), outcome] ∧
      ∀ signature, outcome = .ok signature →
        pending misspelledDefinition Namer.standard true 2 = [("#/$defs/A", "$Ref1")] := by
  have fresh : Namer.standard.declarations = [] := rfl
  have failedOnce : (session misspelledDefinition Namer.standard true 1).renderings =
      .ok [.error (.unsupportedType (.str "bogus"))] := rfl
  have waits : pending misspelledDefinition Namer.standard true 1 = [("#/$defs/A", "$Ref1")] := rfl
  obtain ⟨outcome, renderedNext, _, settles, _⟩ := lookup_unless_pending fresh failedOnce
  refine ⟨fresh, failedOnce, waits, outcome, renderedNext, ?_⟩
  intro signature isSignature
  rw [← waits]
  exact (settles signature isSignature).1

/-! ## After a signature -/

variable {root : Json} {namer : Namer} {bind : Bool} {count : Nat}
  {signature : Signature}

/-- A rendering that follows on a signature is a signature, and changes nothing in the namer. -/
theorem exists_repeated_rendering
    (outcomes : List (Except Failure Signature))
    (rendered : (session root namer bind count).renderings = .ok (outcomes ++ [.ok signature])) :
    ∃ again : Signature,
      (session root namer bind (count + 1)).renderings =
        .ok (outcomes ++ [.ok signature] ++ [.ok again]) ∧
      (session root namer bind (count + 1)).namer = (session root namer bind count).namer := by
  obtain ⟨node, middle, after, outcome, drafted, renderedNext, before, last, _, _, namerAfter⟩ :=
    exists_next_rendering rendered
  obtain ⟨_, _, sameDrafted, rendersSame, _, namerBefore, _⟩ :=
    exists_renders_pending rendered
  cases drafted.symm.trans sameDrafted
  obtain ⟨_, sameEnd⟩ := before.unique rendersSame rfl
  have named : ∀ reference ∈ node.keys, ∃ name, middle.nameOf? reference = some name := by
    obtain ⟨start, _, lastBefore⟩ := before.exists_of_concat
    cases lastBefore with
    | signature visited later =>
        cases later
        exact Ledger.nameOf?_of_visits visited
  cases last with
  | failure broken _ => exact absurd broken (Ledger.not_breaks_of_named named)
  | signature visited later =>
      cases later
      have unchanged := Ledger.eq_of_visits_named visited named
      exact ⟨_, renderedNext, by rw [namerAfter, namerBefore, unchanged, sameEnd]⟩

end SchemaSignature.Document
