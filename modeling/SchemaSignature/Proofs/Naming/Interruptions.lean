import SchemaSignature.Proofs.Naming.Growth

/-!
What a visit leaves behind where it breaks off. Every reference that the visit has reached has a name
from then on, and of these references, those that have been visited to the end are declared. The
others are the ones whose expansions were under way, each of which was reached inside the expansion of
the one before.
-/

namespace SchemaSignature

/-- A visit of references breaks off while the references of a chain are being expanded, the outermost
one first. Before each of them, other references have been visited to the end. The visit breaks off
because the last one of the chain stands for no node, or because the number of a name that comes next
is too long. -/
inductive Interrupted (body : String → Except Failure (Node String)) :
    Ledger → List String → List (String × String) → Failure → Ledger → Prop where
  | nameless {ledger middle : Ledger} {earlier rest : List String} {signatures : List Signature}
      {reference : String} {failure : Failure}
      (visited : Visits body ledger earlier signatures middle)
      (unnamed : middle.nameOf? reference = none)
      (tooLong : middle.nextName = .error failure) :
      Interrupted body ledger (earlier ++ reference :: rest) [] failure middle.skip
  | bodiless {ledger middle : Ledger} {earlier rest : List String} {signatures : List Signature}
      {reference name : String} {failure : Failure}
      (visited : Visits body ledger earlier signatures middle)
      (unnamed : middle.nameOf? reference = none)
      (minted : middle.nextName = .ok name)
      (faulty : body reference = .error failure) :
      Interrupted body ledger (earlier ++ reference :: rest) [(reference, name)] failure
        (middle.claim reference name)
  | inside {ledger middle after : Ledger} {earlier rest : List String}
      {signatures : List Signature} {reference name : String} {node : Node String}
      {chain : List (String × String)} {failure : Failure}
      (visited : Visits body ledger earlier signatures middle)
      (unnamed : middle.nameOf? reference = none)
      (minted : middle.nextName = .ok name)
      (stands : body reference = .ok node)
      (deeper : Interrupted body (middle.claim reference name) node.keys chain failure after) :
      Interrupted body ledger (earlier ++ reference :: rest) ((reference, name) :: chain) failure
        after

section Interrupting

variable {body : String → Except Failure (Node String)} {ledger middle after : Ledger}
  {references rest : List String} {signatures : List Signature} {chain : List (String × String)}
  {failure : Failure}

theorem Visits.append_interrupted
    (visited : Visits body ledger references signatures middle)
    (interrupted : Interrupted body middle rest chain failure after) :
    Interrupted body ledger (references ++ rest) chain failure after := by
  cases interrupted with
  | nameless earlier unnamed tooLong =>
      rw [← List.append_assoc]
      exact .nameless (visited.append earlier) unnamed tooLong
  | bodiless earlier unnamed minted faulty =>
      rw [← List.append_assoc]
      exact .bodiless (visited.append earlier) unnamed minted faulty
  | inside earlier unnamed minted stands deeper =>
      rw [← List.append_assoc]
      exact .inside (visited.append earlier) unnamed minted stands deeper

/-- Wherever a visit breaks off, a chain of references is being expanded. -/
theorem Breaks.exists_chain (broken : Breaks body ledger references failure after) :
    ∃ chain, Interrupted body ledger references chain failure after := by
  induction broken with
  | nameless unnamed tooLong => exact ⟨[], .nameless (.done _) unnamed tooLong⟩
  | bodiless unnamed minted faulty => exact ⟨_, .bodiless (.done _) unnamed minted faulty⟩
  | inside unnamed minted stands _ inductionHypothesis =>
      obtain ⟨chain, deeper⟩ := inductionHypothesis
      exact ⟨_, .inside (.done _) unnamed minted stands deeper⟩
  | @afterAgain ledger after reference name rest failure named _ inductionHypothesis =>
      obtain ⟨chain, later⟩ := inductionHypothesis
      have again : Visits body ledger [reference] [.lazy name] ledger := .again named (.done _)
      exact ⟨chain, again.append_interrupted later⟩
  | @afterFirst ledger expanded after reference name rest node parts failure unnamed minted stands
      visited _ inductionHypothesis =>
      obtain ⟨chain, later⟩ := inductionHypothesis
      have first : Visits body ledger [reference] [node.fill parts]
          (expanded.declare name (node.fill parts)) :=
        .first unnamed minted stands visited (.done _)
      exact ⟨chain, first.append_interrupted later⟩

end Interrupting

namespace Ledger

/-- Names have been given to the references that have been reached, and those that have been finished
are declared. Besides, some numbers have been passed over. Nothing else has changed. -/
structure Adds (body : String → Except Failure (Node String)) (ledger after : Ledger)
    (reached finished : List (String × String)) (passed : Nat) : Prop where
  names : after.names = ledger.names ++ reached
  count : after.namer.count = ledger.namer.count + reached.length + passed
  expansions : ∃ entries, after.namer.declarations = ledger.namer.declarations ++ entries ∧
    ∀ entry ∈ entries, ∃ reference node parts, (reference, entry.1) ∈ finished ∧
      body reference = .ok node ∧ parts.length = node.keys.length ∧ entry.2 = node.fill parts
  declared : ∀ name, name ∈ after.namer.declared ↔
    name ∈ ledger.namer.declared ∨ name ∈ finished.map Prod.snd

namespace Adds

variable {body : String → Except Failure (Node String)} {ledger middle after : Ledger}
  {reached finished moreReached moreFinished chain : List (String × String)} {passed morePassed : Nat}

/-- Names and numbers alone, without a change to the table. -/
theorem of_declarations_eq
    (names : after.names = ledger.names ++ reached)
    (count : after.namer.count = ledger.namer.count + reached.length + passed)
    (declarations : after.namer.declarations = ledger.namer.declarations) :
    Adds body ledger after reached [] passed where
  names := names
  count := count
  expansions :=
    ⟨[], declarations.trans (List.append_nil _).symm, fun _ impossible => by cases impossible⟩
  declared name := by
    rw [Namer.declared, declarations, List.map_nil, or_iff_left List.not_mem_nil]
    rfl

theorem refl (ledger : Ledger) : Adds body ledger ledger [] [] 0 :=
  .of_declarations_eq (List.append_nil _).symm rfl rfl

theorem claim (ledger : Ledger) (reference name : String) :
    Adds body ledger (ledger.claim reference name) [(reference, name)] [] 0 :=
  .of_declarations_eq rfl rfl rfl

theorem skip (ledger : Ledger) : Adds body ledger ledger.skip [] [] 1 :=
  .of_declarations_eq (List.append_nil _).symm rfl rfl

theorem declare
    {reference : String} {node : Node String} {parts : List Signature}
    (stands : body reference = .ok node) (sameLength : parts.length = node.keys.length)
    (ledger : Ledger) (name : String) :
    Adds body ledger (ledger.declare name (node.fill parts)) [] [(reference, name)] 0 where
  names := (List.append_nil _).symm
  count := rfl
  expansions := by
    rcases Namer.declarations_declare ledger.namer name (node.fill parts) with old | new
    · exact ⟨[], old.trans (List.append_nil _).symm, fun _ impossible => by cases impossible⟩
    · refine ⟨_, new, fun entry isEntry => ?_⟩
      obtain rfl := List.mem_singleton.mp isEntry
      exact ⟨reference, node, parts, List.mem_cons_self, stands, sameLength, rfl⟩
  declared other := by
    rw [List.map_singleton, List.mem_singleton]
    exact Namer.mem_declared_declare

theorem trans
    (earlier : Adds body ledger middle reached finished passed)
    (later : Adds body middle after moreReached moreFinished morePassed) :
    Adds body ledger after (reached ++ moreReached) (finished ++ moreFinished)
      (passed + morePassed) where
  names := by rw [later.names, earlier.names, List.append_assoc]
  count := by
    rw [later.count, earlier.count, List.length_append]
    omega
  expansions := by
    obtain ⟨entries, grown, expansions⟩ := earlier.expansions
    obtain ⟨moreEntries, grownLater, moreExpansions⟩ := later.expansions
    refine ⟨entries ++ moreEntries, by rw [grownLater, grown, List.append_assoc], ?_⟩
    intro entry isEntry
    rcases List.mem_append.mp isEntry with isEarlier | isLater
    · obtain ⟨reference, node, parts, isFinished, expansion⟩ := expansions entry isEarlier
      exact ⟨reference, node, parts, List.mem_append_left _ isFinished, expansion⟩
    · obtain ⟨reference, node, parts, isFinished, expansion⟩ := moreExpansions entry isLater
      exact ⟨reference, node, parts, List.mem_append_right _ isFinished, expansion⟩
  declared name := by
    rw [later.declared, earlier.declared, List.map_append, List.mem_append, or_assoc]

/-- A name that has not been given is declared if it has been declared before. -/
theorem mem_declared_of_not_given
    (adds : Adds body ledger after reached finished passed) (subset : finished ⊆ reached)
    {name : String} (notGiven : name ∉ after.names.map Prod.snd) :
    name ∈ after.namer.declared ↔ name ∈ ledger.namer.declared := by
  rw [adds.declared, or_iff_left_iff_imp]
  intro isFinished
  rw [adds.names, List.map_append] at notGiven
  exact absurd (List.mem_append_right _ (List.map_subset _ subset isFinished)) notGiven

section Parts

variable (parts : reached.Perm (finished ++ chain)) (different : (reached.map Prod.snd).Nodup)

include parts different

/-- If different names have been given, what has been reached has either been finished or not. -/
theorem mem_finished_iff {entry : String × String} :
    entry ∈ finished ↔ entry ∈ reached ∧ entry ∉ chain := by
  have distinct : (finished ++ chain).Nodup := parts.nodup_iff.mp different.of_map
  rw [parts.mem_iff, List.mem_append]
  constructor
  · intro isFinished
    exact ⟨Or.inl isFinished, fun isUnderWay =>
      (List.nodup_append.mp distinct).2.2 _ isFinished _ isUnderWay rfl⟩
  · rintro ⟨isFinished | isUnderWay, notUnderWay⟩
    · exact isFinished
    · exact absurd isUnderWay notUnderWay

/-- The references without an entry are those that have been reached and not been finished. -/
theorem mem_declared_iff
    (adds : Adds body ledger after reached finished passed) {entry : String × String}
    (isReached : entry ∈ reached) :
    entry.2 ∈ after.namer.declared ↔ entry ∉ chain ∨ entry.2 ∈ ledger.namer.declared := by
  rw [adds.declared, or_comm]
  refine or_congr_left ?_
  constructor
  · intro isFinished
    obtain ⟨other, isOther, sameName⟩ := List.mem_map.mp isFinished
    obtain ⟨otherReached, notUnderWay⟩ := (mem_finished_iff parts different).mp isOther
    obtain rfl := List.inj_on_of_nodup_map different otherReached isReached sameName
    exact notUnderWay
  · intro notUnderWay
    exact List.mem_map.mpr
      ⟨entry, (mem_finished_iff parts different).mpr ⟨isReached, notUnderWay⟩, rfl⟩

end Parts

end Adds

end Ledger

section Visiting

variable {body : String → Except Failure (Node String)} {ledger after : Ledger}
  {references : List String}

open Ledger (Adds)

/-- A visit that does not break off finishes all references that it reaches. -/
theorem Visits.adds
    {signatures : List Signature} (visited : Visits body ledger references signatures after) :
    ∃ reached finished, Adds body ledger after reached finished 0 ∧ reached.Perm finished := by
  induction visited with
  | done ledger => exact ⟨[], [], .refl ledger, .nil⟩
  | again _ _ inductionHypothesis => exact inductionHypothesis
  | @first ledger expanded after reference name rest node parts signatures _ _ stands inside _
      insideHypothesis laterHypothesis =>
      obtain ⟨insideReached, insideFinished, addsInside, same⟩ := insideHypothesis
      obtain ⟨laterReached, laterFinished, addsLater, sameLater⟩ := laterHypothesis
      have adds := (((Adds.claim ledger reference name).trans addsInside).trans
        (.declare stands inside.length_eq expanded name)).trans addsLater
      refine ⟨_, _, adds, ?_⟩
      rw [List.append_nil, List.nil_append]
      refine .append ?_ sameLater
      exact (same.cons (reference, name)).trans (List.perm_append_singleton _ _).symm

/-- A visit that breaks off finishes all references that it reaches, except those of the chain. The
last of the chain stands for no node, or else the number is too long that comes last. -/
theorem Interrupted.adds
    {chain : List (String × String)} {failure : Failure}
    (interrupted : Interrupted body ledger references chain failure after) :
    ∃ reached finished passed, Adds body ledger after reached finished passed ∧
      reached.Perm (finished ++ chain) ∧ chain.Sublist reached ∧
      ((passed = 0 ∧ ∃ last ∈ chain.getLast?, body last.1 = .error failure) ∨
        passed = 1 ∧ failure = .misuse .numberTooLong ∧
          Nat.pow 10 Number.digitLimit ≤ after.namer.count) := by
  induction interrupted with
  | @nameless ledger middle earlier rest signatures reference failure visited _ tooLong =>
      obtain ⟨reached, finished, adds, same⟩ := visited.adds
      have cause := Namer.nameOf_error tooLong
      refine ⟨_, _, _, adds.trans (.skip middle), ?_, List.nil_sublist _, Or.inr ⟨rfl, cause⟩⟩
      rw [List.append_nil, List.append_nil, List.append_nil]
      exact same
  | @bodiless ledger middle earlier rest signatures reference name failure visited _ _ faulty =>
      obtain ⟨reached, finished, adds, same⟩ := visited.adds
      refine ⟨_, _, _, adds.trans (.claim middle reference name), ?_,
        List.sublist_append_right _ _, Or.inl ⟨rfl, (reference, name), rfl, faulty⟩⟩
      rw [List.append_nil]
      exact same.append_right _
  | @inside ledger middle after earlier rest signatures reference name node chain failure visited _
      _ _ _ inductionHypothesis =>
      obtain ⟨reached, finished, adds, same⟩ := visited.adds
      obtain ⟨insideReached, insideFinished, passed, addsInside, parts, inOrder, cause⟩ :=
        inductionHypothesis
      refine ⟨_, _, _, (adds.trans (.claim middle reference name)).trans addsInside, ?_, ?_, ?_⟩
      · rw [List.append_nil, List.append_assoc, List.append_assoc]
        refine .append same ?_
        exact (parts.cons (reference, name)).trans List.perm_middle.symm
      · rw [List.append_assoc]
        exact (inOrder.cons_cons (reference, name)).trans (List.sublist_append_right _ _)
      · rw [Nat.zero_add]
        refine cause.imp_left ?_
        rintro ⟨nonePassed, last, isLast, faulty⟩
        refine ⟨nonePassed, last, ?_, faulty⟩
        rw [List.getLast?_cons, Option.mem_def.mp isLast]
        rfl

/-- However many renderings there are, and whether or not they fail, nothing is finished that has not
been reached. -/
theorem Renders.adds
    {node : Node String} {outcomes : List (Except Failure Signature)}
    (renders : Renders body node ledger outcomes after) :
    ∃ reached finished passed, Adds body ledger after reached finished passed ∧
      finished ⊆ reached := by
  induction renders with
  | done ledger => exact ⟨[], [], 0, .refl ledger, List.Subset.refl _⟩
  | signature visited _ inductionHypothesis =>
      obtain ⟨reached, finished, adds, same⟩ := visited.adds
      obtain ⟨laterReached, laterFinished, passed, addsLater, subset⟩ := inductionHypothesis
      exact ⟨_, _, _, adds.trans addsLater, List.append_subset.mpr
        ⟨List.subset_append_of_subset_left _ same.symm.subset,
          List.subset_append_of_subset_right _ subset⟩⟩
  | failure broken _ inductionHypothesis =>
      obtain ⟨chain, interrupted⟩ := broken.exists_chain
      obtain ⟨reached, finished, _, adds, parts, _, _⟩ := interrupted.adds
      obtain ⟨laterReached, laterFinished, _, addsLater, subset⟩ := inductionHypothesis
      have subsetHere : finished ⊆ reached := fun entry isFinished =>
        parts.mem_iff.mpr (List.mem_append_left chain isFinished)
      exact ⟨_, _, _, adds.trans addsLater, List.append_subset.mpr
        ⟨List.subset_append_of_subset_left _ subsetHere,
          List.subset_append_of_subset_right _ subset⟩⟩

end Visiting

end SchemaSignature
