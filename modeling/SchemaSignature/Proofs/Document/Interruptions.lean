import SchemaSignature.Proofs.Document.Failures
import SchemaSignature.Proofs.Naming.Interruptions

/-!
What a failed rendering of a document leaves behind. What there was before stays. The references that
the rendering has reached have got the next names, and all of them are declared but the ones that were
being expanded when the rendering failed. These are known by their bare names from then on.
-/

namespace SchemaSignature.Document

section Interrupting

variable {root : Json} {namer : Namer} {bind : Bool} {count : Nat}

/-- What a failed rendering leaves behind that comes after a number of others. It has given names to
the references reached, in this order, and those of the chain were being expanded when it failed, the
outermost one first. -/
structure Interruption (root : Json) (namer : Namer) (bind : Bool) (count : Nat)
    (failure : Failure) (reached chain : List (String × String)) : Prop where
  /-- Each reference of the chain is reached inside the expansion of the one before, and references
  that are visited before it are visited to the end. -/
  interrupted : ∃ node, (root.draft root).outcome = .ok node ∧
    Interrupted (body root) (ledgerAfter root namer bind count) node.keys chain failure
      (ledgerAfter root namer bind (count + 1))
  names : (lastDesk root namer bind (count + 1)).names =
    (lastDesk root namer bind count).names ++ reached
  inOrder : chain.Sublist reached
  expansions : ∃ entries, (session root namer bind (count + 1)).namer.declarations =
      (session root namer bind count).namer.declarations ++ entries ∧
    ∀ entry ∈ entries, ∃ reference node parts, (reference, entry.1) ∈ reached ∧
      (reference, entry.1) ∉ chain ∧ body root reference = .ok node ∧
      parts.length = node.keys.length ∧ entry.2 = node.fill parts
  /-- A name that is declared from the start stays so, also if it is given to a reference. -/
  declared : ∀ entry ∈ reached,
    entry.2 ∈ (session root namer bind (count + 1)).namer.declared ↔
      entry ∉ chain ∨ entry.2 ∈ namer.declared
  counted :
    ((session root namer bind (count + 1)).namer.count =
        (session root namer bind count).namer.count + reached.length ∧
      ∃ last ∈ chain.getLast?, body root last.1 = .error failure) ∨
    (session root namer bind (count + 1)).namer.count =
        (session root namer bind count).namer.count + reached.length + 1 ∧
      failure = .misuse .numberTooLong ∧
      Nat.pow 10 Number.digitLimit ≤ (session root namer bind (count + 1)).namer.count
  again : ∀ later, count < later → ∀ entry ∈ chain, ∀ bound depth chosen,
    ((workshop root bound).renderWith depth (.lazy entry.1) chosen).runOn
        (lastDesk root namer bind later) =
      (.ok (.lazy entry.2), lastDesk root namer bind later)

/-- Whichever rendering of a session fails, this is what it leaves behind. -/
theorem exists_interruption
    {outcomes : List (Except Failure Signature)} {failure : Failure}
    (failed : (session root namer bind (count + 1)).renderings = .ok (outcomes ++ [.error failure])) :
    ∃ reached chain, Interruption root namer bind count failure reached chain := by
  obtain ⟨node, drafted, before, last⟩ := renders_last failed
  have numbered := (apart_and_numbered root namer bind (count + 1)).2
  obtain ⟨_, _, _, addsBefore, subsetBefore⟩ := before.adds
  cases last with
  | failure broken later =>
      cases later
      obtain ⟨chain, interrupted⟩ := broken.exists_chain
      obtain ⟨reached, finished, passed, adds, parts, inOrder, cause⟩ := interrupted.adds
      have givenApart := numbered.different
      rw [adds.names, List.map_append] at givenApart
      obtain ⟨_, different, givenNew⟩ := List.nodup_append.mp givenApart
      refine ⟨reached, chain,
        { interrupted := ⟨node, drafted, interrupted⟩
          names := adds.names
          inOrder := inOrder
          expansions := ?expansions
          declared := ?declared
          counted := ?counted
          again := ?again }⟩
      case expansions =>
        obtain ⟨entries, grown, expansions⟩ := adds.expansions
        refine ⟨entries, grown, fun entry isEntry => ?_⟩
        obtain ⟨reference, target, signatures, isFinished, expansion⟩ := expansions entry isEntry
        obtain ⟨isReached, notUnderWay⟩ :=
          (Ledger.Adds.mem_finished_iff parts different).mp isFinished
        exact ⟨reference, target, signatures, isReached, notUnderWay, expansion⟩
      case declared =>
        intro entry isReached
        have isName : entry.2 ∈ reached.map Prod.snd := List.mem_map.mpr ⟨entry, isReached, rfl⟩
        have notGiven : entry.2 ∉ (ledgerAfter root namer bind count).names.map Prod.snd :=
          fun isGiven => givenNew _ isGiven _ isName rfl
        -- the renderings before have declared only what they have named
        have fromStart := addsBefore.mem_declared_of_not_given subsetBefore notGiven
        have isDeclared := adds.mem_declared_iff parts different isReached
        rw [fromStart] at isDeclared
        exact isDeclared
      case counted =>
        have counted := adds.count
        rcases cause with ⟨rfl, faulty⟩ | ⟨rfl, tooLong⟩
        · exact Or.inl ⟨counted, faulty⟩
        · exact Or.inr ⟨counted, tooLong⟩
      case again =>
        intro later isLater entry isUnderWay bound depth chosen
        have isNamed : entry ∈ (ledgerAfter root namer bind (count + 1)).names := by
          rw [adds.names]
          exact List.mem_append_right _ (inOrder.subset isUnderWay)
        exact runOn_renderWith_of_mem_names isNamed isLater bound depth chosen

end Interrupting

/-- A document with two fields. The first one is drafted without a fault; inside the second one is
another field, of a type that does not exist. -/
def misspelledInside : Json :=
  .obj [("type", .str "object"),
    ("properties", .obj [
      ("name", .obj [("$ref", .str "#/$defs/Name")]),
      ("box", .obj [("$ref", .str "#/$defs/Box")])]),
    ("$defs", .obj [
      ("Name", .obj [("type", .str "string")]),
      ("Box", .obj [("type", .str "object"),
        ("properties", .obj [("size", .obj [("$ref", .str "#/$defs/Size")])])]),
      ("Size", .obj [("type", .str "bogus")])])]

theorem exists_interruption_misspelledInside :
    (session misspelledInside Namer.standard true 1).renderings =
        .ok ([] ++ [.error (.unsupportedType (.str "bogus"))]) ∧
      ∃ chain, Interruption misspelledInside Namer.standard true 0
        (.unsupportedType (.str "bogus"))
        [("#/$defs/Name", "$Ref1"), ("#/$defs/Box", "$Ref2"), ("#/$defs/Size", "$Ref3")] chain := by
  have failed : (session misspelledInside Namer.standard true 1).renderings =
      .ok ([] ++ [.error (.unsupportedType (.str "bogus"))]) := rfl
  obtain ⟨reached, chain, interruption⟩ := exists_interruption failed
  obtain rfl :
      [("#/$defs/Name", "$Ref1"), ("#/$defs/Box", "$Ref2"), ("#/$defs/Size", "$Ref3")] = reached :=
    interruption.names
  exact ⟨failed, chain, interruption⟩

/-- Where the next number is too long, the count goes up although no reference gets a name, so that
nothing is being expanded when the rendering fails. The next rendering fails as well. -/
theorem counted_without_name :
    (session referredWord exhaustedNamer true 1).renderings =
        .ok [.error (.misuse .numberTooLong)] ∧
      (lastDesk referredWord exhaustedNamer true 1).names = [] ∧
      (session referredWord exhaustedNamer true 1).namer.count = exhaustedNamer.count + 1 ∧
      (session referredWord exhaustedNamer true 2).renderings =
        .ok [.error (.misuse .numberTooLong), .error (.misuse .numberTooLong)] := by
  obtain ⟨failed, counted, noNames⟩ := session_referredWord_exhausted true 1
  obtain ⟨failedAgain, _, _⟩ := session_referredWord_exhausted true 2
  exact ⟨failed, noNames, congrArg Namer.count counted, failedAgain⟩

end SchemaSignature.Document
