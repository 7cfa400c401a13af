import SchemaSignature.Proofs.Document.Failures
import SchemaSignature.Proofs.Document.Formation
import SchemaSignature.Proofs.Document.Reading
import SchemaSignature.Proofs.Naming.Growth
import SchemaSignature.Proofs.Signature.Likeness

/-!
Signatures of documents can be read back. Every rendering of a document that lists no floats, with
names that have the standard stem, is legible in its canonical form. So two such renderings have the
same text exactly if they have the same canonical form.
-/

namespace SchemaSignature

/-! ## Formed signatures -/

/-- A name consists of a stem and a number. -/
def Namer.IsNumbered (stem name : String) : Prop :=
  ∃ number, name = numbered stem number

/-- What a namer has declared are names with a stem and a number, and formed signatures. -/
def Namer.DeclaresFormed (stem : String) (listed : Literal → Prop) (namer : Namer) : Prop :=
  ∀ entry ∈ namer.declarations,
    IsNumbered stem entry.1 ∧ entry.2.Formed (IsNumbered stem) listed

namespace Node

/-- The canonical form of a formed signature is legible. -/
theorem Formed.legible
    {signature : Signature}
    (formed : signature.Formed (Namer.IsNumbered Namer.defaultStem) Literal.NotFloat) :
    signature.canonical.Legible := by
  induction formed with
  | primitive kind =>
      have unknown : Legible (.primitive .unknown) := .word (by decide)
      cases kind with
      | unknownArray => exact .container unknown
      | unknownRecord => exact .container unknown
      | _ => exact .word (by decide)
  | literals present each => exact .literals present each
  | fields properties _ inductionHypothesis =>
      rw [canonical, canonicalEntries_eq_map]
      refine .fields ?_ ?_
      · intro entry isEntry
        obtain ⟨original, isOriginal, rfl⟩ := List.mem_map.mp isEntry
        exact properties original isOriginal
      · intro entry isEntry
        obtain ⟨original, isOriginal, rfl⟩ := List.mem_map.mp isEntry
        exact inductionHypothesis original isOriginal
  | container _ inductionHypothesis => exact .container inductionHypothesis
  | @group kind members enough _ inductionHypothesis =>
      rw [canonical, canonicalMembers_eq_map]
      have each : ∀ member ∈ members.map canonical, Legible member := by
        intro member isMember
        obtain ⟨original, isOriginal, rfl⟩ := List.mem_map.mp isMember
        exact inductionHypothesis original isOriginal
      have enoughHere : kind.least ≤ (members.map canonical).length := by
        rw [List.length_map]
        exact enough
      cases kind with
      | tuple => exact .tuple each
      | intersection => exact .intersection enoughHere each
      | sum => exact .union (List.ne_nil_of_length_pos enoughHere) each
      | union => exact .union (List.ne_nil_of_length_pos enoughHere) each
  | lazy isNamed =>
      obtain ⟨number, rfl⟩ := isNamed
      exact .reference number

theorem Formed.of_fill
    {key other : Type} {known : key → Prop} {named : other → Prop} {listed : Literal → Prop}
    {node : Node key} (formed : node.Formed known listed) {parts : List (Node other)}
    (sameLength : parts.length = node.keys.length)
    (each : ∀ part ∈ parts, part.Formed named listed) :
    (node.fill parts).Formed named listed :=
  formed.of_fillsTo ⟨parts, List.forall₂_iff_zip.mpr
    ⟨sameLength.symm, fun isPair => each _ (List.of_mem_zip isPair).2⟩, rfl⟩

end Node

/-! ## Renderings -/

section Renderings

variable {body : String → Except Failure (Node String)} {stem : String}

theorem Ledger.Numbered.isNumbered_of_nameOf?
    {ledger : Ledger} (isNumbered : ledger.Numbered stem) {reference name : String}
    (named : ledger.nameOf? reference = some name) : Namer.IsNumbered stem name := by
  obtain ⟨before, after, names, _⟩ := List.lookup_eq_some_iff.mp named
  have isEntry : (reference, name) ∈ ledger.names := by
    rw [names]
    exact List.mem_append_right _ List.mem_cons_self
  have isNamed : name ∈ ledger.names.map Prod.snd := List.mem_map.mpr ⟨_, isEntry, rfl⟩
  obtain ⟨number, _, same⟩ := isNumbered.counted name isNamed
  exact ⟨number, same⟩

variable {known : String → Prop} {scope : List String} {listed : Literal → Prop}
  (enclosed : Enclosed body known scope)
  (bodyFormed : ∀ reference node, known reference → body reference = .ok node →
    node.Formed (fun _ => True) listed)

include enclosed bodyFormed

theorem Visits.formed
    {ledger after : Ledger} {references : List String} {signatures : List Signature}
    (visited : Visits body ledger references signatures after)
    (allKnown : ∀ reference ∈ references, known reference) (isNumbered : ledger.Numbered stem) :
    ∀ signature ∈ signatures, signature.Formed (Namer.IsNumbered stem) listed := by
  induction visited with
  | done =>
      intro signature impossible
      cases impossible
  | @again ledger _ reference name _ _ named _ inductionHypothesis =>
      have laterFormed := inductionHypothesis
        (fun other isRest => allKnown other (List.mem_cons_of_mem _ isRest)) isNumbered
      intro signature isSignature
      rcases List.mem_cons.mp isSignature with isFirst | later
      · rw [isFirst]
        exact .lazy (isNumbered.isNumbered_of_nameOf? named)
      · exact laterFormed signature later
  | @first ledger expanded after reference name rest node parts signatures unnamed minted stands
      inside _ insideHypothesis laterHypothesis =>
      have isKnown := allKnown reference List.mem_cons_self
      have claimed : (ledger.claim reference name).Numbered stem :=
        (Ledger.Step.claim isKnown unnamed minted).numbered isNumbered
      have partsFormed := insideHypothesis (enclosed.closed reference node isKnown stands) claimed
      have insideGrows := inside.grows enclosed.closed (enclosed.closed reference node isKnown stands)
      have expandedNumbered := insideGrows.numbered claimed
      have laterFormed := laterHypothesis
        (fun other isRest => allKnown other (List.mem_cons_of_mem _ isRest))
        ⟨expandedNumbered.sameStem, expandedNumbered.different, expandedNumbered.counted⟩
      intro signature isSignature
      rcases List.mem_cons.mp isSignature with isFirst | later
      · rw [isFirst]
        exact (bodyFormed reference node isKnown stands).of_fill inside.length_eq partsFormed
      · exact laterFormed signature later

theorem Visits.declaresFormed
    {ledger after : Ledger} {references : List String} {signatures : List Signature}
    (visited : Visits body ledger references signatures after)
    (allKnown : ∀ reference ∈ references, known reference) (isNumbered : ledger.Numbered stem)
    (declares : ledger.namer.DeclaresFormed stem listed) : after.namer.DeclaresFormed stem listed := by
  induction visited with
  | done => exact declares
  | again _ _ inductionHypothesis =>
      exact inductionHypothesis
        (fun other isRest => allKnown other (List.mem_cons_of_mem _ isRest)) isNumbered declares
  | @first ledger expanded after reference name rest node parts signatures unnamed minted stands
      inside _ insideHypothesis laterHypothesis =>
      have isKnown := allKnown reference List.mem_cons_self
      have insideKnown := enclosed.closed reference node isKnown stands
      have claimed : (ledger.claim reference name).Numbered stem :=
        (Ledger.Step.claim isKnown unnamed minted).numbered isNumbered
      have expandedNumbered := (inside.grows enclosed.closed insideKnown).numbered claimed
      have partsFormed := inside.formed enclosed bodyFormed insideKnown claimed
      have insideDeclares := insideHypothesis insideKnown claimed declares
      refine laterHypothesis
        (fun other isRest => allKnown other (List.mem_cons_of_mem _ isRest))
        ⟨expandedNumbered.sameStem, expandedNumbered.different, expandedNumbered.counted⟩ ?_
      intro entry isEntry
      rcases Namer.mem_declarations_declare isEntry with isOld | rfl
      · exact insideDeclares entry isOld
      · have isName : Namer.IsNumbered stem name :=
          ⟨_, isNumbered.sameStem ▸ Namer.eq_numbered_of_nameOf minted⟩
        exact ⟨isName, (bodyFormed reference node isKnown stands).of_fill inside.length_eq partsFormed⟩

theorem Breaks.declaresFormed
    {ledger after : Ledger} {references : List String} {failure : Failure}
    (broken : Breaks body ledger references failure after)
    (allKnown : ∀ reference ∈ references, known reference) (isNumbered : ledger.Numbered stem)
    (declares : ledger.namer.DeclaresFormed stem listed) : after.namer.DeclaresFormed stem listed := by
  induction broken with
  | nameless | bodiless => exact declares
  | @inside ledger after reference name rest node failure unnamed minted stands _
      inductionHypothesis =>
      have isKnown := allKnown reference List.mem_cons_self
      exact inductionHypothesis (enclosed.closed reference node isKnown stands)
        ((Ledger.Step.claim isKnown unnamed minted).numbered isNumbered) declares
  | afterAgain _ _ inductionHypothesis =>
      exact inductionHypothesis
        (fun other isRest => allKnown other (List.mem_cons_of_mem _ isRest)) isNumbered declares
  | @afterFirst ledger expanded after reference name rest node parts failure unnamed minted stands
      visited _ inductionHypothesis =>
      have single : Visits body ledger [reference] [node.fill parts]
          (expanded.declare name (node.fill parts)) :=
        .first unnamed minted stands visited (.done _)
      have singleKnown : ∀ other ∈ [reference], known other := fun other isOnly =>
        List.mem_singleton.mp isOnly ▸ allKnown reference List.mem_cons_self
      exact inductionHypothesis
        (fun other isRest => allKnown other (List.mem_cons_of_mem _ isRest))
        ((single.grows enclosed.closed singleKnown).numbered isNumbered)
        (single.declaresFormed enclosed bodyFormed singleKnown isNumbered declares)

theorem Renders.formed
    {node : Node String} (nodeFormed : node.Formed (fun _ => True) listed)
    {ledger after : Ledger} {outcomes : List (Except Failure Signature)}
    (rendered : Renders body node ledger outcomes after)
    (allKnown : ∀ reference ∈ node.keys, known reference) (isNumbered : ledger.Numbered stem) :
    ∀ signature, .ok signature ∈ outcomes →
      signature.Formed (Namer.IsNumbered stem) listed := by
  induction rendered with
  | done =>
      intro signature impossible
      cases impossible
  | signature visited _ inductionHypothesis =>
      intro signature isOutcome
      rcases List.mem_cons.mp isOutcome with isFirst | later
      · cases isFirst
        exact nodeFormed.of_fill visited.length_eq
          (visited.formed enclosed bodyFormed allKnown isNumbered)
      · have grows := visited.grows enclosed.closed allKnown
        exact inductionHypothesis (grows.numbered isNumbered) signature later
  | failure broken _ inductionHypothesis =>
      intro signature isOutcome
      rcases List.mem_cons.mp isOutcome with impossible | later
      · cases impossible
      · have grows := broken.grows enclosed.closed allKnown
        exact inductionHypothesis (grows.numbered isNumbered) signature later

theorem Renders.declaresFormed
    {node : Node String} {ledger after : Ledger} {outcomes : List (Except Failure Signature)}
    (rendered : Renders body node ledger outcomes after)
    (allKnown : ∀ reference ∈ node.keys, known reference) (isNumbered : ledger.Numbered stem)
    (declares : ledger.namer.DeclaresFormed stem listed) : after.namer.DeclaresFormed stem listed := by
  induction rendered with
  | done => exact declares
  | signature visited _ inductionHypothesis =>
      have grows := visited.grows enclosed.closed allKnown
      exact inductionHypothesis (grows.numbered isNumbered)
        (visited.declaresFormed enclosed bodyFormed allKnown isNumbered declares)
  | failure broken _ inductionHypothesis =>
      have grows := broken.grows enclosed.closed allKnown
      exact inductionHypothesis (grows.numbered isNumbered)
        (broken.declaresFormed enclosed bodyFormed allKnown isNumbered declares)

end Renderings

namespace Document

/-- No value that a schema of a document lists is a float. -/
def ListsNoFloats (root : Json) : Prop :=
  ∀ schema, Reached root schema → (root.form schema).Lists Literal.NotFloat

/-- A signature is one of the renderings of a document in a session with the standard stem. -/
def IsRendering (root : Json) (signature : Signature) : Prop :=
  ∃ namer bind count outcomes, namer.stem = Namer.defaultStem ∧
    (session root namer bind count).renderings = .ok outcomes ∧ .ok signature ∈ outcomes

/-- What a session renders is formed, with the literals of values that the schemas of its document
list, and so is what its namer declares, if it was before. -/
theorem formed_of_renderings
    {root : Json} {listed : Literal → Prop}
    (lists : ∀ schema, Reached root schema → (root.form schema).Lists listed)
    {namer : Namer} {bind : Bool} {count : Nat} {outcomes : List (Except Failure Signature)}
    (rendered : (session root namer bind count).renderings = .ok outcomes) :
    (∀ signature, .ok signature ∈ outcomes →
        signature.Formed (Namer.IsNumbered namer.stem) listed) ∧
      (namer.DeclaresFormed namer.stem listed →
        (session root namer bind count).namer.DeclaresFormed namer.stem listed) := by
  obtain ⟨node, after, drafted, renders, sameNamer⟩ := exists_renders_of_renderings rendered
  have formedReached {schema : Json} (reached : Reached root schema) {node : Node String}
      (schemaDrafted : (root.draft schema).outcome = .ok node) :
      node.Formed (fun _ => True) listed :=
    formed_draft (fun inner within => lists inner (reached.within within)) schemaDrafted
  -- What a reference stands for is drafted from a schema that the document reaches as well.
  have bodyFormed : ∀ reference target, IsMet root reference → body root reference = .ok target →
      target.Formed (fun _ => True) listed := by
    intro reference target met stands
    obtain ⟨value, resolved, targetDrafted⟩ := body_eq_ok_iff.mp stands
    obtain ⟨other, otherResolved, reached⟩ := met.exists_reached
    cases resolved.symm.trans otherResolved
    exact formedReached reached targetDrafted
  have headsMet : ∀ reference ∈ node.keys, IsMet root reference :=
    fun reference isKey => isMet_of_mem_keys .document drafted isKey
  have unnamed : Ledger.Numbered namer.stem { namer := namer } :=
    ⟨rfl, List.nodup_nil, fun _ impossible => by cases impossible⟩
  rw [sameNamer]
  exact ⟨renders.formed (enclosed_isMet root) bodyFormed (formedReached .document drafted) headsMet
      unnamed,
    renders.declaresFormed (enclosed_isMet root) bodyFormed headsMet unnamed⟩

theorem formed_of_isRendering
    {root : Json} (listsNoFloats : ListsNoFloats root) {signature : Signature}
    (isRendering : IsRendering root signature) :
    signature.Formed (Namer.IsNumbered Namer.defaultStem) Literal.NotFloat := by
  obtain ⟨namer, bind, count, outcomes, stem, rendered, isOutcome⟩ := isRendering
  exact stem ▸ (formed_of_renderings listsNoFloats rendered).1 signature isOutcome

/-- Signatures are uniquely readable. Two renderings of documents that list no floats have the same
text exactly if they have the same canonical form, whatever the property names, the listed texts and
the references in them. -/
theorem text_eq_iff
    {root other : Json} (listsNoFloats : ListsNoFloats root)
    (otherListsNoFloats : ListsNoFloats other)
    {signature otherSignature : Signature} (isRendering : IsRendering root signature)
    (otherIsRendering : IsRendering other otherSignature) :
    signature.text = otherSignature.text ↔ signature.canonical = otherSignature.canonical := by
  have legible := (formed_of_isRendering listsNoFloats isRendering).legible
  have otherLegible := (formed_of_isRendering otherListsNoFloats otherIsRendering).legible
  rw [← signature.text_canonical, ← otherSignature.text_canonical]
  exact ⟨fun same => legible.eq_of_text_eq otherLegible same, fun same => by rw [same]⟩

/-- A document without references lists no floats if the forms of its schemas list none. -/
theorem listsNoFloats_of_closed
    {root : Json} {schemas : List Json} (isListed : root ∈ schemas)
    (closed : ∀ schema ∈ schemas, (root.form schema).subschemas ⊆ schemas ∧
      (root.form schema).targets = [] ∧ (root.form schema).Lists Literal.NotFloat) :
    ListsNoFloats root := by
  intro schema reached
  suffices among : schema ∈ schemas from (closed schema among).2.2
  induction reached with
  | document => exact isListed
  | part _ isPart inductionHypothesis => exact (closed _ inductionHypothesis).1 isPart
  | target _ refers _ inductionHypothesis =>
      rw [(closed _ inductionHypothesis).2.1] at refers
      cases refers

/-- Values with signs of rows in them. -/
def listedValues : Json :=
  .obj [("enum", .arr [.str "a | b)", .int 1, .null])]

/-- An array with items of any kind. -/
def unknownItems : Json :=
  .obj [("type", .str "array"), ("items", .obj [])]

/-- An array or one of the values. -/
def plainChoice : Json :=
  .obj [("anyOf", .arr [.obj [("type", .str "array")], listedValues])]

/-- An array or one of the values, told apart by a tag. -/
def taggedChoice : Json :=
  .obj [("oneOf", .arr [unknownItems, listedValues]),
    ("discriminator", .obj [("propertyName", .str "kind")])]

def plainSignature : Signature :=
  .group .union [.primitive .unknownArray,
    .group .union [.literals [.str "a | b)", .int 1], .primitive .null]]

def taggedSignature : Signature :=
  .group .sum [.container .array (.primitive .unknown),
    .group .union [.literals [.str "a | b)", .int 1], .primitive .null]]

theorem lists_listedValues (root : Json) :
    (root.form listedValues).Lists Literal.NotFloat := by
  intro value isListed literal isLiteral
  rcases List.mem_pair.mp isListed with rfl | rfl <;> cases isLiteral <;> trivial

theorem listsNoFloats_plainChoice : ListsNoFloats plainChoice := by
  have isListed : plainChoice ∈ [plainChoice, .obj [("type", .str "array")], listedValues] :=
    List.mem_cons_self
  refine listsNoFloats_of_closed isListed ?_
  intro schema isSchema
  simp only [List.mem_cons, List.not_mem_nil, or_false] at isSchema
  rcases isSchema with rfl | rfl | rfl
  · exact ⟨List.subset_cons_self _ _, rfl, trivial⟩
  · exact ⟨List.nil_subset _, rfl, trivial⟩
  · exact ⟨List.nil_subset _, rfl, lists_listedValues plainChoice⟩

theorem listsNoFloats_taggedChoice : ListsNoFloats taggedChoice := by
  have isListed : taggedChoice ∈ [taggedChoice, .obj [], unknownItems, listedValues] :=
    List.mem_cons_self
  refine listsNoFloats_of_closed isListed ?_
  intro schema isSchema
  simp only [List.mem_cons, List.not_mem_nil, or_false] at isSchema
  rcases isSchema with rfl | rfl | rfl | rfl
  · have parts : (taggedChoice.form taggedChoice).subschemas = [unknownItems, listedValues] := rfl
    rw [parts]
    exact ⟨List.subset_append_right [taggedChoice, .obj []] _, rfl, trivial⟩
  · exact ⟨List.nil_subset _, rfl, trivial⟩
  · have parts : (taggedChoice.form unknownItems).subschemas = [.obj []] := rfl
    rw [parts]
    exact ⟨List.cons_subset.mpr ⟨by simp, List.nil_subset _⟩, rfl, trivial⟩
  · exact ⟨List.nil_subset _, rfl, lists_listedValues taggedChoice⟩

/-- An array of any items is written like an array of unknown items, and a sum like a union. -/
theorem text_eq_iff_choices :
    ListsNoFloats plainChoice ∧ ListsNoFloats taggedChoice ∧
      IsRendering plainChoice plainSignature ∧ IsRendering taggedChoice taggedSignature ∧
      (plainSignature.text = taggedSignature.text ↔
        plainSignature.canonical = taggedSignature.canonical) := by
  have plainRendering : IsRendering plainChoice plainSignature :=
    ⟨Namer.standard, true, 1, [.ok plainSignature], rfl, rfl, List.mem_cons_self⟩
  have taggedRendering : IsRendering taggedChoice taggedSignature :=
    ⟨Namer.standard, true, 1, [.ok taggedSignature], rfl, rfl, List.mem_cons_self⟩
  exact ⟨listsNoFloats_plainChoice, listsNoFloats_taggedChoice, plainRendering, taggedRendering,
    text_eq_iff listsNoFloats_plainChoice listsNoFloats_taggedChoice plainRendering
      taggedRendering⟩

end Document

end SchemaSignature
