import SchemaSignature.Proofs.Document.Spellings

/-!
What becomes of every reference. One that is spelled by the standard of pointers resolves to the value
at its place. But others resolve as well: those with no slash or several in front, with a tilde that
escapes nothing, or with a position in digits that are not those of its number. The rest is refused
as not local or as unresolvable, except that digits in an array may be no position at all, which is
a failure of its own.
-/

namespace SchemaSignature.Pointer

/-- In an array, the pieces meet digits that are no position. -/
inductive MeetsMiscount : Json → List (List Char) → Failure → Prop where
  | here {items : List Json} {piece : List Char} {rest : List (List Char)} {failure : Failure}
      (isDigits : IsDigits piece) (miscounts : Miscounts piece failure) :
      MeetsMiscount (.arr items) (piece :: rest) failure
  | later {target next : Json} {piece : List Char} {step : Step} {rest : List (List Char)}
      {failure : Failure} (takes : Takes piece step) (entered : step.enter? target = some next)
      (meets : MeetsMiscount next rest failure) :
      MeetsMiscount target (piece :: rest) failure

/-- What is specified to become of a reference in a document. The document itself is the place without
steps, which is spelled `#`. -/
inductive Resolution (root : Json) : Json → Except Failure Json → Prop where
  /-- The standard spelling of a place leads there. -/
  | standard {location : Location} {value : Json}
      (begins : ∀ next rest, location ≠ .key "" :: next :: rest)
      (readable : ∀ step ∈ location, step.IsReadable) (leads : valueAt? root location = some value) :
      Resolution root (.str (spell location)) (.ok value)
  /-- Another spelling leads to the same place as the standard one. -/
  | stray {spelling : Spelling} {location : Location} {value : Json}
      (strays : ¬spelling.IsStandard location) (taken : spelling.LeadsTo location)
      (leads : valueAt? root location = some value) :
      Resolution root (.str spelling.text) (.ok value)
  /-- Digits meet an array in which they are no position. -/
  | miscounted {spelling : Spelling} {failure : Failure}
      (meets : MeetsMiscount root spelling.pieces failure) :
      Resolution root (.str spelling.text) (.error failure)
  /-- There is no value at any place to which the spelling leads. -/
  | unresolvable {spelling : Spelling}
      (nowhere : ∀ location, spelling.LeadsTo location → valueAt? root location = none)
      (counts : ∀ failure, ¬MeetsMiscount root spelling.pieces failure) :
      Resolution root (.str spelling.text) (.error (.unresolvable spelling.text))
  /-- A reference is not local unless it is a text that begins with a number sign. -/
  | notLocal {reference : Json}
      (foreign : ∀ pointer, reference ≠ .str (String.ofList ('#' :: pointer))) :
      Resolution root reference (.error (.notLocal reference))

/-! ## Pieces that fail -/

theorem MeetsMiscount.fails
    {reference : String} {target : Json} {pieces : List (List Char)} {failure : Failure}
    (meets : MeetsMiscount target pieces failure) :
    (pieces.map stepText).foldlM (follow reference) target = .error failure := by
  induction meets with
  | here isDigits miscounts =>
      rw [List.map_cons, List.foldlM_cons, follow_miscounted isDigits miscounts]
      rfl
  | @later target next piece step rest failure takes entered _ inductionHypothesis =>
      have followed : follow reference target (stepText piece) = .ok next :=
        follow_eq_ok_iff.mpr ⟨step, (stepIn?_stepText_iff entered).mpr takes, entered⟩
      rw [List.map_cons, List.foldlM_cons, followed]
      exact inductionHypothesis

theorem meetsMiscount_or_unresolvable
    {reference : String} {target : Json} {pieces : List (List Char)} {failure : Failure}
    (failed : (pieces.map stepText).foldlM (follow reference) target = .error failure) :
    MeetsMiscount target pieces failure ∨ failure = .unresolvable reference := by
  induction pieces generalizing target with
  | nil => cases failed
  | cons piece rest inductionHypothesis =>
      rw [List.map_cons, List.foldlM_cons] at failed
      rcases Outcome.bind_eq_error_iff.mp failed with atOnce | ⟨next, followed, later⟩
      · rcases follow_stepText_error atOnce with ⟨items, rfl, isDigits, miscounts⟩ | unresolvable
        · exact Or.inl (.here isDigits miscounts)
        · exact Or.inr unresolvable
      · obtain ⟨step, isStep, entered⟩ := follow_eq_ok_iff.mp followed
        have takes := (stepIn?_stepText_iff entered).mp isStep
        exact (inductionHypothesis later).imp_left (.later takes entered)

/-! ## Every reference -/

/-- A place with a standard spelling has a canonical one that can be read. -/
theorem Spelling.IsStandard.of_leadsTo
    {spelling : Spelling} {location : Location} (isStandard : spelling.IsStandard location)
    (taken : spelling.LeadsTo location) :
    (∀ next rest, location ≠ .key "" :: next :: rest) ∧ ∀ step ∈ location, step.IsReadable := by
  have samePieces := (eq_pieces_iff taken spelling.onePieces).mpr isStandard.2
  constructor
  · rintro next rest rfl
    obtain ⟨noFirst, someOthers⟩ := List.cons.inj samePieces
    cases (spelling.begins noFirst).2.symm.trans someOthers
  · rw [LeadsTo, samePieces, List.forall₂_map_left_iff, List.forall₂_same] at taken
    exact fun step isStep => takes_piece_iff.mp (taken step isStep)

theorem resolve_foreign
    {root : Json} {reference : String} (foreign : ∀ pointer, reference.toList ≠ '#' :: pointer) :
    resolve root reference = .error (.notLocal (.str reference)) := by
  unfold resolve
  split
  · next pointer characters => exact absurd characters (foreign pointer)
  · rfl

theorem Resolution.of_spelling {root : Json} {spelling : Spelling} {outcome : Except Failure Json}
    (resolved : resolve root spelling.text = outcome) :
    Resolution root (.str spelling.text) outcome := by
  cases outcome with
  | ok value =>
      obtain ⟨location, taken, leads⟩ := resolve_text_eq_ok_iff.mp resolved
      by_cases isStandard : spelling.IsStandard location
      · obtain ⟨begins, readable⟩ := isStandard.of_leadsTo taken
        rw [(Spelling.text_eq_spell_iff taken).mpr isStandard]
        exact .standard begins readable leads
      · exact .stray isStandard taken leads
  | error failure =>
      by_cases counts : ∃ other, MeetsMiscount root spelling.pieces other
      · obtain ⟨other, meets⟩ := counts
        rw [spelling.resolve_text, meets.fails] at resolved
        cases resolved
        exact .miscounted meets
      · have nowhere : ∀ location, spelling.LeadsTo location → valueAt? root location = none := by
          intro location taken
          by_contra present
          obtain ⟨value, leads⟩ := Option.ne_none_iff_exists'.mp present
          cases resolved.symm.trans (resolve_text_eq_ok_iff.mpr ⟨location, taken, leads⟩)
        rw [spelling.resolve_text] at resolved
        rcases meetsMiscount_or_unresolvable resolved with meets | rfl
        · exact absurd ⟨failure, meets⟩ counts
        · exact .unresolvable nowhere fun other meets => counts ⟨other, meets⟩

theorem Resolution.of_resolve {root : Json} {reference : String} {outcome : Except Failure Json}
    (resolved : resolve root reference = outcome) : Resolution root (.str reference) outcome := by
  by_cases isLocal : ∃ pointer, reference.toList = '#' :: pointer
  · obtain ⟨pointer, characters⟩ := isLocal
    have isText : reference = String.ofList ('#' :: pointer) := by
      rw [← characters, String.ofList_toList]
    by_cases isWhole : pointer = []
    · rw [isText, isWhole] at resolved ⊢
      rw [← resolved]
      exact .standard (fun _ _ => List.cons_ne_nil _ _ |>.symm) (by simp) rfl
    · obtain ⟨spelling, rfl⟩ := exists_spelling isWhole
      rw [isText] at resolved ⊢
      exact .of_spelling resolved
  · have foreign : ∀ pointer, reference.toList ≠ '#' :: pointer :=
      fun pointer characters => isLocal ⟨pointer, characters⟩
    rw [resolve_foreign foreign] at resolved
    rw [← resolved]
    refine .notLocal fun pointer same => foreign pointer ?_
    rw [Json.str.inj same, String.toList_ofList]

theorem Resolution.resolve_eq {root reference : Json} {outcome : Except Failure Json}
    (resolution : Resolution root reference outcome) : resolveValue root reference = outcome := by
  cases resolution with
  | standard begins readable leads =>
      exact (resolve_spell_eq_ok_iff begins).mpr ((exists_takes_iff leads).mpr readable)
  | stray _ taken leads => exact resolve_text_eq_ok_iff.mpr ⟨_, taken, leads⟩
  | @miscounted spelling failure meets => exact (spelling.resolve_text root).trans meets.fails
  | @unresolvable spelling nowhere counts =>
      rw [resolveValue]
      cases resolved : resolve root spelling.text with
      | ok value =>
          obtain ⟨location, taken, leads⟩ := resolve_text_eq_ok_iff.mp resolved
          cases leads.symm.trans (nowhere location taken)
      | error failure =>
          rw [spelling.resolve_text] at resolved
          rcases meetsMiscount_or_unresolvable resolved with meets | rfl
          · exact absurd meets (counts failure)
          · rfl
  | notLocal foreign =>
      cases reference with
      | str text =>
          refine resolve_foreign fun pointer characters => foreign pointer ?_
          rw [← characters, String.ofList_toList]
      | _ => rfl

/-- Every reference becomes what is specified, and nothing else. -/
theorem resolveValue_eq_iff {root reference : Json} {outcome : Except Failure Json} :
    resolveValue root reference = outcome ↔ Resolution root reference outcome := by
  constructor
  · intro resolved
    cases reference with
    | str text => exact .of_resolve resolved
    | _ =>
        cases resolved
        exact .notLocal fun _ => by simp
  · exact Resolution.resolve_eq

/-- A reference to a definition, with one slash too many. -/
def slashedTwice : Json :=
  .obj [("$ref", .str "#//$defs/A"), ("$defs", .obj [("A", .obj [("type", .str "string")])])]

/-- The reference resolves although it is not the standard spelling of any place with a value; and
another one, whose digit has no place, is not refused as unresolvable. -/
theorem resolve_slashedTwice :
    (resolveValue slashedTwice (.str "#//$defs/A") = .ok (.obj [("type", .str "string")]) ∧
        ∀ location, spell location = "#//$defs/A" → valueAt? slashedTwice location = none) ∧
      resolveValue (.arr [.null]) (.str "#/²") = .error (.misuse (.notANumeral "²")) := by
  refine ⟨⟨rfl, ?_⟩, rfl⟩
  intro location spelled
  have isPointer : join (location.map Step.piece) = join [[], "$defs".toList, "A".toList] := by
    have characters := congrArg String.toList spelled
    rw [spell, String.toList_ofList] at characters
    exact (List.cons.inj characters).2
  have pieces := join_injective (slash_not_mem_pieces location) (by decide) isPointer
  cases location with
  | nil => cases pieces
  | cons first rest =>
      rw [Step.eq_key_of_piece (List.cons.inj pieces).1]
      rfl

end SchemaSignature.Pointer
