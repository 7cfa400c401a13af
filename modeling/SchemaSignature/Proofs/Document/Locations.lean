import SchemaSignature.Proofs.Document.Escaping

/-!
The places that references lead to. A place can be referred to in several spellings: with more slashes
in front, with a tilde as it is or escaped, and with zeros or the digits of another script in the
position of an item. One of them is canonical: keys are escaped, and positions are written as numbers.
-/

namespace SchemaSignature.Pointer

/-- A step into a value: to the member of an object with a key, or to the item of an array at a
position. -/
inductive Step where
  | key (name : String)
  | index (place : Nat)
  deriving DecidableEq, Repr

/-- The steps that lead to a place in a document. -/
abbrev Location : Type := List Step

def Step.enter? : Step → Json → Option Json
  | .key name, .obj members => Json.member? members name
  | .index place, .arr items => items[place]?
  | _, _ => none

/-- The value at a place of a document. -/
def valueAt? (root : Json) (location : Location) : Option Json :=
  location.foldlM (fun value step => step.enter? value) root

/-- The step that a piece of a pointer takes in a value. -/
def stepIn? (target : Json) (piece : String) : Option Step :=
  match target with
  | .obj _ => some (.key piece)
  | .arr _ =>
      if !piece.isEmpty && piece.toList.all Text.isDigit then
        (position piece).toOption.map .index
      else none
  | _ => none

/-- The place that pieces of a pointer lead to from a value on. -/
def locateFrom? : Json → List String → Option Location
  | _, [] => some []
  | target, piece :: rest => do
      let step ← stepIn? target piece
      let next ← step.enter? target
      let others ← locateFrom? next rest
      some (step :: others)

/-- The place in a document that a reference leads to. -/
def locate? (root : Json) (reference : String) : Option Location :=
  match reference.toList with
  | '#' :: pointer => if pointer.isEmpty then some [] else locateFrom? root (steps pointer)
  | _ => none

theorem locateFrom?_cons_eq_some_iff
    {target : Json} {piece : String} {rest : List String} {location : Location} :
    locateFrom? target (piece :: rest) = some location ↔
      ∃ step next others, stepIn? target piece = some step ∧ step.enter? target = some next ∧
        locateFrom? next rest = some others ∧ location = step :: others := by
  simp only [locateFrom?, Option.bind_eq_bind, Option.bind_eq_some_iff, Option.some.injEq]
  constructor
  · rintro ⟨step, isStep, next, entered, others, located, same⟩
    exact ⟨step, next, others, isStep, entered, located, same.symm⟩
  · rintro ⟨step, next, others, isStep, entered, located, same⟩
    exact ⟨step, isStep, next, entered, others, located, same.symm⟩

/-! ## Resolving is locating and looking up -/

theorem follow_eq_ok_iff {reference piece : String} {target value : Json} :
    follow reference target piece = .ok value ↔
      ∃ step, stepIn? target piece = some step ∧ step.enter? target = some value := by
  cases target with
  | obj members =>
      cases found : Json.member? members piece with
      | none => simp [follow, stepIn?, Step.enter?, found]
      | some other => simp [follow, stepIn?, Step.enter?, found]
  | arr items =>
      cases isNumeral : (!piece.isEmpty && piece.toList.all Text.isDigit) with
      | false => simp only [follow, stepIn?, isNumeral]; simp
      | true =>
          cases read : position piece with
          | error failure => simp only [follow, stepIn?, isNumeral, read]; simp [Except.toOption]
          | ok place =>
              simp only [follow, stepIn?, isNumeral, read]
              cases found : items[place]? with
              | none => simp [Except.toOption, Step.enter?, found, throw, throwThe, MonadExceptOf.throw]
              | some other => simp [Except.toOption, Step.enter?, found, pure, Except.pure]
  | _ => simp [follow, stepIn?]

theorem foldlM_follow_eq_ok_iff {reference : String} {pieces : List String} {target value : Json} :
    pieces.foldlM (follow reference) target = .ok value ↔
      ∃ location, locateFrom? target pieces = some location ∧
        valueAt? target location = some value := by
  induction pieces generalizing target with
  | nil => simp [locateFrom?, valueAt?, pure, Except.pure]
  | cons piece rest inductionHypothesis =>
      rw [List.foldlM_cons, Outcome.bind_eq_ok_iff]
      constructor
      · rintro ⟨next, followed, later⟩
        obtain ⟨step, isStep, entered⟩ := follow_eq_ok_iff.mp followed
        obtain ⟨location, located, isValue⟩ := inductionHypothesis.mp later
        refine ⟨step :: location, ?_, ?_⟩
        · exact locateFrom?_cons_eq_some_iff.mpr
            ⟨step, next, location, isStep, entered, located, rfl⟩
        · simpa [valueAt?, entered] using isValue
      · rintro ⟨location, located, isValue⟩
        obtain ⟨step, next, others, isStep, entered, locatedRest, rfl⟩ :=
          locateFrom?_cons_eq_some_iff.mp located
        have later : valueAt? next others = some value := by
          simpa [valueAt?, entered] using isValue
        exact ⟨next, follow_eq_ok_iff.mpr ⟨step, isStep, entered⟩,
          inductionHypothesis.mpr ⟨others, locatedRest, later⟩⟩

/-- What a reference points to is the value at the place that it leads to. -/
theorem resolve_eq_ok_iff {root value : Json} {reference : String} :
    resolve root reference = .ok value ↔
      ∃ location, locate? root reference = some location ∧ valueAt? root location = some value := by
  unfold resolve locate?
  rcases reference.toList with _ | ⟨c, pointer⟩
  · simp
  · by_cases isHash : c = '#'
    · subst isHash
      by_cases isWhole : pointer.isEmpty = true
      · simp [isWhole, valueAt?]
      · simp only [isWhole]
        exact foldlM_follow_eq_ok_iff
    · simp [isHash]

/-! ## The canonical spelling of a place -/

/-- The text that takes a step. -/
def Step.text : Step → String
  | .key name => name
  | .index place => toString place

/-- The piece of a pointer that stands for a step. -/
def Step.piece : Step → List Char
  | .key name => escape name.toList
  | .index place => (toString place).toList

def spell (location : Location) : String :=
  String.ofList ('#' :: join (location.map Step.piece))

/-- A reference is spelled in the canonical way for the place in the document that it leads to. -/
def IsCanonical (root : Json) (reference : String) : Prop :=
  (locate? root reference).map spell = some reference

theorem Step.unescape_piece (step : Step) :
    '/' ∉ step.piece ∧ String.ofList (unescape step.piece) = step.text := by
  cases step with
  | key name =>
      exact ⟨slash_not_mem_escape _, by rw [piece, unescape_escape, String.ofList_toList, text]⟩
  | index place =>
      have noSlash : '/' ∉ (toString place).toList := by
        intro present
        have isDigit := Text.isDigit_of_mem_toString present
        cases isDigit
      have noTilde : '~' ∉ (toString place).toList := by
        intro present
        have isDigit := Text.isDigit_of_mem_toString present
        cases isDigit
      exact ⟨noSlash, by rw [piece, unescape_of_not_mem noTilde, String.ofList_toList, text]⟩

/-- The text of a step takes that step. -/
theorem stepIn?_text {target : Json} {piece : String} {step : Step}
    (isStep : stepIn? target piece = some step) : stepIn? target step.text = some step := by
  cases target with
  | obj members =>
      cases isStep
      rfl
  | arr items =>
      unfold stepIn? at isStep
      simp only at isStep
      split at isStep
      · cases read : position piece with
        | error failure =>
            rw [read] at isStep
            cases isStep
        | ok place =>
            rw [read] at isStep
            cases isStep
            have isNumeral : (!(toString place).isEmpty &&
                (toString place).toList.all Text.isDigit) = true := by
              obtain ⟨c, rest, digits, _⟩ := Text.exists_digit place
              have notEmpty : (toString place).isEmpty = false := by
                rw [← Bool.not_eq_true, String.isEmpty_iff]
                rintro empty
                rw [empty] at digits
                cases digits
              have areDigits : (toString place).toList.all Text.isDigit = true := by
                apply List.all_eq_true.mpr
                intro d isListed
                exact (decimalValue?_of_isDigit (Text.isDigit_of_mem_toString isListed)).1
              rw [notEmpty, areDigits]
              rfl
            rw [Step.text, stepIn?, if_pos isNumeral, position_toString read]
            rfl
      · cases isStep
  | _ => cases isStep

theorem locateFrom?_texts {target : Json} {pieces : List String} {location : Location}
    (located : locateFrom? target pieces = some location) :
    locateFrom? target (location.map Step.text) = some location := by
  induction pieces generalizing target location with
  | nil =>
      cases located
      rfl
  | cons piece rest inductionHypothesis =>
      obtain ⟨step, next, others, isStep, entered, locatedRest, rfl⟩ :=
        locateFrom?_cons_eq_some_iff.mp located
      rw [List.map_cons]
      exact locateFrom?_cons_eq_some_iff.mpr
        ⟨step, next, others, stepIn?_text isStep, entered, inductionHypothesis locatedRest, rfl⟩

/-- The first of several steps is not written as an empty piece. -/
theorem piece_ne_nil
    {root : Json} {pointer : List Char} {first second : Step} {rest : Location}
    (located : locateFrom? root (steps pointer) = some (first :: second :: rest)) :
    first.piece ≠ [] := by
  cases first with
  | index place =>
      obtain ⟨c, digits, written, _⟩ := Text.exists_digit place
      rw [Step.piece, written]
      exact List.cons_ne_nil _ _
  | key name =>
      rcases taken : steps pointer with _ | ⟨piece, _ | ⟨next, others⟩⟩
      · rw [taken] at located
        cases located
      · rw [taken] at located
        obtain ⟨_, _, others, _, _, locatedRest, same⟩ := locateFrom?_cons_eq_some_iff.mp located
        cases locatedRest
        cases same
      · rw [taken] at located
        obtain ⟨step, _, others, isStep, _, _, same⟩ := locateFrom?_cons_eq_some_iff.mp located
        have isKey : Step.key name = step := (List.cons.inj same).1
        subst isKey
        have sameName : piece = name := by
          cases root with
          | obj members =>
              cases isStep
              rfl
          | arr items =>
              unfold stepIn? at isStep
              simp only at isStep
              split at isStep
              · obtain ⟨place, _, impossible⟩ := Option.map_eq_some_iff.mp isStep
                cases impossible
              · cases isStep
          | _ => cases isStep
        rw [Step.piece, ← sameName]
        exact escape_ne_nil (steps_begin taken)

theorem steps_spelled
    {root : Json} {pointer : List Char} {location : Location}
    (located : locateFrom? root (steps pointer) = some location) :
    location ≠ [] ∧ steps (join (location.map Step.piece)) = location.map Step.text := by
  cases location with
  | nil =>
      have several : steps pointer ≠ [] := by
        rw [steps, ne_eq, List.map_eq_nil_iff]
        exact Text.pieces_ne_nil _ _
      cases taken : steps pointer with
      | nil => exact absurd taken several
      | cons piece rest =>
          rw [taken] at located
          obtain ⟨_, _, _, _, _, _, impossible⟩ := locateFrom?_cons_eq_some_iff.mp located
          cases impossible
  | cons first rest =>
      refine ⟨List.cons_ne_nil _ _, ?_⟩
      have begins : first.piece ≠ [] ∨ rest.map Step.piece = [] := by
        cases rest with
        | nil => exact Or.inr rfl
        | cons second others => exact Or.inl (piece_ne_nil located)
      have onePieces : ∀ piece ∈ first.piece :: rest.map Step.piece, '/' ∉ piece := by
        intro piece isPiece
        rw [← List.map_cons] at isPiece
        obtain ⟨step, _, rfl⟩ := List.mem_map.mp isPiece
        exact step.unescape_piece.1
      have unescaped : ∀ step : Step, String.ofList (unescape step.piece) = step.text :=
        fun step => step.unescape_piece.2
      rw [List.map_cons, steps_join onePieces begins, ← List.map_cons, List.map_map]
      exact List.map_congr_left fun step _ => unescaped step

/-- The canonical spelling of a place leads there, provided that some reference does. -/
theorem locate?_spell
    {root : Json} {reference : String} {location : Location}
    (located : locate? root reference = some location) :
    locate? root (spell location) = some location := by
  have characters : (spell location).toList = '#' :: join (location.map Step.piece) := by
    rw [spell, String.toList_ofList]
  unfold locate? at located
  split at located
  · next pointer _ =>
      split at located
      · cases located
        rfl
      · obtain ⟨several, taken⟩ := steps_spelled located
        have notWhole : ¬(join (location.map Step.piece)).isEmpty = true := by
          cases location with
          | nil => exact absurd rfl several
          | cons first rest => exact Bool.false_ne_true
        unfold locate?
        rw [characters]
        simp only [if_neg notWhole, taken]
        exact locateFrom?_texts located
  · cases located

/-- Every place that a reference leads to has exactly one canonical spelling. -/
theorem existsUnique_canonical
    {root : Json} {reference : String} {location : Location}
    (located : locate? root reference = some location) :
    ∃! canonical, IsCanonical root canonical ∧ locate? root canonical = some location := by
  have leads := locate?_spell located
  refine ⟨spell location, ⟨?_, leads⟩, ?_⟩
  · rw [IsCanonical, leads, Option.map_some]
  · rintro canonical ⟨isCanonical, sameLocation⟩
    rw [IsCanonical, sameLocation, Option.map_some] at isCanonical
    exact (Option.some.inj isCanonical).symm

end SchemaSignature.Pointer
