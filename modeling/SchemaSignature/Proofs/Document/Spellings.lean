import Mathlib.Data.List.Forall2
import SchemaSignature.Proofs.Document.Pieces

/-!
All references, by the way in which they are spelled. A reference that is local leads to a place by
its pieces, whatever the number of slashes in front of them, and it resolves exactly if there is a
value at that place. So every place has a reference that resolves to its value, the canonical one;
but a reference that resolves need not be the canonical one of its place.
-/

namespace SchemaSignature.Pointer

/-- How a local reference is spelled, unless it is one to the whole document: slashes, a first piece,
and other pieces with a slash in front of each. An empty first piece is the only one, since it cannot
be told from the slashes. -/
structure Spelling where
  slashes : Nat
  first : List Char
  others : List (List Char)
  onePieces : ∀ piece ∈ first :: others, '/' ∉ piece
  begins : first = [] → 0 < slashes ∧ others = []

namespace Spelling

def pieces (spelling : Spelling) : List (List Char) :=
  spelling.first :: spelling.others

def pointer (spelling : Spelling) : List Char :=
  List.replicate spelling.slashes '/' ++ (spelling.first ++ join spelling.others)

def text (spelling : Spelling) : String :=
  String.ofList ('#' :: spelling.pointer)

/-- The pieces of a spelling take the steps to a place. -/
def LeadsTo (spelling : Spelling) (location : Location) : Prop :=
  List.Forall₂ Takes spelling.pieces location

/-- A spelling is written by the standard of pointers, as one that leads to a place. -/
def IsStandard (spelling : Spelling) (location : Location) : Prop :=
  spelling.slashes = 1 ∧
    List.Forall₂ (fun piece step => step.isStandard piece = true) spelling.pieces location

theorem pointer_ne_nil (spelling : Spelling) : spelling.pointer ≠ [] := by
  intro empty
  obtain ⟨noSlashes, noPieces⟩ := List.append_eq_nil_iff.mp empty
  obtain ⟨noFirst, _⟩ := List.append_eq_nil_iff.mp noPieces
  have positive := (spelling.begins noFirst).1
  rw [List.replicate_eq_nil_iff] at noSlashes
  omega

theorem steps_pointer (spelling : Spelling) :
    steps spelling.pointer = spelling.pieces.map stepText := by
  refine steps_slashes spelling.onePieces ?_ spelling.slashes
  by_cases noFirst : spelling.first = []
  · exact Or.inr (spelling.begins noFirst).2
  · exact Or.inl noFirst

theorem resolve_text (root : Json) (spelling : Spelling) :
    resolve root spelling.text =
      (spelling.pieces.map stepText).foldlM (follow spelling.text) root := by
  have notWhole : ¬spelling.pointer.isEmpty = true := by
    rw [List.isEmpty_iff]
    exact spelling.pointer_ne_nil
  have characters : spelling.text.toList = '#' :: spelling.pointer := by
    rw [text, String.toList_ofList]
  unfold resolve
  rw [characters]
  simp only [if_neg notWhole, steps_pointer]

end Spelling

/-- Every text is pieces without slashes, with slashes between them. -/
theorem exists_pieces (text : List Char) :
    ∃ first others, text = first ++ join others ∧ ∀ piece ∈ first :: others, '/' ∉ piece := by
  induction text with
  | nil => exact ⟨[], [], rfl, by simp⟩
  | cons c rest inductionHypothesis =>
      obtain ⟨first, others, rfl, onePieces⟩ := inductionHypothesis
      by_cases isSlash : c = '/'
      · refine ⟨[], first :: others, by simp [isSlash, join, List.flatMap_cons], ?_⟩
        intro piece isPiece
        rcases List.mem_cons.mp isPiece with rfl | later
        · exact List.not_mem_nil
        · exact onePieces piece later
      · refine ⟨c :: first, others, rfl, ?_⟩
        intro piece isPiece
        rcases List.mem_cons.mp isPiece with rfl | later
        · intro present
          rcases List.mem_cons.mp present with same | present
          · exact isSlash same.symm
          · exact onePieces first List.mem_cons_self present
        · exact onePieces piece (List.mem_cons_of_mem _ later)

/-- Every local reference, except to the whole document, has a spelling. -/
theorem exists_spelling {pointer : List Char} (present : pointer ≠ []) :
    ∃ spelling : Spelling, spelling.pointer = pointer := by
  obtain ⟨first, others, split, onePieces⟩ := exists_pieces (pointer.dropWhile (· == '/'))
  have slashes : pointer.takeWhile (· == '/') =
      List.replicate (pointer.takeWhile (· == '/')).length '/' := by
    refine List.eq_replicate_iff.mpr ⟨rfl, fun c isSlash => ?_⟩
    exact beq_iff_eq.mp (List.mem_takeWhile_imp (p := (· == '/')) isSlash)
  have same : List.replicate (pointer.takeWhile (· == '/')).length '/' ++
      (first ++ join others) = pointer := by
    rw [← slashes, ← split, List.takeWhile_append_dropWhile]
  refine ⟨⟨_, first, others, onePieces, ?_⟩, same⟩
  rintro rfl
  have noOthers : others = [] := by
    cases others with
    | nil => rfl
    | cons piece rest =>
        -- What is left begins with a slash, which would have been dropped.
        have passed := List.head?_dropWhile_not (· == '/') pointer
        rw [split] at passed
        simp [join, List.flatMap_cons] at passed
  refine ⟨List.length_pos_iff.mpr fun noSlashes => present ?_, noOthers⟩
  rw [← same, noSlashes, noOthers]
  rfl

/-! ## References that resolve -/

theorem locateFrom?_stepTexts_iff
    {target value : Json} {pieces : List (List Char)} {location : Location}
    (leads : valueAt? target location = some value) :
    locateFrom? target (pieces.map stepText) = some location ↔
      List.Forall₂ Takes pieces location := by
  induction pieces generalizing target location with
  | nil => simp [locateFrom?, eq_comm]
  | cons piece rest inductionHypothesis =>
      rw [List.map_cons, locateFrom?_cons_eq_some_iff, List.forall₂_cons_left_iff]
      constructor
      · rintro ⟨step, next, others, isStep, entered, located, rfl⟩
        have later : valueAt? next others = some value := by
          simpa [valueAt?, entered] using leads
        exact ⟨step, others, (stepIn?_stepText_iff entered).mp isStep,
          (inductionHypothesis later).mp located, rfl⟩
      · rintro ⟨step, others, takes, taken, rfl⟩
        obtain ⟨next, entered, later⟩ := Option.bind_eq_some_iff.mp leads
        exact ⟨step, next, others, (stepIn?_stepText_iff entered).mpr takes, entered,
          (inductionHypothesis later).mpr taken, rfl⟩

/-- A spelling resolves to the values at the places to which it leads. -/
theorem resolve_text_eq_ok_iff {root value : Json} {spelling : Spelling} :
    resolve root spelling.text = .ok value ↔
      ∃ location, spelling.LeadsTo location ∧ valueAt? root location = some value := by
  rw [spelling.resolve_text, foldlM_follow_eq_ok_iff]
  constructor
  · rintro ⟨location, located, leads⟩
    exact ⟨location, (locateFrom?_stepTexts_iff leads).mp located, leads⟩
  · rintro ⟨location, taken, leads⟩
    exact ⟨location, (locateFrom?_stepTexts_iff leads).mpr taken, leads⟩

/-! ## The canonical spelling -/

theorem count_join
    {pieces : List (List Char)} (onePieces : ∀ piece ∈ pieces, '/' ∉ piece) :
    (join pieces).count '/' = pieces.length := by
  induction pieces with
  | nil => rfl
  | cons piece rest inductionHypothesis =>
      have inRest := inductionHypothesis fun other later =>
        onePieces other (List.mem_cons_of_mem _ later)
      have inPiece := List.count_eq_zero.mpr (onePieces piece List.mem_cons_self)
      rw [join] at inRest ⊢
      rw [List.flatMap_cons, List.count_append, List.count_cons_self, inPiece, inRest,
        List.length_cons]
      omega

theorem join_injective
    {pieces others : List (List Char)} (onePieces : ∀ piece ∈ pieces, '/' ∉ piece)
    (otherPieces : ∀ piece ∈ others, '/' ∉ piece) (same : join pieces = join others) :
    pieces = others := by
  have split := pieces_join (List.not_mem_nil : '/' ∉ ([] : List Char)) onePieces
  rw [same, pieces_join List.not_mem_nil otherPieces] at split
  exact (List.cons.inj split).2.symm

theorem eq_pieces_iff
    {pieces : List (List Char)} {location : Location}
    (taken : List.Forall₂ Takes pieces location) (onePieces : ∀ piece ∈ pieces, '/' ∉ piece) :
    pieces = location.map Step.piece ↔
      List.Forall₂ (fun piece step => step.isStandard piece = true) pieces location := by
  induction taken with
  | nil => simp
  | @cons piece step rest steps takes _ inductionHypothesis =>
      have restPieces := inductionHypothesis fun other later =>
        onePieces other (List.mem_cons_of_mem _ later)
      have firstPiece := takes.eq_piece_iff (onePieces piece List.mem_cons_self)
      rw [List.map_cons, List.cons.injEq, List.forall₂_cons, firstPiece, restPieces]

theorem slash_not_mem_pieces (location : Location) :
    ∀ piece ∈ location.map Step.piece, '/' ∉ piece := by
  intro piece isPiece
  obtain ⟨step, _, rfl⟩ := List.mem_map.mp isPiece
  exact step.unescape_piece.1

/-- Of the spellings that lead to a place, the canonical one is the one that is written by the
standard. -/
theorem Spelling.text_eq_spell_iff
    {spelling : Spelling} {location : Location} (leads : spelling.LeadsTo location) :
    spelling.text = spell location ↔ spelling.IsStandard location := by
  have steps := slash_not_mem_pieces location
  have otherPieces : ∀ piece ∈ spelling.others, '/' ∉ piece := fun piece later =>
    spelling.onePieces piece (List.mem_cons_of_mem _ later)
  have isPointer : spelling.text = spell location ↔
      spelling.pointer = join (location.map Step.piece) := by
    rw [text, spell, String.ofList_inj, List.cons.injEq, and_iff_right rfl]
  have unslashed (single : spelling.slashes = 1) : spelling.pointer = join spelling.pieces := by
    rw [pointer, single, pieces, join, join, List.flatMap_cons]
    rfl
  rw [isPointer, IsStandard, ← eq_pieces_iff leads spelling.onePieces]
  constructor
  · intro same
    -- Both have as many slashes, and the place has as many steps as there are pieces.
    have single : spelling.slashes = 1 := by
      have counted := congrArg (List.count '/') same
      have inFirst := List.count_eq_zero.mpr (spelling.onePieces spelling.first List.mem_cons_self)
      rw [pointer, List.count_append, List.count_append, List.count_replicate_self, inFirst,
        count_join otherPieces, count_join steps, List.length_map] at counted
      have length : spelling.others.length + 1 = location.length := leads.length_eq
      omega
    exact ⟨single, join_injective spelling.onePieces steps ((unslashed single).symm.trans same)⟩
  · rintro ⟨single, same⟩
    rw [unslashed single, same]

/-- The position of a step can be written with as many digits as are read. -/
def Step.IsReadable : Step → Prop
  | .key _ => True
  | .index place => place < 10 ^ Number.digitLimit

theorem takes_piece_iff {step : Step} : Takes step.piece step ↔ step.IsReadable := by
  cases step with
  | key name =>
      exact iff_of_true (.key (reads_iff.mpr (unescape_escape name.toList))) trivial
  | index place =>
      rw [Step.IsReadable, ← length_toString_le_iff]
      constructor
      · rintro (_ | ⟨_, _, short⟩)
        exact short
      · intro short
        obtain ⟨c, rest, digits, _⟩ := Text.exists_digit place
        have present : (toString place).toList ≠ [] := by
          rw [digits]
          exact List.cons_ne_nil _ _
        exact .index present (decimalNumber?_toString place) short

/-- A value is entered at the place for which a piece stands, or not at all. -/
theorem Takes.eq_of_enter?
    {step other : Step} (takes : Takes step.piece other) {target next otherNext : Json}
    (entered : step.enter? target = some next) (otherEntered : other.enter? target = some otherNext) :
    other = step := by
  cases target with
  | obj members =>
      cases step with
      | index _ => cases entered
      | key name =>
          cases takes with
          | index _ _ _ => cases otherEntered
          | key reads =>
              have same := (reads_iff.mp reads).symm.trans (unescape_escape name.toList)
              rw [String.toList_inj.mp same]
  | arr items =>
      cases step with
      | key _ => cases entered
      | index place =>
          cases takes with
          | key _ => cases otherEntered
          | index _ counts _ =>
              rw [Step.piece, decimalNumber?_toString] at counts
              rw [Option.some.inj counts]
  | _ => cases step <;> cases entered

theorem exists_takes_iff
    {root value : Json} {location : Location} (leads : valueAt? root location = some value) :
    (∃ other, List.Forall₂ Takes (location.map Step.piece) other ∧
        valueAt? root other = some value) ↔
      ∀ step ∈ location, step.IsReadable := by
  constructor
  · rintro ⟨other, taken, otherLeads⟩
    induction location generalizing root other with
    | nil => simp
    | cons step rest inductionHypothesis =>
        obtain ⟨otherStep, others, takes, takenRest, rfl⟩ := List.forall₂_cons_left_iff.mp taken
        obtain ⟨next, entered, restLeads⟩ := Option.bind_eq_some_iff.mp leads
        obtain ⟨otherNext, otherEntered, othersLead⟩ := Option.bind_eq_some_iff.mp otherLeads
        obtain rfl : otherStep = step := takes.eq_of_enter? entered otherEntered
        obtain rfl : otherNext = next := Option.some.inj (otherEntered.symm.trans entered)
        exact List.forall_mem_cons.mpr
          ⟨takes_piece_iff.mp takes, inductionHypothesis restLeads others takenRest othersLead⟩
  · intro readable
    refine ⟨location, ?_, leads⟩
    rw [List.forall₂_map_left_iff, List.forall₂_same]
    exact fun step isStep => takes_piece_iff.mpr (readable step isStep)

theorem Step.eq_key_of_piece {step : Step} (empty : step.piece = []) : step = .key "" := by
  cases step with
  | key name =>
      have isEmpty : name.toList = [] := by
        rw [← unescape_escape name.toList, ← piece, empty]
        rfl
      rw [String.toList_eq_nil_iff.mp isEmpty]
  | index place =>
      obtain ⟨c, digits, written, _⟩ := Text.exists_digit place
      rw [piece, written] at empty
      cases empty

/-- The canonical spelling of a place that is not the document itself. -/
theorem exists_canonical
    {first : Step} {rest : Location} (begins : first = .key "" → rest = []) :
    ∃ spelling : Spelling, spelling.text = spell (first :: rest) ∧
      spelling.pieces = (first :: rest).map Step.piece := by
  refine ⟨⟨1, first.piece, rest.map Step.piece, slash_not_mem_pieces (first :: rest),
    fun noFirst => ⟨Nat.one_pos, ?_⟩⟩, ?_, rfl⟩
  · rw [begins (Step.eq_key_of_piece noFirst), List.map_nil]
  · rw [Spelling.text, Spelling.pointer, spell, List.map_cons, join, join, List.flatMap_cons]
    rfl

/-- The canonical spelling of a place resolves to the values at the places that its pieces take. -/
theorem resolve_spell_eq_ok_iff
    {root value : Json} {location : Location}
    (begins : ∀ next rest, location ≠ .key "" :: next :: rest) :
    resolve root (spell location) = .ok value ↔
      ∃ other, List.Forall₂ Takes (location.map Step.piece) other ∧
        valueAt? root other = some value := by
  cases location with
  | nil =>
      change Except.ok root = Except.ok value ↔ _
      constructor
      · rintro ⟨⟩
        exact ⟨[], .nil, rfl⟩
      · rintro ⟨_, _ | _, leads⟩
        rw [Option.some.inj leads]
  | cons first rest =>
      have noOthers : first = .key "" → rest = [] := by
        rintro rfl
        cases rest with
        | nil => rfl
        | cons next others => exact absurd rfl (begins next others)
      obtain ⟨spelling, isCanonical, pieces⟩ := exists_canonical noOthers
      rw [← isCanonical, resolve_text_eq_ok_iff, ← pieces]
      rfl

/-- Every place has a reference that resolves to its value: the canonical one, whatever characters are
in the keys. A position must not have more digits than are read, and the first of several keys must
not be empty, since its slash would be lost. -/
theorem resolve_spell_iff
    {root value : Json} {location : Location} (leads : valueAt? root location = some value)
    (begins : ∀ next rest, location ≠ .key "" :: next :: rest) :
    resolve root (spell location) = .ok value ↔ ∀ step ∈ location, step.IsReadable := by
  rw [resolve_spell_eq_ok_iff begins]
  exact exists_takes_iff leads

/-- A document in which keys look like escapes, contain slashes, or are empty. -/
def awkwardKeys : Json :=
  .obj [("~1", .arr [.null, .obj [("", .obj [("/~01", .str "found")])]])]

theorem resolve_awkwardKeys :
    valueAt? awkwardKeys [.key "~1", .index 1, .key "", .key "/~01"] = some (.str "found") ∧
      resolve awkwardKeys "#/~01/1//~1~001" = .ok (.str "found") := by
  have leads : valueAt? awkwardKeys [.key "~1", .index 1, .key "", .key "/~01"] =
      some (.str "found") := rfl
  have spelled : spell [.key "~1", .index 1, .key "", .key "/~01"] = "#/~01/1//~1~001" := by
    decide
  refine ⟨leads, ?_⟩
  rw [← spelled, resolve_spell_iff leads (by simp)]
  intro step isStep
  simp only [List.mem_cons, List.not_mem_nil, or_false] at isStep
  rcases isStep with rfl | rfl | rfl | rfl
  · trivial
  · exact Nat.one_lt_pow (by decide) (by decide)
  · trivial
  · trivial

end SchemaSignature.Pointer
