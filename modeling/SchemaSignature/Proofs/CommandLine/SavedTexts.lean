import SchemaSignature.CommandLine.Run
import SchemaSignature.Proofs.Document.Lines

/-!
Reading a saved text. A text with a rendering has one statement on each line, an empty line behind the
statements, and the signature on the last line. The name in a statement ends with a number, so the
first sign of equality is the one behind the name, unless there is one in the stem of names.
-/

namespace SchemaSignature

namespace Text

/-! ## Cutting at a sign -/

/-- What stands in front of the first occurrence of a sign, and what stands behind it. -/
def cutAt? (sign : List Char) : List Char → Option (List Char × List Char)
  | [] => none
  | c :: rest =>
      if sign.isPrefixOf (c :: rest) then some ([], (c :: rest).drop sign.length)
      else (cutAt? sign rest).map fun parts => (c :: parts.1, parts.2)

theorem cutAt?_cons_of_begins
    {sign : List Char} (present : sign ≠ []) (rest : List Char) :
    cutAt? sign (sign ++ rest) = some ([], rest) := by
  obtain ⟨c, more, rfl⟩ := List.exists_cons_of_ne_nil present
  have begins : (c :: more).isPrefixOf (c :: (more ++ rest)) = true :=
    List.isPrefixOf_iff_prefix.mpr (List.prefix_append (c :: more) rest)
  rw [List.cons_append, cutAt?, if_pos begins, ← List.cons_append, List.drop_left]

theorem cutAt?_cons_of_not_begins
    {sign : List Char} {c : Char} {rest front back : List Char}
    (notHere : ¬sign <+: c :: rest) (cut : cutAt? sign rest = some (front, back)) :
    cutAt? sign (c :: rest) = some (c :: front, back) := by
  rw [cutAt?, if_neg (mt List.isPrefixOf_iff_prefix.mp notHere), cut]
  rfl

/-- A sign that begins a text with a foreign character in it ends in front of that character. -/
theorem begins_of_append
    {sign front rest : List Char} {c : Char} (foreign : c ∉ sign)
    (begins : sign <+: front ++ c :: rest) : sign <+: front := by
  rcases List.prefix_or_prefix_of_prefix begins (List.prefix_append front (c :: rest)) with
    isFront | ⟨more, same⟩
  · exact isFront
  · rw [← same] at begins foreign ⊢
    have moreBegins := (List.prefix_append_right_inj front).mp begins
    cases more with
    | nil => exact (List.append_nil front).symm ▸ List.prefix_rfl
    | cons first others =>
        have isFirst : first = c := (List.cons_prefix_cons.mp moreBegins).1
        exact absurd (List.mem_append_right front (isFirst ▸ List.mem_cons_self)) foreign

theorem cutAt?_append_of_foreign
    {sign others : List Char} (present : sign ≠ []) (foreign : ∀ c ∈ others, c ∉ sign)
    (rest : List Char) : cutAt? sign (others ++ (sign ++ rest)) = some (others, rest) := by
  induction others with
  | nil => exact cutAt?_cons_of_begins present rest
  | cons c others inductionHypothesis =>
      refine cutAt?_cons_of_not_begins (fun begins => ?_)
        (inductionHypothesis fun other later => foreign other (List.mem_cons_of_mem _ later))
      have notIn := foreign c List.mem_cons_self
      have inFront : sign <+: [] := begins_of_append notIn begins
      exact present (List.prefix_nil.mp inFront)

/-- The first occurrence of a sign is behind a text that has none, and that ends with characters that
are not in the sign. -/
theorem cutAt?_append
    {sign stem others : List Char} (absent : ¬sign <:+: stem) (present : others ≠ [])
    (foreign : ∀ c ∈ others, c ∉ sign) (rest : List Char) :
    cutAt? sign (stem ++ (others ++ (sign ++ rest))) = some (stem ++ others, rest) := by
  induction stem with
  | nil =>
      have notEmpty : sign ≠ [] := fun isEmpty => absent (isEmpty ▸ List.nil_infix)
      exact cutAt?_append_of_foreign notEmpty foreign rest
  | cons c stem inductionHypothesis =>
      refine cutAt?_cons_of_not_begins (fun begins => ?_)
        (inductionHypothesis fun inside => absent (List.infix_cons inside))
      obtain ⟨first, more, rfl⟩ := List.exists_cons_of_ne_nil present
      have inStem : sign <+: c :: stem := begins_of_append (foreign first List.mem_cons_self) begins
      exact absent inStem.isInfix

end Text

namespace CommandLine

/-! ## Statements -/

/-- The sign between a name and what it stands for. -/
def equationSign : List Char :=
  " = ".toList

/-- The name and the expansion in a statement. -/
def readStatement? (line : String) : Option (String × String) :=
  match Text.cutAt? "type ".toList line.toList with
  | some ([], equation) =>
      match Text.cutAt? equationSign equation with
      | some (name, expansion) =>
          if expansion.getLast? = some ';' then
            some (String.ofList name, String.ofList expansion.dropLast)
          else none
      | none => none
  | _ => none

/-- A statement with a numbered name is read back, whatever the name stands for. -/
theorem readStatement?_aliasStatement
    {stem name : String} (noEquation : ¬equationSign <:+: stem.toList)
    (isNumbered : Namer.IsNumbered stem name) (expansion : String) :
    readStatement? (aliasStatement name expansion) = some (name, expansion) := by
  obtain ⟨number, rfl⟩ := isNumbered
  have written : (aliasStatement (Namer.numbered stem number) expansion).toList =
      "type ".toList ++ (stem.toList ++ ((toString number).toList ++
        (equationSign ++ (expansion.toList ++ [';'])))) := by
    simp only [aliasStatement, Namer.numbered, String.toList_append, List.append_assoc]
    rfl
  have digitsPresent : (toString number).toList ≠ [] := by
    obtain ⟨c, rest, digits, _⟩ := Text.exists_digit number
    rw [digits]
    exact List.cons_ne_nil c rest
  have noDigits : ∀ c ∈ equationSign, c.isDigit = false := by simp [equationSign]
  have foreign : ∀ c ∈ (toString number).toList, c ∉ equationSign := fun c isDigit inSign => by
    cases (noDigits c inSign).symm.trans (Text.isDigit_of_mem_toString isDigit)
  have name : String.ofList (stem.toList ++ (toString number).toList) =
      Namer.numbered stem number := by
    rw [← String.toList_append, String.ofList_toList]
    rfl
  rw [readStatement?, written, Text.cutAt?_cons_of_begins (by decide)]
  simp only [Text.cutAt?_append noEquation digitsPresent foreign, List.getLast?_concat,
    List.dropLast_concat, if_true, name, String.ofList_toList]

def statements (declarations : List (String × String)) : List String :=
  declarations.map fun entry => aliasStatement entry.1 entry.2

theorem mapM_readStatement?
    {stem : String} (noEquation : ¬equationSign <:+: stem.toList)
    {declarations : List (String × String)}
    (each : ∀ entry ∈ declarations, Namer.IsNumbered stem entry.1) :
    (statements declarations).mapM readStatement? = some declarations := by
  induction declarations with
  | nil => rfl
  | cons entry rest inductionHypothesis =>
      have others := inductionHypothesis fun other later => each other (List.mem_cons_of_mem _ later)
      rw [statements, List.map_cons, List.mapM_cons,
        readStatement?_aliasStatement noEquation (each entry List.mem_cons_self)]
      rw [statements] at others
      rw [others]
      rfl

/-! ## Texts of renderings -/

/-- The lines of a saved text: a statement for each declaration and an empty line, if there are
declarations, and the signature. -/
def Rendering.lines (rendering : Rendering) : List String :=
  if rendering.declarations.isEmpty then [rendering.signature]
  else statements rendering.declarations ++ ["", rendering.signature]

/-- The rendering that a saved text holds. -/
def readRendering? (text : String) : Option Rendering :=
  match (Text.piecesOf '\n' text).reverse with
  | ["", signature] => some { signature := signature, declarations := [] }
  | "" :: signature :: "" :: statements => do
      let declarations ← statements.reverse.mapM readStatement?
      return { signature := signature, declarations := declarations }
  | _ => none

theorem fileText_eq_terminated (rendering : Rendering) :
    fileText true rendering = Text.terminated rendering.lines := by
  obtain ⟨signature, declarations⟩ := rendering
  cases declarations with
  | nil => exact String.append_empty.symm
  | cons entry rest =>
      have written := Text.intercalate_append_break
        (List.cons_ne_nil (aliasStatement entry.1 entry.2) (statements rest))
      have behind : Text.terminated ["", signature] = "\n" ++ (signature ++ "\n") := by
        simp [Text.terminated]
      calc
        fileText true ⟨signature, entry :: rest⟩ =
            "\n".intercalate (statements (entry :: rest)) ++ "\n\n" ++ (signature ++ "\n") := rfl
        _ = "\n".intercalate (statements (entry :: rest)) ++ "\n" ++
            ("\n" ++ (signature ++ "\n")) := by
          have twoBreaks : "\n\n" = "\n" ++ "\n" := rfl
          rw [twoBreaks]
          simp only [String.append_assoc]
        _ = Text.terminated (statements (entry :: rest)) ++ Text.terminated ["", signature] := by
          rw [behind]
          exact congrArg (· ++ _) written
        _ = Text.terminated (Rendering.lines ⟨signature, entry :: rest⟩) :=
          (Text.terminated_append _ _).symm

/-- What names of a stem stand for, and the signature, are written on one line each. -/
structure Rendering.IsPlain (stem : String) (rendering : Rendering) : Prop where
  signature : Text.OneLine rendering.signature
  declarations : ∀ entry ∈ rendering.declarations,
    Namer.IsNumbered stem entry.1 ∧ Text.OneLine entry.2

section Reading

variable {stem : String} {rendering : Rendering} (isLine : Text.OneLine stem)
  (plain : rendering.IsPlain stem)

include isLine plain

theorem oneLine_of_mem_lines : ∀ line ∈ rendering.lines, Text.OneLine line := by
  intro line isLine
  unfold Rendering.lines at isLine
  split at isLine
  · exact List.mem_singleton.mp isLine ▸ plain.signature
  · rcases List.mem_append.mp isLine with isStatement | isLast
    · obtain ⟨entry, isEntry, rfl⟩ := List.mem_map.mp isStatement
      obtain ⟨isNumbered, expansion⟩ := plain.declarations entry isEntry
      exact .append (.append (.append (.append (by decide) (isNumbered.oneLine ‹_›)) (by decide))
        expansion) (by decide)
    · rcases List.mem_pair.mp isLast with rfl | rfl
      · decide
      · exact plain.signature

theorem piecesOf_fileText :
    Text.piecesOf '\n' (fileText true rendering) = rendering.lines ++ [""] := by
  rw [fileText_eq_terminated]
  exact Text.piecesOf_terminated (oneLine_of_mem_lines isLine plain)

/-- A saved text is read back as the rendering that was saved. -/
theorem readRendering?_fileText (noEquation : ¬equationSign <:+: stem.toList) :
    readRendering? (fileText true rendering) = some rendering := by
  have table := mapM_readStatement? noEquation fun entry isEntry =>
    (plain.declarations entry isEntry).1
  rw [readRendering?, piecesOf_fileText isLine plain]
  obtain ⟨signature, declarations⟩ := rendering
  cases declarations with
  | nil => rfl
  | cons entry rest =>
      have reversed : (Rendering.lines ⟨signature, entry :: rest⟩ ++ [""]).reverse =
          "" :: signature :: "" :: (statements (entry :: rest)).reverse := by
        simp [Rendering.lines]
      rw [reversed]
      simp only [List.reverse_reverse, table]
      rfl

end Reading

end CommandLine

end SchemaSignature
