import SchemaSignature.Proofs.CommandLine.SavedTexts
import SchemaSignature.Proofs.Storage.Encoding

/-!
Saving a rendering. The file is written when everything else has been done: a command that ends with
another exit code than that of success has changed nothing, and what a successful one has written can
be read back. The files around are any that can be looked at without a change, and the output is at a
path where a text that is saved is found again.
-/

namespace SchemaSignature.CommandLine

open Storage (Files Path)
open Storage.Folder (bytesOf)

theorem failureCode_ne_successCode : failureCode ≠ successCode := by
  decide

theorem usageCode_ne_successCode : usageCode ≠ successCode := by
  decide

section Commands

variable {world : Type}

/-- From a state of the world on, looking at files changes nothing, and whatever text is saved at a
path is found there. -/
structure IsWritable (files : Files (StateM world)) (here : world) (output : Path) : Prop where
  looks : ∀ path, (files.look path here).2 = here
  saves : ∀ text, ∃ there, files.save output text here = (.ok (), there) ∧
    (files.look output there).1 = .ok (.file (bytesOf text))

/-- The schema file of a request is loaded, and its document is parsed and rendered. -/
def RendersTo (files : Files (StateM world)) (here : world) (options : RenderOptions)
    (rendering : Rendering) : Prop :=
  ∃ bytes document signature, (files.look options.schema here).1 = .ok (.file bytes) ∧
    Storage.readBytes bytes = .ok document ∧
    let session := Document.session document { stem := options.stem, count := options.start } true 1
    session.renderings = .ok [.ok signature] ∧
      rendering = ⟨signature.text, session.namer.declaredTexts⟩

theorem renderOnce_eq_ok_iff
    {document : Json} {stem : String} {start : Nat} {rendering : Rendering} :
    (renderOnce document stem start).1 = .ok rendering ↔
      ∃ signature,
        (Document.session document { stem := stem, count := start } true 1).renderings =
            .ok [.ok signature] ∧
          rendering = ⟨signature.text,
            (Document.session document { stem := stem, count := start } true 1).namer.declaredTexts⟩ := by
  simp only [renderOnce]
  generalize Document.session document { stem := stem, count := start } true 1 = session
  constructor
  · intro rendered
    cases outcomes : session.renderings with
    | error failure =>
        rw [outcomes] at rendered
        cases rendered
    | ok listed =>
        rw [outcomes] at rendered
        match listed with
        | [.ok signature] => exact ⟨signature, rfl, (Except.ok.inj rendered).symm⟩
        | [.error failure] => cases rendered
        | [] | _ :: _ :: _ => cases rendered
  · rintro ⟨signature, rendered, rfl⟩
    rw [rendered]
    rfl

variable {files : Files (StateM world)} {here : world}

theorem bind_apply {first second : Type} (work : StateM world first)
    (next : first → StateM world second) (here : world) :
    (work >>= next) here = next (work here).1 (work here).2 :=
  rfl

section Loading

variable {title : String} {path : Path} {showSchema : Bool} {next : Json → StateM world Outcome}
  (looks : (files.look path here).2 = here)

include looks

theorem withDocument_of_loaded
    {bytes : List Nat} {document : Json} (found : (files.look path here).1 = .ok (.file bytes))
    (loaded : Storage.readBytes bytes = .ok document) :
    (withDocument files title path showSchema next here).1.exit = (next document here).1.exit ∧
      (withDocument files title path showSchema next here).2 = (next document here).2 := by
  rw [withDocument, bind_apply, found, looks]
  simp only [loaded]
  exact ⟨rfl, rfl⟩

theorem withDocument_of_not_loaded
    (notLoaded : ∀ bytes document, (files.look path here).1 = .ok (.file bytes) →
      Storage.readBytes bytes ≠ .ok document) :
    (withDocument files title path showSchema next here).1.exit ≠ successCode ∧
      (withDocument files title path showSchema next here).2 = here := by
  rw [withDocument, bind_apply, looks]
  cases found : (files.look path here).1 with
  | error obstacle => exact ⟨usageCode_ne_successCode, rfl⟩
  | ok entry =>
      cases entry with
      | directory => exact ⟨usageCode_ne_successCode, rfl⟩
      | file bytes =>
          cases loaded : Storage.readBytes bytes with
          | error failure =>
              simp only [loaded]
              exact ⟨failureCode_ne_successCode, rfl⟩
          | ok document => exact absurd loaded (notLoaded bytes document found)

end Loading

theorem renderDocument_of_rendered
    {options : RenderOptions} {output : Path} (saves : options.output = some output)
    (declares : options.showDeclarations = true) {document : Json} {rendering : Rendering}
    (rendered : (renderOnce document options.stem options.start).1 = .ok rendering) {there : world}
    (saved : files.save output (fileText true rendering) here = (.ok (), there)) :
    (renderDocument files options document here).1.exit = successCode ∧
      (renderDocument files options document here).2 = there := by
  rcases once : renderOnce document options.stem options.start with ⟨outcome, events⟩
  rw [once] at rendered
  cases rendered
  rw [renderDocument, once]
  simp only [saves, declares]
  rw [bind_apply, saveRendering, bind_apply, saved]
  exact ⟨rfl, rfl⟩

theorem renderDocument_of_failed
    {options : RenderOptions} {document : Json} {failure : Failure}
    (failed : (renderOnce document options.stem options.start).1 = .error failure) :
    (renderDocument files options document here).1.exit ≠ successCode ∧
      (renderDocument files options document here).2 = here := by
  rcases once : renderOnce document options.stem options.start with ⟨outcome, events⟩
  rw [once] at failed
  cases failed
  rw [renderDocument, once]
  exact ⟨failureCode_ne_successCode, rfl⟩

theorem run_of_asked
    {arguments : List String} {options : RenderOptions} {verbose : Bool}
    (asked : Invocation.ofArguments? arguments = some ⟨.render options, verbose⟩) :
    (run files arguments here).1.exit = (perform files (.render options) here).1.exit ∧
      (run files arguments here).2 = (perform files (.render options) here).2 := by
  rw [run, asked]
  exact ⟨rfl, rfl⟩

theorem RendersTo.isPlain
    {options : RenderOptions} {rendering : Rendering} (isLine : Text.OneLine options.stem)
    (renders : RendersTo files here options rendering) : rendering.IsPlain options.stem := by
  obtain ⟨bytes, document, signature, _, _, rendered, rfl⟩ := renders
  obtain ⟨signatures, declarations⟩ := Document.oneLine_of_renderings isLine rfl rendered
  exact ⟨signatures signature List.mem_cons_self, declarations⟩

theorem RendersTo.unique
    {options : RenderOptions} {rendering other : Rendering}
    (renders : RendersTo files here options rendering)
    (otherRenders : RendersTo files here options other) : rendering = other := by
  obtain ⟨bytes, document, signature, found, loaded, rendered, rfl⟩ := renders
  obtain ⟨otherBytes, otherDocument, otherSignature, otherFound, otherLoaded, otherRendered, rfl⟩ :=
    otherRenders
  cases found.symm.trans otherFound
  cases loaded.symm.trans otherLoaded
  cases rendered.symm.trans otherRendered
  rfl

/-- A signature is saved with its declarations, or nothing is changed. -/
theorem run_cases
    {arguments : List String} {options : RenderOptions} {verbose : Bool} {output : Path}
    (asked : Invocation.ofArguments? arguments = some ⟨.render options, verbose⟩)
    (declares : options.showDeclarations = true) (saves : options.output = some output)
    (writable : IsWritable files here output) :
    (∃ rendering, RendersTo files here options rendering ∧
        (run files arguments here).1.exit = successCode ∧
        (files.look output (run files arguments here).2).1 =
          .ok (.file (bytesOf (fileText true rendering)))) ∨
      (∀ rendering, ¬RendersTo files here options rendering) ∧
        (run files arguments here).1.exit ≠ successCode ∧ (run files arguments here).2 = here := by
  obtain ⟨sameExit, sameWorld⟩ := run_of_asked asked
  rw [sameExit, sameWorld, perform]
  have looks := writable.looks options.schema
  by_cases loaded : ∃ bytes document, (files.look options.schema here).1 = .ok (.file bytes) ∧
      Storage.readBytes bytes = .ok document
  · obtain ⟨bytes, document, found, loaded⟩ := loaded
    obtain ⟨exit, after⟩ := withDocument_of_loaded looks found loaded
    rw [exit, after]
    cases rendered : (renderOnce document options.stem options.start).1 with
    | ok rendering =>
        left
        obtain ⟨there, saved, isFound⟩ := writable.saves (fileText true rendering)
        obtain ⟨success, written⟩ := renderDocument_of_rendered saves declares rendered saved
        obtain ⟨signature, isOutcome, same⟩ := renderOnce_eq_ok_iff.mp rendered
        exact ⟨rendering, ⟨bytes, document, signature, found, loaded, isOutcome, same⟩, success,
          written ▸ isFound⟩
    | error failure =>
        right
        refine ⟨?_, renderDocument_of_failed rendered⟩
        rintro rendering ⟨otherBytes, other, signature, otherFound, otherLoaded, isOutcome⟩
        cases found.symm.trans otherFound
        cases loaded.symm.trans otherLoaded
        cases rendered.symm.trans (renderOnce_eq_ok_iff.mpr ⟨signature, isOutcome⟩)
  · right
    refine ⟨?_, withDocument_of_not_loaded looks fun bytes document found isLoaded =>
      loaded ⟨bytes, document, found, isLoaded⟩⟩
    rintro rendering ⟨bytes, document, _, found, isLoaded, _⟩
    exact loaded ⟨bytes, document, found, isLoaded⟩

end Commands

/-- The schema of a list, whose only property has a line break in its name. -/
def listSchema : Json :=
  .obj [("properties", .obj [("to\nnext", .obj [("$ref", .str "#")])])]

def listFolder : Storage.Folder where
  files := [(["list.json"], bytesOf listSchema.encode)]

def listArguments : List String :=
  ["render", "-s", "list.json", "--prefix", "List", "-d", "-o", "types/list.d.ts"]

def listOptions : RenderOptions where
  schema := ⟨"", ["list.json"]⟩
  stem := "List"
  start := 0
  showDeclarations := true
  showSchema := false
  output := some ⟨"", ["types", "list.d.ts"]⟩

def listRendering : Rendering where
  signature := "Partial<\x7b \"to\\nnext\": Partial<\x7b \"to\\nnext\": List1; \x7d>; \x7d>"
  declarations := [("List1", "Partial<\x7b \"to\\nnext\": List1; \x7d>")]

end SchemaSignature.CommandLine
