import SchemaSignature.Program.Step
import SchemaSignature.Proofs.Document.References
import SchemaSignature.Proofs.Document.Rejections
import SchemaSignature.Proofs.Naming.Endings
import SchemaSignature.Proofs.Signature.Refusals

/-!
What a program does without calling definitions or rendering nodes. None of it fails for the lack of
depth: constructors refuse parts, documents have faults, and names are not defined, but nothing of
this is nested.
-/

namespace SchemaSignature

open Outcome (FailsOnly)

namespace Failure

theorem IsPartFault.isOther {failure : Failure} (isFault : failure.IsPartFault) :
    failure ≠ .outOfFuel := by
  rintro rfl
  exact isFault

theorem IsSchemaFault.isOther {failure : Failure} (isFault : failure.IsSchemaFault) :
    failure ≠ .outOfFuel := by
  rintro rfl
  exact isFault

end Failure

namespace Program

open Work (Shallow)

/-! ## The shelf -/

theorem shallow_current : Shallow Shelf.current :=
  Shallow.get.bind fun _ => .pure _

theorem shallow_find {content : Type} (table : Shelf → List (String × content)) (name : String) :
    Shallow (Shelf.find table name) := by
  refine shallow_current.bind fun shelf => ?_
  split
  · exact .pure _
  · exact .throw nofun

theorem shallow_interpreterAt (index : Nat) : Shallow (Shelf.interpreterAt index) := by
  refine shallow_current.bind fun shelf => ?_
  split
  · exact .pure _
  · exact .throw nofun

theorem shallow_newValue (content : Operand Cell) : Shallow (Shelf.newValue content) :=
  fun _ => .ok _

theorem shallow_store (name : String) (value : Value) : Shallow (Shelf.store name value) :=
  .modify _

theorem shallow_addNamer (name : String) (namer : Namer) : Shallow (Shelf.addNamer name namer) :=
  fun _ => .ok _

theorem shallow_addInterpreter (interpreter : Interpreter) :
    Shallow (Shelf.addInterpreter interpreter) :=
  fun _ => .ok _

theorem shallow_createInterpreter (name : String) (interpreter : Interpreter) :
    Shallow (createInterpreter name interpreter) :=
  (shallow_addInterpreter interpreter).bind fun _ => .modify _

theorem shallow_namerOf? (name : Option String) : Shallow (namerOf? name) := by
  cases name with
  | some name => exact (shallow_find Shelf.namers name).map some
  | none => exact .pure none

theorem shallow_requireNode (value : Value) : Shallow (requireNode value) := by
  unfold requireNode
  split
  · exact .pure _
  · exact .throw nofun

/-! ## Constructors -/

theorem failsOnly_sizedElements (value : Json) :
    FailsOnly (· ≠ .outOfFuel) value.sizedElements := by
  unfold Json.sizedElements
  split
  · exact .ok _
  · exact .error nofun

theorem failsOnly_operandsOf (value : Json) :
    FailsOnly (· ≠ .outOfFuel) (operandsOf value) := by
  unfold operandsOf
  split
  · exact .ok _
  · exact .error nofun

theorem failsOnly_listNode (kind : ListConstructor) (members : List (Operand Cell)) :
    FailsOnly (· ≠ .outOfFuel) (kind.node members) := by
  cases kind with
  | tuple => exact (Construction.failsOnly_tuple members).mono fun _ isFault => isFault.isOther
  | intersection =>
      exact (Construction.failsOnly_intersection members).mono fun _ isFault => isFault.isOther
  | union => exact (Construction.failsOnly_union members).mono fun _ isFault => isFault.isOther

theorem failsOnly_literalsOr (values : List Json) (fallback : Operand Cell) :
    FailsOnly (· ≠ .outOfFuel) (Construction.literalsOr values fallback) := by
  refine .bind ((Construction.failsOnly_literals values).mono fun _ isFault => isFault.isOther)
    fun _ _ => ?_
  exact (Construction.failsOnly_union _).mono fun _ isFault => isFault.isOther

/-! ## Documents -/

theorem failsOnly_resolve (root : Json) (reference : String) :
    FailsOnly (· ≠ .outOfFuel) (Pointer.resolve root reference) :=
  (Pointer.failsOnly_resolve root reference).mono fun _ isFault => isFault.isSchemaFault.isOther

theorem failsOnly_draft (root schema : Json) :
    FailsOnly (· ≠ .outOfFuel) (root.draft schema).outcome := by
  intro failure failed
  obtain ⟨inner, _, faulty⟩ := Document.fault_of_draft_error failed
  exact (Form.faultsOnly_form root inner failure faulty).isOther

theorem failsOnly_body (root : Json) (reference : String) :
    FailsOnly (· ≠ .outOfFuel) (Document.body root reference) := by
  have fails := failsOnly_resolve root reference
  unfold Document.body
  cases resolved : Pointer.resolve root reference with
  | ok schema => exact failsOnly_draft root schema
  | error failure => exact .error (fails failure resolved)

theorem shallow_documentNode (document : Nat) (bound : Option Nat) (root schema : Json) :
    Shallow (documentNode document bound root schema) := by
  have fails := failsOnly_draft root schema
  unfold documentNode
  cases drafted : (root.draft schema).outcome with
  | ok node => exact .pure _
  | error failure => exact .throw (fails failure drafted)

theorem shallow_storeDraft (name : String) (root : Json) (namer : Option String) :
    Shallow (storeDraft name root namer) := by
  refine (shallow_namerOf? namer).bind fun bound => ?_
  refine Shallow.bind (fun _ => .ok _) fun document => ?_
  refine (shallow_documentNode document bound root root).bind fun node => ?_
  split
  · exact shallow_store _ _
  · exact (shallow_newValue _).bind fun _ => shallow_store _ _

/-! ## The rest -/

theorem shallow_cellNamed (name : String) : Shallow (cellNamed name) :=
  (shallow_find _ name).map Cell.alone

theorem shallow_activeName : Shallow activeName := by
  refine Shallow.get.bind fun desk => ?_
  split
  · exact .pure _
  · exact .throw nofun

theorem shallow_lookup (uri : Json) : Shallow (Registry.lookup uri) := by
  refine shallow_current.bind fun shelf => ?_
  have absent : Registry.absence shelf uri ≠ .outOfFuel := by
    unfold Registry.absence
    split
    · exact nofun
    · exact nofun
  have refused : Shallow (throw (.misuse (.notAKey uri.kind)) : ProgramWork PUnit) := .throw nofun
  cases Registry.holder? shelf uri with
  | some interpreter =>
      cases uri.isKey with
      | false => exact refused.bind fun _ => .pure interpreter
      | true => exact .pure interpreter
  | none =>
      cases uri.isKey with
      | false => exact refused.bind fun _ => .throw absent
      | true => exact .throw absent

theorem failsOnly_allow (shelf : Shelf) (uri : Json) (interpreter : Nat) :
    FailsOnly (· ≠ .outOfFuel) (Registry.allow shelf uri interpreter) := by
  unfold Registry.allow
  repeat' split
  all_goals first | exact .ok _ | exact .error nofun

theorem shallow_register (interpreter : Nat) : Shallow (Registry.register interpreter) := by
  refine (shallow_interpreterAt interpreter).bind fun found => ?_
  split
  · exact .throw nofun
  · next uri _ =>
      refine shallow_current.bind fun shelf => ?_
      cases allowed : Registry.allow shelf uri interpreter with
      | error failure => exact .throw (failsOnly_allow shelf uri interpreter failure allowed)
      | ok => exact .modify _

theorem shallow_chosen (choice : Choice) : Shallow (chosen choice) := by
  unfold chosen
  split
  · exact .pure _
  · exact .pure _
  · exact shallow_find _ _
  · exact shallow_lookup _
  · exact shallow_addInterpreter _

theorem failsOnly_size (shelf : Shelf) (definition : Definition) :
    FailsOnly (· ≠ .outOfFuel) (Retention.size shelf definition) := by
  unfold Retention.size
  split
  · exact .ok _
  · exact .error nofun

theorem failsOnly_describe (namer : Namer) : FailsOnly (· ≠ .outOfFuel) namer.describe := by
  refine FailsOnly.map ?_ _
  unfold Namer.countText
  split
  · exact .ok _
  · exact .error nofun

theorem failsOnly_create (stem : String) (start : Int) :
    FailsOnly (· ≠ .outOfFuel) (Namer.create stem start) := by
  unfold Namer.create
  split
  · exact .error nofun
  · exact .ok _

end Program

end SchemaSignature
