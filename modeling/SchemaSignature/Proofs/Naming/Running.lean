import SchemaSignature.Naming.Expansion
import SchemaSignature.Proofs.Signature.Leaves

/-!
Running work on a desk. Work runs step by step, and a failing step ends it; rebuilding a node is
running the work on its leaves from left to right and filling the node with the results.
-/

namespace SchemaSignature

namespace Work

variable {key own first second : Type}

@[simp]
theorem runOn_pure (value : first) (desk : Desk key own) :
    (pure value : Work key own first).runOn desk = (.ok value, desk) :=
  rfl

@[simp]
theorem runOn_throw (failure : Failure) (desk : Desk key own) :
    (throw failure : Work key own first).runOn desk = (.error failure, desk) :=
  rfl

@[simp]
theorem runOn_ofExcept (outcome : Except Failure first) (desk : Desk key own) :
    (ofExcept outcome : Work key own first).runOn desk = (outcome, desk) := by
  cases outcome <;> rfl

@[simp]
theorem runOn_log (event : Event) (desk : Desk key own) :
    (log event).runOn desk = (.ok (), { desk with events := desk.events ++ [event] }) :=
  rfl

theorem runOn_bind (work : Work key own first) (next : first → Work key own second)
    (desk : Desk key own) :
    (work >>= next).runOn desk =
      match work.runOn desk with
      | (.ok value, after) => (next value).runOn after
      | (.error failure, after) => (.error failure, after) := by
  have continued :
      (work >>= next).runOn desk =
        ExceptT.bindCont next (work.runOn desk).1 (work.runOn desk).2 :=
    rfl
  rw [continued]
  rcases work.runOn desk with ⟨outcome, after⟩
  cases outcome <;> rfl

theorem runOn_bind_of_ok
    {work : Work key own first} {next : first → Work key own second}
    {desk after : Desk key own} {value : first} (ran : work.runOn desk = (.ok value, after)) :
    (work >>= next).runOn desk = (next value).runOn after := by
  rw [runOn_bind, ran]

theorem runOn_bind_of_error
    {work : Work key own first} {next : first → Work key own second}
    {desk after : Desk key own} {failure : Failure} (ran : work.runOn desk = (.error failure, after)) :
    (work >>= next).runOn desk = (.error failure, after) := by
  rw [runOn_bind, ran]

theorem runOn_bind_eq_ok_iff
    {work : Work key own first} {next : first → Work key own second}
    {desk after : Desk key own} {result : second} :
    (work >>= next).runOn desk = (.ok result, after) ↔
      ∃ value middle, work.runOn desk = (.ok value, middle) ∧
        (next value).runOn middle = (.ok result, after) := by
  rw [runOn_bind]
  rcases work.runOn desk with ⟨outcome, middle⟩
  cases outcome with
  | ok value => simp
  | error failure => simp

@[simp]
theorem runOn_get_bind (next : Desk key own → Work key own first) (desk : Desk key own) :
    (get >>= next).runOn desk = (next desk).runOn desk :=
  rfl

@[simp]
theorem runOn_modify_bind (change : Desk key own → Desk key own)
    (next : Unit → Work key own first) (desk : Desk key own) :
    (modify change >>= next).runOn desk = (next ()).runOn (change desk) :=
  rfl

theorem runOn_tryCatch
    (work : Work key own first) (recover : Failure → Work key own first) (desk : Desk key own) :
    (tryCatch work recover).runOn desk =
      match work.runOn desk with
      | (.ok value, after) => (.ok value, after)
      | (.error failure, after) => (recover failure).runOn after := by
  have caught : (tryCatch work recover).run = _ := ExceptT.run_tryCatch work recover
  have continued (next : Except Failure first → StateM (Desk key own) (Except Failure first)) :
      (work.run >>= next) desk = next (work.runOn desk).1 (work.runOn desk).2 :=
    rfl
  change (tryCatch work recover).run desk = _
  rw [caught, continued]
  rcases work.runOn desk with ⟨outcome, after⟩
  cases outcome <;> rfl

theorem runOn_withActive
    (active : Option Nat) (work : Work key own first) (desk : Desk key own) :
    (withActive active work).runOn desk =
      ((work.runOn { desk with active := active }).1,
        { (work.runOn { desk with active := active }).2 with active := desk.active }) :=
  rfl

section Namers

variable {index : Nat}

theorem namer_set_self
    {namers : List Namer} {namer : Namer} (present : namers[index]? = some namer) (changed : Namer) :
    (namers.set index changed)[index]? = some changed := by
  have inRange : index < namers.length := (List.getElem?_eq_some_iff.mp present).1
  rw [List.getElem?_set_self inRange]

theorem namer_of_set
    {namers : List Namer} {other : Nat} {changed namer : Namer}
    (present : (namers.set other changed)[index]? = some namer) :
    index = other ∧ namer = changed ∨ namers[index]? = some namer := by
  rw [List.getElem?_set] at present
  split at present
  · next same =>
      split at present
      · exact Or.inl ⟨same.symm, (Option.some.inj present).symm⟩
      · cases present
  · exact Or.inr present

theorem runOn_namerAt
    {desk : Desk key own} {namer : Namer} (present : desk.namers[index]? = some namer) :
    (namerAt index).runOn desk = (.ok namer, desk) := by
  rw [namerAt, runOn_get_bind, present]
  rfl

theorem runOn_putNamer (namer : Namer) (desk : Desk key own) :
    (putNamer index namer).runOn desk =
      (.ok (), { desk with namers := desk.namers.set index namer }) :=
  rfl

theorem runOn_namerAt_absent {desk : Desk key own} (absent : desk.namers[index]? = none) :
    (namerAt index).runOn desk = (.error .undefined, desk) := by
  rw [namerAt, runOn_get_bind, absent]
  rfl

theorem runOn_mint_of_ok
    {desk : Desk key own} {namer : Namer} (present : desk.namers[index]? = some namer)
    {name : String} (named : namer.nameOf (namer.count + 1) = .ok name) :
    (mint index).runOn desk =
      (.ok name, { desk with
        namers := desk.namers.set index namer.advance
        events := desk.events ++ [.minted name] }) := by
  rw [mint, runOn_bind_of_ok (runOn_namerAt present)]
  simp only [Namer.mint, named]
  rw [runOn_bind_of_ok (runOn_putNamer _ _)]
  rfl

theorem runOn_mint_of_error
    {desk : Desk key own} {namer : Namer} (present : desk.namers[index]? = some namer)
    {failure : Failure} (nameless : namer.nameOf (namer.count + 1) = .error failure) :
    (mint index).runOn desk =
      (.error failure, { desk with namers := desk.namers.set index namer.advance }) := by
  rw [mint, runOn_bind_of_ok (runOn_namerAt present)]
  simp only [Namer.mint, nameless]
  rw [runOn_bind_of_ok (runOn_putNamer _ _)]
  rfl

theorem runOn_mint_absent {desk : Desk key own} (absent : desk.namers[index]? = none) :
    (mint index).runOn desk = (.error .undefined, desk) := by
  rw [mint, runOn_bind_of_error (runOn_namerAt_absent absent)]

theorem runOn_declare_of_present
    {desk : Desk key own} {namer : Namer} (present : desk.namers[index]? = some namer)
    (name : String) (expansion : Signature) :
    (declare index name expansion).runOn desk =
      (.ok (), { desk with namers := desk.namers.set index (namer.declare name expansion) }) := by
  rw [declare, runOn_bind_of_ok (runOn_namerAt present)]
  rfl

theorem runOn_declare_absent
    {desk : Desk key own} (absent : desk.namers[index]? = none) (name : String)
    (expansion : Signature) :
    (declare index name expansion).runOn desk = (.error .undefined, desk) := by
  rw [declare, runOn_bind_of_error (runOn_namerAt_absent absent)]

section Claims

variable [BEq key] {leaf : key} {desk : Desk key own}

theorem runOn_claim_of_named {name : String} (named : desk.nameOf? leaf = some name) :
    (claim leaf index).runOn desk = (.ok (name, false), desk) := by
  rw [claim, runOn_get_bind, named]
  rfl

/-- The first claim of a key mints its name. -/
theorem runOn_claim_of_minted
    (unnamed : desk.nameOf? leaf = none) {name : String} {after : Desk key own}
    (minted : (mint index).runOn desk = (.ok name, after)) :
    (claim leaf index).runOn desk =
      (.ok (name, true), { after with names := after.names ++ [(leaf, name)] }) := by
  rw [claim, runOn_get_bind, unnamed]
  change (mint index >>= _).runOn desk = _
  rw [runOn_bind_of_ok minted]
  rfl

theorem runOn_claim_of_not_minted
    (unnamed : desk.nameOf? leaf = none) {failure : Failure} {after : Desk key own}
    (failed : (mint index).runOn desk = (.error failure, after)) :
    (claim leaf index).runOn desk = (.error failure, after) := by
  rw [claim, runOn_get_bind, unnamed]
  change (mint index >>= _).runOn desk = _
  rw [runOn_bind_of_error failed]

end Claims

end Namers

/-- Does work on each of several values in order. -/
def onEach (work : first → Work key own second) : List first → Work key own (List second)
  | [] => pure []
  | value :: rest => do
      let result ← work value
      let others ← onEach work rest
      pure (result :: others)

theorem runOn_onEach_length
    {work : first → Work key own second} {values : List first} {results : List second}
    {desk after : Desk key own} (ran : (onEach work values).runOn desk = (.ok results, after)) :
    results.length = values.length := by
  induction values generalizing results desk with
  | nil =>
      cases ran
      rfl
  | cons value rest inductionHypothesis =>
      rw [onEach, runOn_bind] at ran
      split at ran
      · next result middle _ =>
          rw [runOn_bind] at ran
          split at ran
          · next others last later =>
              cases ran
              rw [List.length_cons, List.length_cons, inductionHypothesis later]
          · cases ran
      · cases ran

theorem onEach_bind_congr
    {third : Type} {work : first → Work key own second} {values : List first}
    {one other : List second → Work key own third}
    (same : ∀ results, results.length = values.length → one results = other results) :
    onEach work values >>= one = onEach work values >>= other := by
  funext desk
  change (onEach work values >>= one).runOn desk = (onEach work values >>= other).runOn desk
  rw [runOn_bind, runOn_bind]
  split
  · next results after ran => rw [same results (runOn_onEach_length ran)]
  · rfl

theorem onEach_append (work : first → Work key own second) (left right : List first) :
    onEach work (left ++ right) =
      onEach work left >>= fun leftResults =>
        onEach work right >>= fun rightResults => pure (leftResults ++ rightResults) := by
  induction left with
  | nil => simp [onEach]
  | cons value rest inductionHypothesis => simp [onEach, inductionHypothesis]

end Work

namespace Node

variable {key leaf own other : Type} (expand : leaf → Work key own (Node other))

mutual

theorem traverse_eq_onEach :
    (node : Node leaf) →
      traverse expand (fun _ => pure ()) node =
        Work.onEach expand (keys node) >>= fun parts => pure (fill node parts)
  | .primitive _ | .literals _ | .made _ | .watched _ => by
      simp [traverse, keys, Work.onEach, fill]
  | .lazy _ => by
      simp [traverse, keys, Work.onEach, fill]
  | .fields presence entries => by
      rw [traverse, traverseEntries_eq_onEach entries]
      simp only [bind_assoc, pure_bind, keys, fill]
  | .container kind element => by
      rw [traverse, traverse_eq_onEach element]
      simp only [bind_assoc, pure_bind, keys, fill]
  | .group kind members => by
      rw [traverse, traverseMembers_eq_onEach members]
      simp only [bind_assoc, pure_bind, keys, fill]

theorem traverseEntries_eq_onEach :
    (entries : List (String × Node leaf)) →
      traverseEntries expand (fun _ => pure ()) entries =
        Work.onEach expand (keysOfEntries entries) >>= fun parts => pure (fillEntries entries parts)
  | [] => by simp [traverseEntries, keysOfEntries, Work.onEach, fillEntries]
  | (name, node) :: rest => by
      rw [traverseEntries, traverse_eq_onEach node, traverseEntries_eq_onEach rest, keysOfEntries,
        Work.onEach_append]
      simp only [bind_assoc, pure_bind]
      apply Work.onEach_bind_congr
      intro parts sameLength
      simp only [fillEntries_append name node rest _ sameLength]

theorem traverseMembers_eq_onEach :
    (members : List (Node leaf)) →
      traverseMembers expand (fun _ => pure ()) members =
        Work.onEach expand (keysOfMembers members) >>= fun parts => pure (fillMembers members parts)
  | [] => by simp [traverseMembers, keysOfMembers, Work.onEach, fillMembers]
  | node :: rest => by
      rw [traverseMembers, traverse_eq_onEach node, traverseMembers_eq_onEach rest, keysOfMembers,
        Work.onEach_append]
      simp only [bind_assoc, pure_bind]
      apply Work.onEach_bind_congr
      intro parts sameLength
      simp only [fillMembers_append node rest _ sameLength]

end

end Node

namespace Workshop

variable {key own : Type} [BEq key] (workshop : Workshop key own) {desk : Desk key own} {leaf : key}
  {name : String}

/-- A leaf that has a name is rendered as that name, and nothing else happens. -/
theorem runOn_expandWith_of_named
    (named : desk.nameOf? leaf = some name) (inner : key → Work key own Signature) :
    (workshop.expandWith inner leaf).runOn desk = (.ok (.lazy name), desk) := by
  rw [expandWith, Work.runOn_get_bind, Work.runOn_bind_of_ok (Work.runOn_claim_of_named named)]
  rfl

theorem runOn_expand_of_named (named : desk.nameOf? leaf = some name) (depth : Nat) :
    (workshop.expand depth leaf).runOn desk = (.ok (.lazy name), desk) := by
  cases depth with
  | zero => exact workshop.runOn_expandWith_of_named named _
  | succ depth => exact workshop.runOn_expandWith_of_named named _

end Workshop

end SchemaSignature
