import SchemaSignature.Proofs.Naming.Cumulation
import SchemaSignature.Proofs.Naming.Names

/-!
The history of the names on a desk: which namers have been added, which names they have handed out,
which keys have got a name, and what has been declared. Whatever the moves of a history are, the
numbers of a namer go up by one with each name, a key gets a name once, and what has been declared
stays.
-/

namespace SchemaSignature

/-- The name that has been minted, if that is what has happened. -/
def Event.minted? : Event → Option String
  | .minted name => some name
  | _ => none

namespace Namer

/-- The names for the numbers after one up to another, without those too long to be written. -/
def namesBetween (stem : String) (first last : Nat) : List String :=
  ((List.range' (first + 1) (last - first)).filter (· < Nat.pow 10 Number.digitLimit)).map
    (numbered stem)

theorem namesBetween_self (stem : String) (number : Nat) : namesBetween stem number number = [] := by
  rw [namesBetween, Nat.sub_self, List.range'_zero]
  rfl

theorem namesBetween_append
    (stem : String) {first middle last : Nat} (lower : first ≤ middle) (upper : middle ≤ last) :
    namesBetween stem first middle ++ namesBetween stem middle last =
      namesBetween stem first last := by
  have begins : middle + 1 = first + 1 + 1 * (middle - first) := by omega
  have split : last - first = (middle - first) + (last - middle) := by omega
  rw [namesBetween, namesBetween, namesBetween, ← List.map_append, ← List.filter_append, begins,
    List.range'_append, split]

theorem nodup_namesBetween (stem : String) (first last : Nat) :
    (namesBetween stem first last).Nodup :=
  (List.Nodup.filter _ (List.nodup_range' 1)).map (numbered_injective stem)

/-- If the last number can be written, all of them have a name. -/
theorem namesBetween_of_lt
    (stem : String) {first last : Nat} (short : last < Nat.pow 10 Number.digitLimit) :
    namesBetween stem first last =
      (List.range' (first + 1) (last - first)).map (numbered stem) := by
  rw [namesBetween, List.filter_eq_self.mpr]
  intro number isBetween
  have atMost : number ≤ last := by
    have bounds := List.mem_range'_1.mp isBetween
    omega
  exact decide_eq_true (Nat.lt_of_le_of_lt atMost short)

theorem namesBetween_succ_of_named
    {namer : Namer} {name : String} (named : namer.nameOf (namer.count + 1) = .ok name) :
    namesBetween namer.stem namer.count (namer.count + 1) = [name] := by
  have short : namer.count + 1 < Nat.pow 10 Number.digitLimit := by
    by_contra long
    rw [nameOf_eq, if_neg long] at named
    cases named
  rw [namesBetween_of_lt namer.stem short, Nat.add_sub_cancel_left,
    eq_numbered_of_nameOf named]
  rfl

theorem namesBetween_succ_of_nameless
    {namer : Namer} {failure : Failure}
    (nameless : namer.nameOf (namer.count + 1) = .error failure) :
    namesBetween namer.stem namer.count (namer.count + 1) = [] := by
  have long := (nameOf_error nameless).2
  rw [namesBetween, Nat.add_sub_cancel_left, List.range'_one, List.filter_cons_of_neg]
  · rfl
  · simpa using long

/-- A namer has gone on to another state and handed out names on the way: those of all numbers that
it has come past and that can be written. -/
structure Advances (namer later : Namer) (handed : List String) : Prop where
  stem : later.stem = namer.stem
  count : namer.count ≤ later.count
  handed : handed = namesBetween namer.stem namer.count later.count
  declarations : namer.declarations <+: later.declarations

theorem Advances.refl (namer : Namer) : namer.Advances namer [] :=
  ⟨rfl, Nat.le_refl _, (namesBetween_self _ _).symm, List.prefix_rfl⟩

theorem Advances.trans
    {namer middle later : Namer} {before after : List String}
    (first : namer.Advances middle before) (second : middle.Advances later after) :
    namer.Advances later (before ++ after) where
  stem := second.stem.trans first.stem
  count := Nat.le_trans first.count second.count
  handed := by
    rw [first.handed, second.handed, first.stem]
    exact namesBetween_append namer.stem first.count second.count
  declarations := first.declarations.trans second.declarations

theorem advances_of_named
    {namer : Namer} {name : String} (named : namer.nameOf (namer.count + 1) = .ok name) :
    namer.Advances namer.advance [name] :=
  ⟨rfl, Nat.le_succ _, (namesBetween_succ_of_named named).symm, List.prefix_rfl⟩

theorem advances_of_nameless
    {namer : Namer} {failure : Failure}
    (nameless : namer.nameOf (namer.count + 1) = .error failure) :
    namer.Advances namer.advance [] :=
  ⟨rfl, Nat.le_succ _, (namesBetween_succ_of_nameless nameless).symm, List.prefix_rfl⟩

theorem advances_declare (namer : Namer) (name : String) (expansion : Signature) :
    namer.Advances (namer.declare name expansion) [] where
  stem := rfl
  count := Nat.le_refl _
  handed := (namesBetween_self _ _).symm
  declarations := by
    rcases declarations_declare namer name expansion with old | new
    · exact old ▸ List.prefix_rfl
    · exact new ▸ List.prefix_append _ _

end Namer

/-- What happens to the names on a desk. -/
inductive Move (key : Type) where
  /-- A namer is added that goes on from a number. -/
  | created (stem : String) (start : Nat)
  | minted (namer : Nat) (name : String)
  /-- A number is passed over because it is too long to be written. -/
  | skipped (namer : Nat)
  /-- The name of a key is claimed; `first` says whether the claim gives it the name. -/
  | claimed (leaf : key) (namer : Nat) (name : String) (first : Bool)
  | declared (namer : Nat) (name : String) (expansion : Signature)

namespace Move

variable {key : Type}

def namers : Move key → List Namer
  | created stem start => [{ stem := stem, count := start }]
  | _ => []

/-- The fresh name that a move hands out, with the namer that it comes from. -/
def fresh : Move key → List (Nat × String)
  | minted namer name => [(namer, name)]
  | claimed _ namer name true => [(namer, name)]
  | _ => []

/-- The key that a move gives a name to. -/
def named : Move key → List (key × String)
  | claimed leaf _ name true => [(leaf, name)]
  | _ => []

/-- The fresh names that a namer hands out in a history. -/
def handedBy (namer : Nat) (history : List (Move key)) : List String :=
  ((history.flatMap fresh).filter fun entry => entry.1 == namer).map Prod.snd

theorem handedBy_append (namer : Nat) (earlier later : List (Move key)) :
    handedBy namer (earlier ++ later) = handedBy namer earlier ++ handedBy namer later := by
  rw [handedBy, List.flatMap_append, List.filter_append, List.map_append]
  rfl

end Move

namespace Desk

variable {key own : Type}

/-- The names that the log of a desk says have been minted. -/
def mintedNames (desk : Desk key own) : List String :=
  desk.events.filterMap Event.minted?

/-- Something happens that does not concern the names. -/
structure Idles (desk after : Desk key own) : Prop where
  namers : after.namers = desk.namers
  names : after.names = desk.names
  minted : after.mintedNames = desk.mintedNames

/-- Something happens that concerns neither the names nor which namer is active. -/
structure Rests (desk after : Desk key own) : Prop extends Idles desk after where
  active : after.active = desk.active

theorem stepwise_rests : Stepwise (Rests : Desk key own → Desk key own → Prop) where
  refl _ := ⟨⟨rfl, rfl, rfl⟩, rfl⟩
  trans before later :=
    ⟨⟨later.namers.trans before.namers, later.names.trans before.names,
      later.minted.trans before.minted⟩, later.active.trans before.active⟩

variable [BEq key]

/-- A move is an operation on a desk that has the result that the move says. -/
inductive Takes : Desk key own → Move key → Desk key own → Prop where
  | created (desk : Desk key own) (stem : String) (start : Nat) :
      Takes desk (.created stem start)
        { desk with namers := desk.namers ++ [{ stem := stem, count := start }] }
  | minted {desk after : Desk key own} {namer : Nat} {name : String}
      (ran : (Work.mint namer).runOn desk = (.ok name, after)) :
      Takes desk (.minted namer name) after
  | skipped {desk after : Desk key own} {namer : Nat}
      (ran : (Work.mint namer).runOn desk = (.error (.misuse .numberTooLong), after)) :
      Takes desk (.skipped namer) after
  | claimed {desk after : Desk key own} {leaf : key} {namer : Nat} {name : String} {first : Bool}
      (ran : (Work.claim leaf namer).runOn desk = (.ok (name, first), after)) :
      Takes desk (.claimed leaf namer name first) after
  | declared {desk after : Desk key own} {namer : Nat} {name : String} {expansion : Signature}
      (ran : (Work.declare namer name expansion).runOn desk = (.ok (), after)) :
      Takes desk (.declared namer name expansion) after

/-- A desk goes from one state to another by the moves of a history. -/
inductive Evolves : Desk key own → List (Move key) → Desk key own → Prop where
  | rest (desk : Desk key own) : Evolves desk [] desk
  | idle {desk middle after : Desk key own} {history : List (Move key)}
      (idles : desk.Idles middle) (later : Evolves middle history after) :
      Evolves desk history after
  | move {desk middle after : Desk key own} {move : Move key} {history : List (Move key)}
      (taken : desk.Takes move middle) (later : Evolves middle history after) :
      Evolves desk (move :: history) after

theorem Evolves.trans
    {desk middle after : Desk key own} {earlier later : List (Move key)}
    (before : desk.Evolves earlier middle) (thereafter : middle.Evolves later after) :
    desk.Evolves (earlier ++ later) after := by
  induction before with
  | rest => exact thereafter
  | idle idles _ inductionHypothesis => exact .idle idles (inductionHypothesis thereafter)
  | move taken _ inductionHypothesis => exact .move taken (inductionHypothesis thereafter)

/-- Between two parts of a history there is a state of the desk. -/
theorem Evolves.split
    {desk after : Desk key own} {earlier later : List (Move key)}
    (evolves : desk.Evolves (earlier ++ later) after) :
    ∃ middle, desk.Evolves earlier middle ∧ middle.Evolves later after := by
  generalize whole : earlier ++ later = history at evolves
  induction evolves generalizing earlier with
  | rest desk =>
      obtain ⟨rfl, rfl⟩ := List.append_eq_nil_iff.mp whole
      exact ⟨desk, .rest desk, .rest desk⟩
  | idle idles _ inductionHypothesis =>
      obtain ⟨middle, before, thereafter⟩ := inductionHypothesis whole
      exact ⟨middle, .idle idles before, thereafter⟩
  | @move desk next after move rest taken evolvesLater inductionHypothesis =>
      cases earlier with
      | nil =>
          rw [List.nil_append] at whole
          subst whole
          exact ⟨desk, .rest desk, .move taken evolvesLater⟩
      | cons first others =>
          rw [List.cons_append] at whole
          obtain ⟨rfl, same⟩ := List.cons.inj whole
          obtain ⟨middle, before, thereafter⟩ := inductionHypothesis same
          exact ⟨middle, .move taken before, thereafter⟩

/-- What a desk shows at the end of a history. -/
structure Records (desk : Desk key own) (history : List (Move key)) (after : Desk key own) : Prop where
  /-- No namer is lost, and only those of the history are added. -/
  length : after.namers.length = (desk.namers ++ history.flatMap Move.namers).length
  /-- A namer has handed out the names of the numbers that it has come past. -/
  namers : ∀ (index : Nat) (origin : Namer),
    (desk.namers ++ history.flatMap Move.namers)[index]? = some origin →
      ∃ namer, after.namers[index]? = some namer ∧
        origin.Advances namer (Move.handedBy index history)
  /-- No name comes from a namer that does not exist. -/
  present : ∀ index, after.namers.length ≤ index → Move.handedBy index history = []
  /-- The keys with a name are those that were given one. -/
  names : after.names = desk.names ++ history.flatMap Move.named
  /-- No key is given a name twice. -/
  once : (desk.names.map Prod.fst).Nodup → (after.names.map Prod.fst).Nodup
  /-- Every claim of a key comes to the one name of the key. -/
  claims : ∀ leaf namer name first, Move.claimed leaf namer name first ∈ history →
    after.nameOf? leaf = some name
  /-- The log says which names are fresh. -/
  minted : after.mintedNames = desk.mintedNames ++ (history.flatMap Move.fresh).map Prod.snd

/-! ## A history in parts -/

section Parts

variable {desk middle after : Desk key own}

/-- Moves that hand out nothing and add nothing. -/
theorem Records.of_idles
    {history : List (Move key)} (idles : desk.Idles after)
    (noNamers : history.flatMap Move.namers = []) (noneFresh : history.flatMap Move.fresh = [])
    (noneNamed : history.flatMap Move.named = [])
    (claims : ∀ leaf namer name first, Move.claimed leaf namer name first ∈ history →
      desk.nameOf? leaf = some name) :
    desk.Records history after where
  length := by rw [idles.namers, noNamers, List.append_nil]
  namers := by
    intro index origin present
    rw [noNamers, List.append_nil] at present
    refine ⟨origin, by rw [idles.namers, present], ?_⟩
    rw [Move.handedBy, noneFresh]
    exact .refl origin
  present index _ := by rw [Move.handedBy, noneFresh]; rfl
  names := by rw [idles.names, noneNamed, List.append_nil]
  once different := by rw [idles.names]; exact different
  claims leaf namer name first isMove := by
    rw [nameOf?, idles.names]
    exact claims leaf namer name first isMove
  minted := by rw [idles.minted, noneFresh, List.map_nil, List.append_nil]

/-- A namer of the whole history is there after the first part, or it is added in the second. -/
theorem Records.namers_append
    {earlier later : List (Move key)}
    (before : desk.Records earlier middle) (thereafter : middle.Records later after)
    (index : Nat) (origin : Namer)
    (present : (desk.namers ++ (earlier ++ later).flatMap Move.namers)[index]? = some origin) :
    ∃ namer, after.namers[index]? = some namer ∧
      origin.Advances namer (Move.handedBy index (earlier ++ later)) := by
  rw [List.flatMap_append, ← List.append_assoc] at present
  rw [Move.handedBy_append]
  by_cases isEarly : index < middle.namers.length
  · rw [List.getElem?_append_left (before.length ▸ isEarly)] at present
    obtain ⟨namer, atMiddle, advances⟩ := before.namers index origin present
    have stillPresent : (middle.namers ++ later.flatMap Move.namers)[index]? = some namer := by
      rw [List.getElem?_append_left isEarly, atMiddle]
    obtain ⟨last, atEnd, advancesLater⟩ := thereafter.namers index namer stillPresent
    exact ⟨last, atEnd, advances.trans advancesLater⟩
  · have beyond : middle.namers.length ≤ index := Nat.le_of_not_lt isEarly
    rw [List.getElem?_append_right (before.length ▸ beyond), ← before.length,
      ← List.getElem?_append_right beyond] at present
    rw [before.present index beyond, List.nil_append]
    exact thereafter.namers index origin present

theorem Records.append
    {earlier later : List (Move key)}
    (before : desk.Records earlier middle) (thereafter : middle.Records later after) :
    desk.Records (earlier ++ later) after where
  length := by
    simp only [thereafter.length, List.length_append, before.length, List.flatMap_append,
      Nat.add_assoc]
  namers := before.namers_append thereafter
  present := by
    intro index beyond
    have beyondMiddle : middle.namers.length ≤ index := by
      rw [thereafter.length, List.length_append] at beyond
      omega
    rw [Move.handedBy_append, before.present index beyondMiddle, thereafter.present index beyond]
    rfl
  names := by
    rw [thereafter.names, before.names, List.flatMap_append, List.append_assoc]
  once different := thereafter.once (before.once different)
  claims := by
    intro leaf namer name first isMove
    rcases List.mem_append.mp isMove with isEarly | isLate
    · exact Table.lookup_eq_some_of_prefix (thereafter.names ▸ List.prefix_append _ _)
        (before.claims leaf namer name first isEarly)
    · exact thereafter.claims leaf namer name first isLate
  minted := by
    rw [thereafter.minted, before.minted, List.flatMap_append, List.map_append,
      List.append_assoc]

end Parts

/-! ## The moves -/

section Moves

variable {desk after : Desk key own} {index : Nat} {namer changed : Namer} {move : Move key}
  {handed : List String}

/-- A move that changes one namer, which hands out the fresh names of the move. -/
theorem Records.of_set
    (present : desk.namers[index]? = some namer) (advances : namer.Advances changed handed)
    (namers : after.namers = desk.namers.set index changed) (noNamers : move.namers = [])
    (fresh : move.fresh = handed.map fun name => (index, name))
    (names : after.names = desk.names ++ move.named)
    (once : (desk.names.map Prod.fst).Nodup → (after.names.map Prod.fst).Nodup)
    (claims : ∀ leaf namer name first, move = .claimed leaf namer name first →
      after.nameOf? leaf = some name)
    (minted : after.mintedNames = desk.mintedNames ++ handed) :
    desk.Records [move] after := by
  have inRange : index < desk.namers.length := (List.getElem?_eq_some_iff.mp present).1
  have handedHere : Move.handedBy index [move] = handed := by
    simp [Move.handedBy, fresh, List.filter_map, Function.comp_def]
  have handedElsewhere : ∀ other, other ≠ index → Move.handedBy other [move] = [] := by
    intro other different
    simp [Move.handedBy, fresh, List.filter_map, Function.comp_def, Ne.symm different]
  have noneAdded : [move].flatMap Move.namers = [] := by simp [noNamers]
  refine ⟨?_, ?_, ?_, ?_, once, ?_, ?_⟩
  · rw [noneAdded, List.append_nil, namers, List.length_set]
  · intro other origin found
    rw [noneAdded, List.append_nil] at found
    by_cases same : other = index
    · subst same
      cases present.symm.trans found
      refine ⟨changed, ?_, handedHere ▸ advances⟩
      rw [namers, List.getElem?_set_self inRange]
    · refine ⟨origin, ?_, handedElsewhere other same ▸ .refl origin⟩
      rw [namers, List.getElem?_set_ne (Ne.symm same), found]
  · intro other beyond
    rw [namers, List.length_set] at beyond
    exact handedElsewhere other (by omega)
  · rw [names, List.flatMap_singleton]
  · intro leaf other name first isMove
    exact claims leaf other name first (List.mem_singleton.mp isMove).symm
  · rw [minted, List.flatMap_singleton, fresh, List.map_map]
    simp [Function.comp_def]

omit [BEq key] in
/-- Minting a name takes the next number of a namer that exists. -/
theorem exists_of_runOn_mint
    {outcome : Except Failure String} (ran : (Work.mint index).runOn desk = (outcome, after)) :
    outcome = .error .undefined ∧ after = desk ∨
      ∃ namer, desk.namers[index]? = some namer ∧ outcome = namer.nameOf (namer.count + 1) ∧
        after.namers = desk.namers.set index namer.advance ∧ after.names = desk.names ∧
        after.events = desk.events ++ outcome.toOption.toList.map .minted := by
  cases present : desk.namers[index]? with
  | none =>
      rw [Work.runOn_mint_absent present] at ran
      cases ran
      exact Or.inl ⟨rfl, rfl⟩
  | some namer =>
      right
      cases minted : namer.nameOf (namer.count + 1) with
      | ok name =>
          rw [Work.runOn_mint_of_ok present minted] at ran
          cases ran
          exact ⟨namer, rfl, minted.symm, rfl, rfl, rfl⟩
      | error failure =>
          rw [Work.runOn_mint_of_error present minted] at ran
          cases ran
          exact ⟨namer, rfl, minted.symm, rfl, rfl, (List.append_nil _).symm⟩

omit [BEq key] in
theorem mintedNames_of_events
    {names : List String} (events : after.events = desk.events ++ names.map .minted) :
    after.mintedNames = desk.mintedNames ++ names := by
  rw [mintedNames, events, List.filterMap_append, List.filterMap_map]
  exact congrArg (desk.mintedNames ++ ·) List.filterMap_some

theorem Records.of_minted
    {name : String} (ran : (Work.mint index).runOn desk = (.ok name, after)) :
    desk.Records [.minted index name] after := by
  rcases exists_of_runOn_mint ran with ⟨impossible, _⟩ | ⟨namer, present, named, namers, names, events⟩
  · cases impossible
  · refine .of_set present (Namer.advances_of_named named.symm) namers rfl rfl ?_ ?_ ?_
      (mintedNames_of_events events)
    · rw [names]
      exact (List.append_nil _).symm
    · intro different
      rw [names]
      exact different
    · intro _ _ _ _ impossible
      cases impossible

theorem Records.of_skipped
    (ran : (Work.mint index).runOn desk = (.error (.misuse .numberTooLong), after)) :
    desk.Records [.skipped index] after := by
  rcases exists_of_runOn_mint ran with ⟨impossible, _⟩ | ⟨namer, present, named, namers, names, events⟩
  · cases impossible
  · refine .of_set present (Namer.advances_of_nameless named.symm) namers rfl rfl ?_ ?_ ?_
      (mintedNames_of_events events)
    · rw [names]
      exact (List.append_nil _).symm
    · intro different
      rw [names]
      exact different
    · intro _ _ _ _ impossible
      cases impossible

theorem Records.of_declared
    {name : String} {expansion : Signature}
    (ran : (Work.declare index name expansion).runOn desk = (.ok (), after)) :
    desk.Records [.declared index name expansion] after := by
  cases present : desk.namers[index]? with
  | none =>
      rw [Work.runOn_declare_absent present] at ran
      cases ran
  | some namer =>
      rw [Work.runOn_declare_of_present present] at ran
      cases ran
      refine .of_set present (namer.advances_declare name expansion) rfl rfl rfl ?_ id ?_ ?_
      · exact (List.append_nil _).symm
      · intro _ _ _ _ impossible
        cases impossible
      · exact (List.append_nil _).symm

theorem Records.of_created (desk : Desk key own) (stem : String) (start : Nat) :
    desk.Records [.created stem start]
      { desk with namers := desk.namers ++ [{ stem := stem, count := start }] } where
  length := rfl
  namers _ origin found := ⟨origin, found, .refl origin⟩
  present _ _ := rfl
  names := (List.append_nil _).symm
  once := id
  claims _ _ _ _ impossible := by cases List.mem_singleton.mp impossible
  minted := (List.append_nil _).symm

/-- The claim that gives a key its name. -/
theorem Records.of_first
    [LawfulBEq key] {leaf : key} (unnamed : desk.nameOf? leaf = none) {name : String}
    (ran : (Work.mint index).runOn desk = (.ok name, after)) :
    desk.Records [.claimed leaf index name true]
      { after with names := after.names ++ [(leaf, name)] } := by
  rcases exists_of_runOn_mint ran with ⟨impossible, _⟩ | ⟨namer, present, named, namers, names, events⟩
  · cases impossible
  · refine .of_set present (Namer.advances_of_named named.symm) namers rfl rfl ?_ ?_ ?_
      (mintedNames_of_events events)
    · exact congrArg (· ++ [(leaf, name)]) names
    · intro different
      rw [names]
      exact Table.nodup_keys_concat different unnamed name
    · intro other _ given _ same
      cases same
      rw [nameOf?] at unnamed ⊢
      rw [names, List.lookup_append, unnamed]
      simp

theorem Records.of_claimed
    [LawfulBEq key] {leaf : key} {name : String} {first : Bool}
    (ran : (Work.claim leaf index).runOn desk = (.ok (name, first), after)) :
    desk.Records [.claimed leaf index name first] after := by
  cases named : desk.nameOf? leaf with
  | some given =>
      rw [Work.runOn_claim_of_named named] at ran
      cases ran
      refine .of_idles ⟨rfl, rfl, rfl⟩ rfl rfl rfl ?_
      intro other _ given _ isMove
      cases List.mem_singleton.mp isMove
      exact named
  | none =>
      rcases minted : (Work.mint index).runOn desk with ⟨outcome, middle⟩
      cases outcome with
      | error failure =>
          rw [Work.runOn_claim_of_not_minted named minted] at ran
          cases ran
      | ok given =>
          rw [Work.runOn_claim_of_minted named minted] at ran
          cases ran
          exact .of_first named minted

theorem Takes.records [LawfulBEq key] (taken : desk.Takes move after) :
    desk.Records [move] after := by
  cases taken with
  | created stem start => exact .of_created desk stem start
  | minted ran => exact .of_minted ran
  | skipped ran => exact .of_skipped ran
  | claimed ran => exact .of_claimed ran
  | declared ran => exact .of_declared ran

end Moves

/-! ## Whole histories -/

section Histories

variable [LawfulBEq key] {desk after : Desk key own} {history : List (Move key)}

theorem Evolves.records (evolves : desk.Evolves history after) : desk.Records history after := by
  induction evolves with
  | rest desk => exact .of_idles ⟨rfl, rfl, rfl⟩ rfl rfl rfl fun _ _ _ _ isMove => by cases isMove
  | idle idles _ inductionHypothesis =>
      have unchanged : Records _ [] _ :=
        .of_idles idles rfl rfl rfl fun _ _ _ _ isMove => by cases isMove
      exact unchanged.append inductionHypothesis
  | move taken _ inductionHypothesis => exact taken.records.append inductionHypothesis

omit [LawfulBEq key] in
/-- A namer hands out different names. -/
theorem Records.nodup_handedBy (records : desk.Records history after) (index : Nat) :
    (Move.handedBy index history).Nodup := by
  cases present : (desk.namers ++ history.flatMap Move.namers)[index]? with
  | none =>
      have beyond := List.getElem?_eq_none_iff.mp present
      rw [records.present index (records.length ▸ beyond)]
      exact List.nodup_nil
  | some origin =>
      obtain ⟨namer, _, advances⟩ := records.namers index origin present
      rw [advances.handed]
      exact Namer.nodup_namesBetween _ _ _

/-- What a desk shows does not change until it is another one: namers keep their stem and what has
been declared, and their count does not fall; a key keeps its name. -/
structure Lasts (desk after : Desk key own) : Prop where
  namers : ∀ (index : Nat) (namer : Namer), desk.namers[index]? = some namer →
    ∃ later, after.namers[index]? = some later ∧ later.stem = namer.stem ∧
      namer.count ≤ later.count ∧
      ∀ name expansion, namer.declarations.lookup name = some expansion →
        later.declarations.lookup name = some expansion
  names : ∀ leaf name, desk.nameOf? leaf = some name → after.nameOf? leaf = some name

omit [LawfulBEq key] in
theorem Records.lasts (records : desk.Records history after) : desk.Lasts after where
  namers := by
    intro index namer present
    have inRange : index < desk.namers.length := (List.getElem?_eq_some_iff.mp present).1
    obtain ⟨later, atEnd, advances⟩ := records.namers index namer (by
      rw [List.getElem?_append_left inRange, present])
    exact ⟨later, atEnd, advances.stem, advances.count, fun _ _ found =>
      Table.lookup_eq_some_of_prefix advances.declarations found⟩
  names _ _ named :=
    Table.lookup_eq_some_of_prefix (records.names ▸ List.prefix_append _ _) named

end Histories

/-! ## Work that takes moves only -/

/-- A desk goes to another by the moves of some history. -/
def Develops (desk after : Desk key own) : Prop :=
  ∃ history, desk.Evolves history after

theorem develops_of_idles {desk after : Desk key own} (idles : desk.Idles after) :
    desk.Develops after :=
  ⟨[], .idle idles (.rest after)⟩

theorem develops_of_takes {desk after : Desk key own} {move : Move key}
    (taken : desk.Takes move after) : desk.Develops after :=
  ⟨[move], .move taken (.rest after)⟩

theorem stepwise_develops : Stepwise (Develops : Desk key own → Desk key own → Prop) where
  refl desk := ⟨[], .rest desk⟩
  trans := by
    rintro desk middle after ⟨earlier, before⟩ ⟨later, thereafter⟩
    exact ⟨earlier ++ later, before.trans thereafter⟩

theorem cumulative_develops : Cumulative (Develops : Desk key own → Desk key own → Prop) :=
  stepwise_develops.cumulative fun _ _ => develops_of_idles ⟨rfl, rfl, rfl⟩

theorem develops_mint (index : Nat) :
    Work.Keeps Develops (Work.mint index : Work key own String) := by
  intro desk
  rcases ran : (Work.mint index).runOn desk with ⟨outcome, after⟩
  rcases exists_of_runOn_mint ran with ⟨_, same⟩ | ⟨namer, _, minted, _⟩
  · exact same ▸ cumulative_develops.refl after
  · cases outcome with
    | ok name => exact develops_of_takes (.minted ran)
    | error failure =>
        have tooLong := (Namer.nameOf_error minted.symm).1
        exact develops_of_takes (.skipped (tooLong ▸ ran))

theorem develops_claim (leaf : key) (index : Nat) :
    Work.Keeps Develops (Work.claim leaf index : Work key own (String × Bool)) := by
  intro desk
  rcases ran : (Work.claim leaf index).runOn desk with ⟨outcome, after⟩
  cases outcome with
  | ok claimed => exact develops_of_takes (.claimed ran)
  | error failure =>
      cases named : desk.nameOf? leaf with
      | some name =>
          rw [Work.runOn_claim_of_named named] at ran
          cases ran
      | none =>
          have minting := develops_mint index desk
          rcases minted : (Work.mint index).runOn desk with ⟨outcome, middle⟩
          rw [minted] at minting
          cases outcome with
          | ok name =>
              rw [Work.runOn_claim_of_minted named minted] at ran
              cases ran
          | error cause =>
              rw [Work.runOn_claim_of_not_minted named minted] at ran
              cases ran
              exact minting

theorem develops_declare (index : Nat) (name : String) (expansion : Signature) :
    Work.Keeps Develops (Work.declare index name expansion : Work key own Unit) := by
  intro desk
  rcases ran : (Work.declare index name expansion).runOn desk with ⟨outcome, after⟩
  cases outcome with
  | ok done => exact develops_of_takes (.declared ran)
  | error failure =>
      cases present : desk.namers[index]? with
      | none =>
          rw [Work.runOn_declare_absent present] at ran
          cases ran
          exact cumulative_develops.refl desk
      | some namer =>
          rw [Work.runOn_declare_of_present present] at ran
          cases ran

theorem develops_enter (leaf : key) (index : Nat) :
    Work.Keeps Develops (Work.enter leaf index : Work key own (String × Bool)) := by
  refine cumulative_develops.bind (develops_claim leaf index) fun claimed => ?_
  split
  · refine cumulative_develops.bind (fun desk => develops_of_idles ⟨rfl, rfl, ?_⟩) fun _ =>
      cumulative_develops.pure claimed
    exact List.filterMap_append.trans (List.append_nil _)
  · exact cumulative_develops.pure claimed

end Desk

theorem Work.Keeps.develops
    {key own first : Type} [BEq key] {work : Work key own first} (rests : Work.Keeps Desk.Rests work) :
    Work.Keeps Desk.Develops work :=
  fun desk => Desk.develops_of_idles (rests desk).toIdles

end SchemaSignature
