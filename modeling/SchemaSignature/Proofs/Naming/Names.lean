import Mathlib.Data.List.Nodup
import SchemaSignature.Naming.Namer
import SchemaSignature.Proofs.Text.Reading

/-!
The names of a namer: the stem and a number, so that names with different numbers are different. The
table of declarations keeps the first entry of every name.
-/

namespace SchemaSignature

namespace Namer

def numbered (stem : String) (number : Nat) : String :=
  stem ++ toString number

theorem numbered_injective (stem : String) : Function.Injective (numbered stem) := by
  intro one other same
  have sameDigits := congrArg String.toList (String.append_right_inj stem |>.mp same)
  rw [← List.append_nil (toString one).toList, ← List.append_nil (toString other).toList]
    at sameDigits
  exact (Text.digits_append_inj Text.endsNumber_nil Text.endsNumber_nil sameDigits).1

theorem nameOf_eq_of_stem_eq {one other : Namer} (same : one.stem = other.stem) :
    one.nameOf = other.nameOf := by
  funext number
  rw [nameOf, nameOf, same]

/-- A namer names every number that can be written. -/
theorem nameOf_eq (namer : Namer) (number : Nat) :
    namer.nameOf number =
      if number < Nat.pow 10 Number.digitLimit then .ok (numbered namer.stem number)
      else .error (.misuse .numberTooLong) := by
  by_cases short : number < Nat.pow 10 Number.digitLimit
  · have fits := (Number.fits_eq_true_iff Number.digitLimit number).mpr short
    rw [if_pos short, nameOf, countText, Number.numeral?, if_pos fits]
    rfl
  · have tooLong : ¬Number.fits Number.digitLimit number = true := fun fits =>
      short ((Number.fits_eq_true_iff Number.digitLimit number).mp fits)
    rw [if_neg short, nameOf, countText, Number.numeral?, if_neg tooLong]
    rfl

theorem eq_numbered_of_nameOf
    {namer : Namer} {number : Nat} {name : String} (named : namer.nameOf number = .ok name) :
    name = numbered namer.stem number := by
  rw [nameOf_eq] at named
  split at named
  · exact (Except.ok.inj named).symm
  · cases named

theorem nameOf_error
    {namer : Namer} {number : Nat} {failure : Failure}
    (unnamed : namer.nameOf number = .error failure) :
    failure = .misuse .numberTooLong ∧ Nat.pow 10 Number.digitLimit ≤ number := by
  rw [nameOf_eq] at unnamed
  split at unnamed
  · cases unnamed
  · next tooLong => exact ⟨(Except.error.inj unnamed).symm, Nat.le_of_not_lt tooLong⟩

/-- The names that have an entry. -/
def declared (namer : Namer) : List String :=
  namer.declarations.map Prod.fst

theorem mem_declared_declare
    {namer : Namer} {name other : String} {expansion : Signature} :
    other ∈ (namer.declare name expansion).declared ↔ other ∈ namer.declared ∨ other = name := by
  unfold declared declare Table.setIfAbsent
  split
  · next found =>
      obtain ⟨old, isOld, same⟩ := List.any_eq_true.mp found
      have present : name ∈ namer.declarations.map Prod.fst :=
        List.mem_map.mpr ⟨old, isOld, beq_iff_eq.mp same⟩
      constructor
      · exact Or.inl
      · rintro (isDeclared | rfl)
        · exact isDeclared
        · exact present
  · simp

theorem declarations_declare (namer : Namer) (name : String) (expansion : Signature) :
    (namer.declare name expansion).declarations = namer.declarations ∨
      (namer.declare name expansion).declarations = namer.declarations ++ [(name, expansion)] := by
  unfold declare Table.setIfAbsent
  split
  · exact Or.inl rfl
  · exact Or.inr rfl

theorem mem_declarations_declare
    {namer : Namer} {name : String} {expansion : Signature} {entry : String × Signature}
    (isEntry : entry ∈ (namer.declare name expansion).declarations) :
    entry ∈ namer.declarations ∨ entry = (name, expansion) := by
  rcases declarations_declare namer name expansion with old | new
  · exact Or.inl (old ▸ isEntry)
  · rw [new] at isEntry
    rcases List.mem_append.mp isEntry with isOld | isNew
    · exact Or.inl isOld
    · exact Or.inr (List.mem_singleton.mp isNew)

end Namer

namespace Table

variable {value : Type}

/-- An entry that is added to a table with changed entries is one that is changed after it has been
added, if different keys stay different. -/
theorem setIfAbsent_map
    {key newKey newValue : Type} [BEq key] [LawfulBEq key] [BEq newKey] [LawfulBEq newKey]
    {rename : key → newKey} (injective : Function.Injective rename) (change : value → newValue)
    (name : key) (content : value) (entries : List (key × value)) :
    (setIfAbsent (· == ·) name content entries).map (Prod.map rename change) =
      setIfAbsent (· == ·) (rename name) (change content)
        (entries.map (Prod.map rename change)) := by
  have sameTest : ((entries.map (Prod.map rename change)).any fun entry => entry.1 == rename name) =
      entries.any fun entry => entry.1 == name := by
    rw [List.any_map]
    refine congrArg entries.any (funext fun entry => ?_)
    rw [Bool.eq_iff_iff, Function.comp_apply, beq_iff_eq, beq_iff_eq]
    exact injective.eq_iff
  unfold setIfAbsent
  rw [sameTest]
  split
  · rfl
  · rw [List.map_append]
    rfl

theorem foldl_setIfAbsent
    {entries table : List (String × value)}
    (different : (table.map Prod.fst ++ entries.map Prod.fst).Nodup) :
    entries.foldl (fun table entry => setIfAbsent (· == ·) entry.1 entry.2 table) table =
      table ++ entries := by
  induction entries generalizing table with
  | nil => rw [List.foldl_nil, List.append_nil]
  | cons entry rest inductionHypothesis =>
      have absent : entry.1 ∉ table.map Prod.fst := by
        intro present
        rw [List.map_cons, List.nodup_append] at different
        exact different.2.2 entry.1 present entry.1 List.mem_cons_self rfl
      have added : setIfAbsent (· == ·) entry.1 entry.2 table = table ++ [entry] := by
        rw [setIfAbsent, if_neg]
        intro found
        obtain ⟨old, isOld, same⟩ := List.any_eq_true.mp found
        exact absent (List.mem_map.mpr ⟨old, isOld, beq_iff_eq.mp same⟩)
      have stillDifferent : ((table ++ [entry]).map Prod.fst ++ rest.map Prod.fst).Nodup := by
        rw [List.map_append, List.map_singleton, List.append_assoc]
        exact different
      rw [List.foldl_cons, added, inductionHypothesis stillDifferent, List.append_assoc,
        List.singleton_append]

theorem lookup_eq_some_of_mem
    {table : List (String × value)} (different : (table.map Prod.fst).Nodup)
    {name : String} {content : value} (isEntry : (name, content) ∈ table) :
    table.lookup name = some content := by
  obtain ⟨before, after, rfl⟩ := List.append_of_mem isEntry
  refine List.lookup_eq_some_iff.mpr ⟨before, after, rfl, ?_⟩
  intro entry isBefore
  rw [bne_iff_ne]
  intro same
  rw [List.map_append, List.map_cons, List.nodup_append] at different
  have isKeyBefore : entry.1 ∈ before.map Prod.fst := List.mem_map.mpr ⟨entry, isBefore, rfl⟩
  exact different.2.2 entry.1 isKeyBefore name List.mem_cons_self same.symm

theorem lookup_eq_some_of_prefix
    {key : Type} [BEq key] {table grown : List (key × value)} (isPrefix : table <+: grown)
    {name : key} {content : value} (found : table.lookup name = some content) :
    grown.lookup name = some content := by
  obtain ⟨more, rfl⟩ := isPrefix
  rw [List.lookup_append, found]
  rfl

/-- A new key at the end leaves the keys of a table different. -/
theorem nodup_keys_concat
    {key : Type} [BEq key] [LawfulBEq key] {table : List (key × value)}
    (different : (table.map Prod.fst).Nodup) {name : key} (absent : table.lookup name = none)
    (content : value) :
    ((table ++ [(name, content)]).map Prod.fst).Nodup := by
  rw [List.map_append, List.nodup_append]
  refine ⟨different, List.nodup_singleton name, ?_⟩
  rintro old isOld last isLast rfl
  obtain ⟨entry, isEntry, rfl⟩ := List.mem_map.mp isOld
  have differs := List.lookup_eq_none_iff.mp absent entry isEntry
  have isName : entry.1 = name := List.mem_singleton.mp isLast
  exact bne_iff_ne.mp differs isName.symm

end Table

end SchemaSignature
