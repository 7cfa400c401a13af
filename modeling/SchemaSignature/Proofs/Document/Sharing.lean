import SchemaSignature.Proofs.Document.Locations
import SchemaSignature.Proofs.Document.Termination

/-!
Which references share a name. A session gives one name to all references with the same spelling, and
different names to references that are spelled differently. So references to the same place share
their name if they are spelled in the canonical way, but not in general.
-/

namespace SchemaSignature.Document

theorem IsMet.exists_location {root : Json} {reference : String} (met : IsMet root reference) :
    ∃ location value, Pointer.locate? root reference = some location ∧
      Pointer.valueAt? root location = some value ∧ Reached root value := by
  obtain ⟨value, resolved, reached⟩ := met.exists_reached
  obtain ⟨location, located, isValue⟩ := Pointer.resolve_eq_ok_iff.mp resolved
  exact ⟨location, value, located, isValue, reached⟩

theorem eq_of_isCanonical
    {root : Json} {one other : String} (canonical : Pointer.IsCanonical root one)
    (otherCanonical : Pointer.IsCanonical root other)
    (sameLocation : Pointer.locate? root one = Pointer.locate? root other) : one = other := by
  rw [Pointer.IsCanonical, sameLocation] at canonical
  exact Option.some.inj (canonical.symm.trans otherCanonical)

/-- In an association list whose keys and values are all different, entries have the same value
exactly if they have the same key. -/
theorem snd_eq_iff_fst_eq
    {names : List (String × String)} (differentKeys : (names.map Prod.fst).Nodup)
    (differentNames : (names.map Prod.snd).Nodup) {one other : String × String}
    (isOne : one ∈ names) (isOther : other ∈ names) : one.2 = other.2 ↔ one.1 = other.1 := by
  constructor
  · intro sameName
    rw [List.inj_on_of_nodup_map differentNames isOne isOther sameName]
  · intro sameKey
    rw [List.inj_on_of_nodup_map differentKeys isOne isOther sameKey]

/-- Names go with spellings. Over any number of renderings a spelling is given a name and expanded at
most once; it leads to a place in the document, and is rendered as the name from then on. Two
references have the same name exactly if they are spelled alike, and so, if both are spelled in the
canonical way, exactly if they lead to the same place. Every place that a reference leads to has one
canonical spelling. -/
theorem names_by_spelling (root : Json) (namer : Namer) (bind : Bool) (count : Nat) :
    ((lastDesk root namer bind count).names.map Prod.fst).Nodup ∧
      (session root namer bind count).events.filterMap Event.minted? =
        (lastDesk root namer bind count).names.map Prod.snd ∧
      (session root namer bind count).events.filterMap Event.expanded? =
        (lastDesk root namer bind count).names.map Prod.snd ∧
      (∀ entry ∈ (lastDesk root namer bind count).names,
        (∃ location, Pointer.locate? root entry.1 = some location) ∧
          ∀ bound depth,
            ((workshop root bound).expand depth entry.1).runOn (lastDesk root namer bind count) =
              (.ok (.lazy entry.2), lastDesk root namer bind count)) ∧
      (∀ one ∈ (lastDesk root namer bind count).names,
        ∀ other ∈ (lastDesk root namer bind count).names,
          (one.2 = other.2 ↔ one.1 = other.1) ∧
            (Pointer.IsCanonical root one.1 → Pointer.IsCanonical root other.1 →
              (one.2 = other.2 ↔ Pointer.locate? root one.1 = Pointer.locate? root other.1))) ∧
      ∀ reference location, Pointer.locate? root reference = some location →
        ∃! canonical, Pointer.IsCanonical root canonical ∧
          Pointer.locate? root canonical = some location := by
  obtain ⟨ledger, names, apart, numbered⟩ := exists_ledger_lastDesk root namer bind count
  obtain ⟨entered, sameNames, minted, expanded⟩ := accounts_lastDesk root namer bind count
  have isEntered : (lastDesk root namer bind count).names = entered := sameNames
  refine ⟨?_, ?_, ?_, ?_, ?_, fun _ _ located => Pointer.existsUnique_canonical located⟩
  · rw [names]
    exact apart.once
  · rw [session_events, isEntered]
    exact minted
  · rw [session_events, isEntered]
    exact expanded
  · intro entry isEntry
    have isNamed : entry.1 ∈ ledger.names.map Prod.fst :=
      List.mem_map.mpr ⟨entry, names ▸ isEntry, rfl⟩
    obtain ⟨location, _, located, _⟩ := (apart.known entry.1 isNamed).exists_location
    refine ⟨⟨location, located⟩, fun bound depth => ?_⟩
    have named : (lastDesk root namer bind count).nameOf? entry.1 = some entry.2 := by
      rw [Desk.nameOf?, names]
      exact Table.lookup_eq_some_of_mem apart.once (names ▸ isEntry)
    exact (workshop root bound).runOn_expand_of_named named depth
  · rw [names]
    intro one isOne other isOther
    have bySpelling := snd_eq_iff_fst_eq apart.once numbered.different isOne isOther
    refine ⟨bySpelling, ?_⟩
    intro canonical otherCanonical
    constructor
    · intro sameName
      rw [bySpelling.mp sameName]
    · intro sameLocation
      exact bySpelling.mpr (eq_of_isCanonical canonical otherCanonical sameLocation)

/-- A document that refers to one definition in two spellings. -/
def twoSpellings : Json :=
  .obj [("anyOf", .arr [.obj [("$ref", .str "#/$defs/A")], .obj [("$ref", .str "#//$defs/A")]]),
    ("$defs", .obj [("A", .obj [("type", .str "string")])])]

/-- Two references to the same place are given different names, and the second is expanded where the
name of the first would do. -/
theorem twoSpellings_apart :
    Pointer.locate? twoSpellings "#/$defs/A" = some [.key "$defs", .key "A"] ∧
      Pointer.locate? twoSpellings "#//$defs/A" = some [.key "$defs", .key "A"] ∧
      (lastDesk twoSpellings Namer.standard true 1).names =
        [("#/$defs/A", "$Ref1"), ("#//$defs/A", "$Ref2")] ∧
      (session twoSpellings Namer.standard true 1).renderings =
        .ok [.ok (.group .union [.primitive .string, .primitive .string])] := by
  refine ⟨?_, ?_, ?_, ?_⟩ <;> rfl

end SchemaSignature.Document
