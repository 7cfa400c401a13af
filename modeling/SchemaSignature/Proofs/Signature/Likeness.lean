import SchemaSignature.Proofs.Signature.Leaves
import SchemaSignature.Signature.Printing

/-!
Signatures and nodes that are written alike. The two unknown containers have words of their own, which
are the texts of the containers of unknown elements, and a sum has the text of a union. The canonical
form of a signature puts one constructor in the place of such two, and has the same text. Nodes of the
same canonical form have the same lazy leaves in the same order; filled with signatures that are
written alike, they become signatures of the same text.
-/

/-! ## Canonical forms -/

namespace SchemaSignature

/-- The node of a primitive, where unknown containers are containers. -/
def Primitive.canonical {key : Type} : Primitive → Node key
  | .unknownArray => .container .array (.primitive .unknown)
  | .unknownRecord => .container .record (.primitive .unknown)
  | kind => .primitive kind

/-- A way to combine members, where the tag of a sum is left out of account. -/
def Grouping.canonical : Grouping → Grouping
  | .sum => .union
  | kind => kind

namespace Node

variable {key : Type}

mutual

def canonical : Node key → Node key
  | .primitive kind => kind.canonical
  | .literals values => .literals values
  | .fields presence entries => .fields presence (canonicalEntries entries)
  | .container kind element => .container kind (canonical element)
  | .group kind members => .group kind.canonical (canonicalMembers members)
  | .lazy key => .lazy key
  | .made text => .made text
  | .watched name => .watched name

def canonicalEntries : List (String × Node key) → List (String × Node key)
  | [] => []
  | (name, node) :: rest => (name, canonical node) :: canonicalEntries rest

def canonicalMembers : List (Node key) → List (Node key)
  | [] => []
  | node :: rest => canonical node :: canonicalMembers rest

end

theorem canonicalEntries_eq_map (entries : List (String × Node key)) :
    canonicalEntries entries = entries.map fun entry => (entry.1, canonical entry.2) := by
  induction entries with
  | nil => rfl
  | cons first rest inductionHypothesis =>
      rw [canonicalEntries, inductionHypothesis, List.map_cons]

theorem canonicalMembers_eq_map (members : List (Node key)) :
    canonicalMembers members = members.map canonical := by
  induction members with
  | nil => rfl
  | cons first rest inductionHypothesis =>
      rw [canonicalMembers, inductionHypothesis, List.map_cons]

mutual

/-- The canonical form of a signature has the same text. -/
theorem text_canonical : (signature : Signature) → signature.canonical.text = signature.text
  | .primitive kind => by cases kind <;> rfl
  | .literals _ | .lazy _ | .made _ | .watched _ => rfl
  | .fields presence entries => by
      rw [canonical, text, text, entryTexts_canonicalEntries entries]
  | .container kind element => by
      rw [canonical, text, text, text_canonical element]
  | .group kind members => by
      rw [canonical, text, text, memberTexts_canonicalMembers members]
      cases kind <;> rfl

theorem entryTexts_canonicalEntries :
    (entries : List (String × Signature)) →
      entryTexts (canonicalEntries entries) = entryTexts entries
  | [] => rfl
  | (name, node) :: rest => by
      rw [canonicalEntries, entryTexts, entryTexts, text_canonical node,
        entryTexts_canonicalEntries rest]

theorem memberTexts_canonicalMembers :
    (members : List Signature) → memberTexts (canonicalMembers members) = memberTexts members
  | [] => rfl
  | node :: rest => by
      rw [canonicalMembers, memberTexts, memberTexts, text_canonical node,
        memberTexts_canonicalMembers rest]

end

end Node

end SchemaSignature

/-! ## Nodes that are written alike -/

namespace SchemaSignature.Node

variable {key other : Type}

/-- Two nodes differ at most in constructors that are written alike. -/
def Alike (one second : Node key) : Prop :=
  one.canonical = second.canonical

/-! ## Leaves of canonical forms -/

theorem keys_primitive_canonical (kind : Primitive) :
    (kind.canonical : Node key).keys = [] := by
  cases kind <;> rfl

mutual

/-- The canonical form has the same lazy leaves. -/
theorem keys_canonical : (node : Node key) → node.canonical.keys = node.keys
  | .primitive kind => keys_primitive_canonical kind
  | .literals _ | .lazy _ | .made _ | .watched _ => rfl
  | .fields _ entries => by
      rw [canonical, keys, keys, keysOfEntries_canonicalEntries entries]
  | .container _ element => by
      rw [canonical, keys, keys, keys_canonical element]
  | .group _ members => by
      rw [canonical, keys, keys, keysOfMembers_canonicalMembers members]

theorem keysOfEntries_canonicalEntries :
    (entries : List (String × Node key)) →
      keysOfEntries (canonicalEntries entries) = keysOfEntries entries
  | [] => rfl
  | (_, node) :: rest => by
      rw [canonicalEntries, keysOfEntries, keysOfEntries, keys_canonical node,
        keysOfEntries_canonicalEntries rest]

theorem keysOfMembers_canonicalMembers :
    (members : List (Node key)) → keysOfMembers (canonicalMembers members) = keysOfMembers members
  | [] => rfl
  | node :: rest => by
      rw [canonicalMembers, keysOfMembers, keysOfMembers, keys_canonical node,
        keysOfMembers_canonicalMembers rest]

end

/-! ## Filling canonical forms -/

theorem fill_primitive_canonical (kind : Primitive) (parts : List (Node other)) :
    fill (kind.canonical : Node key) parts = kind.canonical := by
  cases kind <;> rfl

mutual

/-- The canonical form of a filled node is its canonical form filled with canonical forms. -/
theorem canonical_fill :
    (node : Node key) → (parts : List (Node other)) →
      (fill node parts).canonical = fill node.canonical (parts.map canonical)
  | .primitive kind, parts => by
      rw [fill, canonical, canonical, fill_primitive_canonical]
  | .literals _, _ | .made _, _ | .watched _, _ => rfl
  | .lazy _, parts => by
      cases parts <;> rfl
  | .fields _ entries, parts => by
      rw [fill, canonical, canonical, fill, canonicalEntries_fillEntries entries parts]
  | .container _ element, parts => by
      rw [fill, canonical, canonical, fill, canonical_fill element parts]
  | .group _ members, parts => by
      rw [fill, canonical, canonical, fill, canonicalMembers_fillMembers members parts]

theorem canonicalEntries_fillEntries :
    (entries : List (String × Node key)) → (parts : List (Node other)) →
      canonicalEntries (fillEntries entries parts) =
        fillEntries (canonicalEntries entries) (parts.map canonical)
  | [], _ => by
      rw [fillEntries, canonicalEntries, canonicalEntries, fillEntries]
  | (_, node) :: rest, parts => by
      rw [fillEntries, canonicalEntries, canonicalEntries, fillEntries, keys_canonical node,
        canonical_fill node, canonicalEntries_fillEntries rest, List.map_take, List.map_drop]

theorem canonicalMembers_fillMembers :
    (members : List (Node key)) → (parts : List (Node other)) →
      canonicalMembers (fillMembers members parts) =
        fillMembers (canonicalMembers members) (parts.map canonical)
  | [], _ => by
      rw [fillMembers, canonicalMembers, canonicalMembers, fillMembers]
  | node :: rest, parts => by
      rw [fillMembers, canonicalMembers, canonicalMembers, fillMembers, keys_canonical node,
        canonical_fill node, canonicalMembers_fillMembers rest, List.map_take, List.map_drop]

end

/-! ## Nodes that are alike -/

theorem Alike.keys_eq {one second : Node key} (alike : one.Alike second) :
    second.keys = one.keys := by
  rw [← keys_canonical one, ← keys_canonical second, alike]

theorem Alike.fill
    {one second : Node key} (alike : one.Alike second) {parts otherParts : List (Node other)}
    (partsAlike : otherParts.map canonical = parts.map canonical) :
    (one.fill parts).Alike (second.fill otherParts) := by
  unfold Alike
  rw [canonical_fill, canonical_fill, alike, partsAlike]

theorem Alike.text_eq {one second : Signature} (alike : one.Alike second) :
    second.text = one.text := by
  rw [← text_canonical one, ← text_canonical second, alike]

end SchemaSignature.Node
