import SchemaSignature.Json.Display

/-!
Events worth a line in the log.
-/

namespace SchemaSignature

/-- Something that happened while a document was drafted or rendered. -/
inductive Event where
  | resolved (reference : String)
  | minted (name : String)
  /-- A lazy node was rendered for the first time, under this name. -/
  | expanding (name : String)
  | equalTags (tag : Json) (tags : List Json)
  deriving Repr

namespace Event

/-- The members of a discriminated choice fell back to a plain union; all else is routine. -/
def isWarning : Event → Bool
  | .equalTags .. => true
  | _ => false

def message : Event → String
  | .resolved reference => "Resolved reference " ++ reference
  | .minted name => "Minted reference name " ++ name
  | .expanding name => "Expanding recursive node " ++ name
  | .equalTags tag tags =>
      "Duplicate discriminator values for '" ++ tag.plain ++ "': " ++ (Json.arr tags).display ++
        "; rendering as a union"

end Event

end SchemaSignature
