/-!
Named signatures written as type aliases, one statement on each line.
-/

namespace SchemaSignature

def aliasStatement (name expansion : String) : String :=
  "type " ++ name ++ " = " ++ expansion ++ ";"

def aliasText (declarations : List (String × String)) : String :=
  "\n".intercalate (declarations.map fun entry => aliasStatement entry.1 entry.2)

end SchemaSignature
