import SchemaSignature.Failure

/-!
Normal schemas: object schemas list their properties and required names, array schemas have a schema
for their items. What is missing is added behind the other keywords.
-/

namespace SchemaSignature.Document

def withDefault (keyword : String) (value : Json) (schema : List (String × Json)) :
    List (String × Json) :=
  if Json.hasMember schema keyword then schema else schema ++ [(keyword, value)]

/-- Fills in the missing keywords of an object or array schema; other schemas stay as they are. -/
def normalize (schema : List (String × Json)) : List (String × Json) :=
  match Json.member? schema "type" with
  | some (.str "object") =>
      withDefault "required" (.arr []) (withDefault "properties" (.obj []) schema)
  | some (.str "array") =>
      if Json.hasMember schema "items" || Json.hasMember schema "prefixItems" then schema
      else schema ++ [("items", .obj [])]
  | _ => schema

/-- As `normalize`, for any value; only objects of keywords can be normalized. -/
def normalizeValue : Json → Except Failure (List (String × Json))
  | .obj schema => .ok (normalize schema)
  | _ => .error (.misuse .missingOperation)

end SchemaSignature.Document
