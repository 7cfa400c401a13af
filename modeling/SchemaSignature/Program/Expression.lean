import SchemaSignature.Signature.Node

/-!
Expressions that build signatures. An expression says which constructors are applied to what; what
they make depends on the interpreter that it is evaluated with.
-/

namespace SchemaSignature.Program

inductive ListConstructor where
  | tuple
  | intersection
  | union
  deriving DecidableEq, Repr

/-- An expression that builds a signature, or something in the place of one. -/
inductive Expression where
  /-- A signature without parts, as the interpreter has it. -/
  | primitive (kind : Primitive)
  /-- The signature of null, the same for every interpreter. -/
  | null
  | raw (value : Json)
  | stored (name : String)
  /-- What a named definition makes with the same interpreter. -/
  | defined (name : String)
  | constant (text : String)
  /-- A node whose text is to be produced by a value. No value can. -/
  | produced (value : Json)
  /-- A node that reports each time it is rendered. -/
  | probe (name : String)
  | literals (values : Json)
  | literalsOr (values : Json) (fallback : Expression)
  | fields (presence : Presence) (entries : List (Json × Expression))
  | container (kind : Container) (element : Expression)
  | list (kind : ListConstructor) (members : List Expression)
  | listOf (kind : ListConstructor) (members : Json)
  | sum (tag : Json) (members : List (Json × Expression))
  /-- A node that is built when it is first rendered, with names from a given namer or the active
  one. -/
  | lazy (body : Expression) (namer : Option String)
  /-- As `lazy`, with a value as the body. No value can be built on demand. -/
  | lazyOf (producer : Json) (namer : Option String)
  deriving Inhabited, Repr

end SchemaSignature.Program
