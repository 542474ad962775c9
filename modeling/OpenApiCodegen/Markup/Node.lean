import OpenApiCodegen.Json.Value

namespace OpenApiCodegen.Markup

inductive ScalarStyle where
  | plain
  | literal
  | folded
  | quoted
  deriving DecidableEq

structure Scalar where
  text : String
  style : ScalarStyle
  tag : Option String

inductive Node where
  | null
  | bool (b : Bool)
  | number (n : Json.Number)
  | text (s : String)
  /-- A leaf that is well formed but has no value. -/
  | damaged
  | scalar (s : Scalar)
  | aliasOf (anchor : Nat)
  /-- A `positional` sequence may stand for a record, its items being the fields in order. -/
  | sequence (positional : Bool) (items : List Node)
  | mapping (entries : List (Node × Node))
  /-- A collection with a tag that only an application understands. -/
  | marked (node : Node)

instance : Inhabited Node := ⟨.null⟩

def Node.blank : Node :=
  .scalar ⟨"", .plain, none⟩

/-- A whole text. Decoding may enter `depth` nested collections and follow `jumps` aliases. -/
structure Document where
  root : Node
  anchors : List (Nat × Node)
  depth : Nat
  jumps : Nat

end OpenApiCodegen.Markup
