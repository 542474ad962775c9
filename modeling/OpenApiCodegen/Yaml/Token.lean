import OpenApiCodegen.Yaml.Cursor

namespace OpenApiCodegen.Yaml

open Markup (ScalarStyle)

inductive Token where
  | version (major minor : Nat)
  | tagHandle (handle start : String)
  | documentStart
  | documentEnd
  | blockSequence
  | blockMapping
  | blockEnd
  | flowSequence
  | flowSequenceEnd
  | flowMapping
  | flowMappingEnd
  | blockEntry
  | flowEntry
  | key
  | value
  | aliasOf (name : String)
  | anchor (name : String)
  | tag (handle suffix : String)
  | scalar (text : String) (style : ScalarStyle)
  | streamEnd
  deriving DecidableEq, Inhabited

end OpenApiCodegen.Yaml
