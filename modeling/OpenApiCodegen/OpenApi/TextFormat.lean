import OpenApiCodegen.Text.Basic

namespace OpenApiCodegen.OpenApi

inductive TextFormat where
  | json
  | yaml
  deriving DecidableEq

def TextFormat.name : TextFormat → String
  | .json => "JSON"
  | .yaml => "YAML"

def TextFormat.of (text : String) : TextFormat :=
  if (Text.trimStart text.toList).head? = some '\x7b' then .json else .yaml

end OpenApiCodegen.OpenApi
