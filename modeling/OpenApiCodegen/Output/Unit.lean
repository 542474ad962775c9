import OpenApiCodegen.Output.Path
import OpenApiCodegen.Text.NameSet

namespace OpenApiCodegen.Output

/-- The code for one model, one operation or a part that they share. `imports` names the models that
it mentions and `requires` the other things that its file needs. -/
structure CodeUnit where
  name : String
  path : String
  code : String
  imports : NameSet
  requires : NameSet

structure Artifact where
  path : String
  contents : String
  deriving DecidableEq

def header : String :=
  "// Code generated by apigen. DO NOT EDIT.\n\n"

end OpenApiCodegen.Output
