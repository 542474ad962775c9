import OpenApiCodegen.OpenApi.TextFormat

namespace OpenApiCodegen

/-- `malformed` and `configuration` say no more than which text could not be read. `unfinished`
means that the types of the document refer to each other without end. -/
inductive GenerationError where
  | malformed (format : OpenApi.TextFormat)
  | configuration
  | duplicateOperation (id : String)
  | duplicateParameter (operation location name : String)
  | unsupportedShape (model reason : String)
  | unfinished
  deriving DecidableEq

def GenerationError.message : GenerationError → String
  | malformed format => s!"failed to parse {format.name} document: "
  | configuration => "invalid configuration: "
  | duplicateOperation id =>
    s!"duplicate operationId '{id}' detected; each operation must have a unique identifier"
  | duplicateParameter operation location name =>
    s!"duplicate {location} parameter '{name}' in operation '{operation}'"
  | unsupportedShape model reason => s!"model '{model}' has an unrecognized shape: {reason}"
  | unfinished => "the types of the document expand without end"

end OpenApiCodegen
