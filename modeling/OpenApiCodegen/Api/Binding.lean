import OpenApiCodegen.Api.Basic
import OpenApiCodegen.Api.PathTemplate

namespace OpenApiCodegen.Api

inductive WireBinding where
  | pathSegment (position : PathTemplate.Position)
  | multiValue
  | firstValue
  | body
  | formField (multi : Bool)
  | cookie
  | unbound
  deriving DecidableEq

def Parameter.isArray (parameter : Parameter) : Bool :=
  parameter.type.isArray

def Parameter.isGlobal (parameter : Parameter) : Bool :=
  parameter.marked && (parameter.location == .header || parameter.location == .query)

def valueBinding (parameter : Parameter) : WireBinding :=
  if parameter.isArray then .multiValue else .firstValue

def Parameter.binding (path : String) (parameter : Parameter) : WireBinding :=
  match parameter.location with
  | .path =>
    match PathTemplate.position? path parameter.wireName with
    | some position => .pathSegment position
    | none => .unbound
  | .query => valueBinding parameter
  | .header => valueBinding parameter
  | .body => .body
  | .form => .formField parameter.isArray
  | .cookie => .cookie

def Operation.binding (operation : Operation) (parameter : Parameter) : WireBinding :=
  parameter.binding operation.path

def Operation.locals (operation : Operation) : List Parameter :=
  operation.parameters.filter (!·.isGlobal)

def Operation.globals (operation : Operation) : List Parameter :=
  operation.parameters.filter (·.isGlobal)

end OpenApiCodegen.Api
