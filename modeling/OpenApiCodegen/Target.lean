import OpenApiCodegen.Api.Binding
import OpenApiCodegen.Api.ReturnType
import OpenApiCodegen.Text.Basic

namespace OpenApiCodegen

inductive Target where
  | mobileClient
  | server
  | webClient
  deriving DecidableEq

inductive ExclusionRule where
  | binaryResponse
  | mapResponse
  deriving DecidableEq

inductive BindingProblem where
  | unsupportedLocation
  | missingPlaceholder
  deriving DecidableEq

structure BindingFault where
  parameter : String
  operation : String
  location : Api.Location
  target : Target
  problem : BindingProblem

inductive ExclusionReason where
  | rule (rule : ExclusionRule)
  | binding (fault : BindingFault)

namespace Target

def all : List Target :=
  [mobileClient, server, webClient]

def name : Target → String
  | mobileClient => "mobile-client"
  | server => "server"
  | webClient => "web-client"

def ofName? (name : String) : Option Target :=
  match Text.asciiLower name with
  | "mobile" | "mobile-client" | "dart" => some mobileClient
  | "server" | "go" => some server
  | "web" | "web-client" | "typescript" | "ts" => some webClient
  | _ => none

def unknownMessage (name : String) : String :=
  s!"unknown target '{Text.asciiLower name}', " ++
    "expected one of: mobile-client, server, web-client"

/-- The places where parameters can travel; no target sends cookies. -/
def locations : Target → List Api.Location
  | _ => [.path, .query, .header, .body, .form]

def supports (target : Target) (location : Api.Location) : Bool :=
  target.locations.contains location

def exclusions : Target → List ExclusionRule
  | mobileClient => [.binaryResponse, .mapResponse]
  | server => []
  | webClient => []

end Target

namespace ExclusionRule

def name : ExclusionRule → String
  | binaryResponse => "BinaryResponse"
  | mapResponse => "MapResponse"

def applies : ExclusionRule → Api.ReturnType → Bool
  | binaryResponse, .data .binary => true
  | binaryResponse, _ => false
  | mapResponse, returned => returned.types.any (·.containsMap)

end ExclusionRule

def BindingFault.message (fault : BindingFault) : String :=
  match fault.problem with
  | .unsupportedLocation =>
    s!"unsupported parameter '{fault.parameter}' in operation '{fault.operation}': " ++
      s!"{fault.location.name} parameters are not supported by the {fault.target.name} target"
  | .missingPlaceholder =>
    s!"path parameter '{fault.parameter}' of operation '{fault.operation}' " ++
      "has no placeholder in the path template"

def ExclusionReason.message : ExclusionReason → String
  | .rule broken => s!"excluded by rule {broken.name}"
  | .binding fault => fault.message

namespace Target

def problem? (target : Target) (path : String) (parameter : Api.Parameter) :
    Option BindingProblem :=
  if parameter.binding path = .unbound then some .missingPlaceholder
  else if target.supports parameter.location then none
  else some .unsupportedLocation

def fault? (target : Target) (operation : Api.Operation) : Option BindingFault :=
  operation.parameters.findSome? fun parameter =>
    (target.problem? operation.path parameter).map fun problem =>
      { parameter := parameter.wireName
        operation := operation.id
        location := parameter.location
        target
        problem }

def exclusion? (target : Target) (api : Api) (operation : Api.Operation) :
    Option ExclusionReason :=
  match target.fault? operation with
  | some fault => some (.binding fault)
  | none =>
    (target.exclusions.find? (·.applies (Api.returnType api operation))).map .rule

end Target

end OpenApiCodegen
