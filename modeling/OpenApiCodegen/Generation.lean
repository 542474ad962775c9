import OpenApiCodegen.Lowering.Operations
import OpenApiCodegen.MobileClient.Files
import OpenApiCodegen.Server.Files
import OpenApiCodegen.Target
import OpenApiCodegen.WebClient.Files

namespace OpenApiCodegen

open Api (Model Operation)
open Output (CodeUnit Artifact)

structure Source where
  api : Api
  document : Option Json.Value

def Source.of (doc : OpenApi.Document) : Except GenerationError Source := do
  pure { api := ← Lowering.lower (.of doc), document := doc.source }

namespace Target

def modelUnit (target : Target) (config : Config) (api : Api) (model : Model) : CodeUnit :=
  match target with
  | mobileClient => MobileClient.modelUnit config.mobile api model
  | server => Server.modelUnit config.server api model
  | webClient => WebClient.modelUnit config.web api model

def operationUnit (target : Target) (config : Config) (source : Source) (operation : Operation) :
    CodeUnit :=
  match target with
  | mobileClient => MobileClient.methodUnit config.mobile source.api operation
  | server => Server.handlerUnit config.server source.document source.api operation
  | webClient => WebClient.requestUnit config.web source.api operation

def sharedUnits (target : Target) (config : Config) (source : Source)
    (operations : List Operation) : List CodeUnit :=
  match target with
  | mobileClient => MobileClient.sharedUnits config.mobile source.api operations
  | server => Server.sharedUnits config.server source.document operations
  | webClient => WebClient.sharedUnits config.web source.api operations

def files (target : Target) (config : Config) (models operations shared : List CodeUnit) :
    List Artifact :=
  match target with
  | mobileClient => MobileClient.files config.mobile models operations shared
  | server => Server.files config.server models operations shared
  | webClient => WebClient.files config.web models operations shared

end Target

structure Exclusion where
  id : Nat
  operation : String
  reason : ExclusionReason

structure GeneratedCode where
  target : Target
  models : List (Nat × CodeUnit)
  operations : List (Nat × CodeUnit)
  shared : List CodeUnit
  excluded : List Exclusion
  artifacts : List Artifact

namespace GeneratedCode

def artifact? (code : GeneratedCode) (path : String) : Option Artifact :=
  code.artifacts.find? (·.path = path)

def excludes (code : GeneratedCode) (id : Nat) : Bool :=
  code.excluded.any (·.id = id)

def modelUnit? (code : GeneratedCode) (name : String) : Option CodeUnit :=
  (code.models.map (·.2)).find? (·.name = name)

def operationUnit? (code : GeneratedCode) (name : String) : Option CodeUnit :=
  (code.operations.map (·.2)).find? (·.name = name)

end GeneratedCode

def unsupported? (model : Model) : Option GenerationError :=
  match model.shape with
  | .unsupported reason => some (.unsupportedShape model.name reason)
  | _ => none

/-- Whether a model has a unit of its own: the parts of compositions have none, and variants of a
single union go where the union is declared. -/
def hasUnit (api : Api) (id : Nat) (model : Model) : Bool :=
  !Api.isUnionOnly api id && model.origin != .composition

namespace Api

def unitModels (api : Api) : List (Nat × Model) :=
  api.numberedModels.filter fun (id, model) => hasUnit api id model

def includedOperations (target : Target) (api : Api) : List (Nat × Operation) :=
  api.numberedOperations.filter fun (_, operation) => (target.exclusion? api operation).isNone

def exclusions (target : Target) (api : Api) : List Exclusion :=
  api.numberedOperations.filterMap fun (id, operation) =>
    (target.exclusion? api operation).map fun reason => ⟨id, operation.id, reason⟩

end Api

def generate (target : Target) (config : Config) (source : Source) :
    Except GenerationError GeneratedCode :=
  let api := source.api
  match api.models.findSome? unsupported? with
  | some error => .error error
  | none =>
    let included := api.includedOperations target
    let models := api.unitModels.map fun (id, model) => (id, target.modelUnit config api model)
    let operations := included.map fun (id, operation) =>
      (id, target.operationUnit config source operation)
    let shared := target.sharedUnits config source (included.map (·.2))
    .ok
      { target
        models
        operations
        shared
        excluded := api.exclusions target
        artifacts := target.files config (models.map (·.2)) (operations.map (·.2)) shared }

end OpenApiCodegen
