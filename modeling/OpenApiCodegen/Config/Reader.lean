import OpenApiCodegen.Config.Basic
import OpenApiCodegen.Toml.Reader

namespace OpenApiCodegen

open Toml (Value)

/-- The settings with the given names. An array gives them in order, and what it has beyond them
does not count. -/
def settings? (names : List String) : Value → Option (List (Option Value))
  | .table members =>
    if members.all fun (key, _) => names.contains key then
      some (names.map fun name => members.lookup name)
    else none
  | .array items => some (names.zipIdx.map fun (_, n) => items[n]?)
  | _ => none

def setting? {α : Type} (read : Value → Option α) (default : α) : Option Value → Option α
  | some value => read value
  | none => some default

def text? : Value → Option String
  | .text s => some s
  | _ => none

def flag? : Value → Option Bool
  | .flag b => some b
  | _ => none

def MobileConfig.read? (value : Value) : Option MobileConfig := do
  let given ← settings? ["package_name", "model_dir", "api_dir", "client_name"] value
  let defaults : MobileConfig := {}
  match given with
  | [packageName, modelDir, apiDir, clientName] =>
    some
      { packageName := ← setting? text? defaults.packageName packageName
        modelDir := ← setting? text? defaults.modelDir modelDir
        apiDir := ← setting? text? defaults.apiDir apiDir
        clientName := ← setting? text? defaults.clientName clientName }
  | _ => none

def ServerConfig.read? (value : Value) : Option ServerConfig := do
  let given ← settings? ["package_name", "source_dir", "validate_requests"] value
  let defaults : ServerConfig := {}
  match given with
  | [packageName, sourceDir, validateRequests] =>
    some
      { packageName := ← setting? text? defaults.packageName packageName
        sourceDir := ← setting? text? defaults.sourceDir sourceDir
        validateRequests := ← setting? flag? defaults.validateRequests validateRequests }
  | _ => none

def WebConfig.read? (value : Value) : Option WebConfig := do
  let given ← settings? ["model_dir", "api_dir", "axios_instance"] value
  let defaults : WebConfig := {}
  match given with
  | [modelDir, apiDir, axiosInstance] =>
    some
      { modelDir := ← setting? text? defaults.modelDir modelDir
        apiDir := ← setting? text? defaults.apiDir apiDir
        axiosInstance := ← setting? text? defaults.axiosInstance axiosInstance }
  | _ => none

def Config.ofValue? (value : Value) : Option Config := do
  match ← settings? ["mobile", "server", "web"] value with
  | [mobile, server, web] =>
    some
      { mobile := ← setting? MobileConfig.read? {} mobile
        server := ← setting? ServerConfig.read? {} server
        web := ← setting? WebConfig.read? {} web }
  | _ => none

def Config.read? (text : String) : Option Config := do
  Config.ofValue? (← Toml.read? text)

end OpenApiCodegen
