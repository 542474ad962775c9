import OpenApiCodegen.Output.Unit
import OpenApiCodegen.WebClient.Shared

namespace OpenApiCodegen.WebClient

open Api (Model Operation)
open Output (CodeUnit Artifact joinPath relativePath header)

def clientModule : String := "client"

def requestsModule : String := "api"

def globalsModule : String := "global-parameters"

def modelModule (name : String) : String :=
  Text.kebabCase name

def sourceFile (moduleName : String) : String :=
  moduleName ++ ".ts"

def modelUnit (config : WebConfig) (api : Api) (model : Model) : CodeUnit :=
  { name := model.name
    path := joinPath config.modelDir (sourceFile (modelModule model.name))
    code := render (modelDeclarations api model)
    imports := modelImports api model
    requires := modelRequires model }

def requestUnit (config : WebConfig) (api : Api) (operation : Operation) : CodeUnit :=
  let request := request api operation
  { name := request.name
    path := joinPath config.apiDir (sourceFile requestsModule)
    code := request.code config.axiosInstance
    imports := requestImports api operation
    requires := .empty }

def sharedUnit (config : WebConfig) (moduleName code : String) : CodeUnit :=
  { name := moduleName
    path := joinPath config.apiDir (sourceFile moduleName)
    code
    imports := .empty
    requires := .empty }

def sharedUnits (config : WebConfig) (api : Api) (operations : List Operation) :
    List CodeUnit :=
  sharedUnit config clientModule (clientCode config.axiosInstance) ::
    if Api.reachesGlobals api operations then
      [sharedUnit config globalsModule (globalParametersCode (Api.globalGroups api))]
    else []

def modelFile (config : WebConfig) (emitted : List String) (unit : CodeUnit) : Artifact :=
  let models := (unit.imports.filter emitted.contains).names.map fun name =>
    importCode true [name] ("./" ++ modelModule name)
  let client := relativePath config.modelDir config.apiDir ++ "/" ++ clientModule
  let helpers :=
    if unit.requires.names.isEmpty then [] else [importCode false unit.requires.names client]
  let gap :=
    if unit.imports.names.isEmpty && unit.requires.names.isEmpty then [] else [Code.blank]
  { path := unit.path
    contents := header ++ Code.render indent (models ++ helpers ++ gap) ++ unit.code }

def indexFile (config : WebConfig) (models : List CodeUnit) : Artifact :=
  let exports := models.map fun unit =>
    Code.line ("export * from \"./" ++ modelModule unit.name ++ "\";")
  { path := joinPath config.modelDir "index.ts", contents := header ++ Code.render indent exports }

def requestsFile (config : WebConfig) (emitted : List String) (operations : List CodeUnit) :
    Artifact :=
  let models :=
    (NameSet.ofList (operations.flatMap (·.imports.names))).filter emitted.contains
  let source := relativePath config.apiDir config.modelDir
  let imports :=
    [importCode true ["AxiosRequestConfig"] "axios",
      importCode false [config.axiosInstance] ("./" ++ clientModule)] ++
      if models.names.isEmpty then [] else [importCode true models.names source]
  { path := joinPath config.apiDir (sourceFile requestsModule)
    contents := header ++ Code.render indent imports ++
      String.join (operations.map fun unit => "\n" ++ unit.code) }

def sharedFile (unit : CodeUnit) : Artifact :=
  { path := unit.path, contents := header ++ unit.code }

def files (config : WebConfig) (models operations shared : List CodeUnit) : List Artifact :=
  let emitted := models.map (·.name)
  models.map (modelFile config emitted) ++
    [indexFile config models, requestsFile config emitted operations] ++ shared.map sharedFile

end OpenApiCodegen.WebClient
