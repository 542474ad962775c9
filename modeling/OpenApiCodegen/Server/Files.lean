import OpenApiCodegen.Config.Basic
import OpenApiCodegen.Output.Unit
import OpenApiCodegen.Server.Shared

namespace OpenApiCodegen.Server

open Api (Model Operation)
open Output (CodeUnit Artifact joinPath header)

def handlersFile : String := "api.go"

def modelFileName (name : String) : String :=
  "model_" ++ Text.snakeCase name ++ ".go"

def checkedDocument? (config : ServerConfig) (document : Option Json.Value) : Option Json.Value :=
  if config.validateRequests then document else none

def modelUnit (config : ServerConfig) (api : Api) (model : Model) : CodeUnit :=
  { name := model.name
    path := joinPath config.sourceDir (modelFileName model.name)
    code := render ((modelDeclarations api model).flatMap Declaration.code)
    imports := modelImports api model
    requires := modelPackages api model }

def handlerUnit (config : ServerConfig) (document : Option Json.Value) (api : Api)
    (operation : Operation) : CodeUnit :=
  let validate := (checkedDocument? config document).isSome
  { name := operation.id
    path := joinPath config.sourceDir handlersFile
    code := render (operationCode api validate operation)
    imports := operationImports api operation
    requires := operationPackages api operation }

def sharedUnit (config : ServerConfig) (name file code : String) (packages : List String) :
    CodeUnit :=
  { name
    path := joinPath config.sourceDir file
    code
    imports := .empty
    requires := .ofList packages }

def checkUnits (config : ServerConfig) (document : Json.Value) : List CodeUnit :=
  [sharedUnit config "validation" "validation.go" (requestCheck config.packageName document)
      ["net/http", "github.com/getkin/kin-openapi"],
    sharedUnit config "spec" "spec.json" (document.indented 0 ++ "\n") []]

def sharedUnits (config : ServerConfig) (document : Option Json.Value)
    (operations : List Operation) : List CodeUnit :=
  [sharedUnit config "support" "support.go" (handlerSupport config.packageName) [],
    sharedUnit config "Routes" "routes.go"
      (routeTable config.packageName (operations.map routeRow)) ["net/http"]] ++
    ((checkedDocument? config document).map (checkUnits config)).getD []

def importsCode (packages : NameSet) : List (List Code) :=
  match packages.names with
  | [] => []
  | [package] => [[.line ("import " ++ Text.inDoubleQuotes package)]]
  | packages => [importBlock (packages.map packageLine)]

def sourceFile (config : ServerConfig) (packages : NameSet) (code : String) : String :=
  header ++ render (packageClause config.packageName :: importsCode packages) ++ "\n" ++ code

def modelFile (config : ServerConfig) (unit : CodeUnit) : Artifact :=
  { path := unit.path, contents := sourceFile config unit.requires unit.code }

def handlersFileOf (config : ServerConfig) (operations : List CodeUnit) : Artifact :=
  let packages := NameSet.ofList (operations.flatMap (·.requires.names))
  { path := joinPath config.sourceDir handlersFile
    contents :=
      sourceFile config packages (String.intercalate "\n" (operations.map (·.code))) }

/-- A file that has its own package clause. The document stays as it is. -/
def sharedFile (unit : CodeUnit) : Artifact :=
  { path := unit.path
    contents := if unit.path.endsWith ".go" then header ++ unit.code else unit.code }

def files (config : ServerConfig) (models operations shared : List CodeUnit) : List Artifact :=
  models.map (modelFile config) ++
    (if operations.isEmpty then [] else [handlersFileOf config operations]) ++
    shared.map sharedFile

end OpenApiCodegen.Server
