import OpenApiCodegen.Config.Basic
import OpenApiCodegen.MobileClient.Methods
import OpenApiCodegen.MobileClient.Shared
import OpenApiCodegen.Output.Unit

namespace OpenApiCodegen.MobileClient

open Api (Model Operation)
open Output (CodeUnit Artifact joinPath relativePath header)

def fileStem (name : String) : String :=
  Text.snakeCase name

def sourceFile (name : String) : String :=
  fileStem name ++ ".dart"

def decodeErrorFile : String := "decode_error.dart"

def indexFileName : String := "_index.dart"

def modelUnit (config : MobileConfig) (api : Api) (model : Model) : CodeUnit :=
  let declaration := modelDeclaration api model
  { name := model.name
    path := joinPath config.modelDir (sourceFile model.name)
    code := render [declaration.code]
    imports := modelImports api model
    requires := declaration.requires }

def methodUnit (config : MobileConfig) (api : Api) (operation : Operation) : CodeUnit :=
  let method := clientMethod api operation
  { name := method.name
    path := joinPath config.apiDir (sourceFile config.clientName)
    code := render [[.nested method.code]]
    imports := methodImports api operation
    requires := .empty }

def sharedUnit (config : MobileConfig) (name file code : String) (requires : List String) :
    CodeUnit :=
  { name
    path := joinPath config.apiDir file
    code
    imports := .empty
    requires := .ofList requires }

def sharedUnits (config : MobileConfig) (api : Api) (operations : List Operation) :
    List CodeUnit :=
  let interceptor :=
    globalParametersCode (Api.globalGroups api) config.clientName (sourceFile config.clientName)
  sharedUnit config decodeError decodeErrorFile decodeErrorCode [] ::
    if Api.reachesGlobals api operations then
      [sharedUnit config "GlobalParameterInterceptor" "global_parameters.dart" interceptor
        [dioPackage]]
    else []

def isPackage (required : String) : Bool :=
  Text.beginsWith required "package:"

def importLines (config : MobileConfig) (emitted : List String) (unit : CodeUnit) :
    List (List Code) :=
  let packages := unit.requires.names.filter isPackage
  let models := (unit.imports.names.filter emitted.contains).map sourceFile
  let error := relativePath config.modelDir config.apiDir ++ "/" ++ decodeErrorFile
  let others := models ++ if unit.requires.contains decodeError then [error] else []
  [packages.map importLine, others.map importLine]

def partLines (unit : CodeUnit) : List Code :=
  let part := fun (mark suffix : String) =>
    if unit.requires.contains mark then
      [Code.line s!"part '{fileStem unit.name}.{suffix}.dart';"]
    else []
  part freezedPart "freezed" ++ part jsonPart "g"

def modelFile (config : MobileConfig) (emitted : List String) (unit : CodeUnit) : Artifact :=
  let head := (importLines config emitted unit).filter fun lines => !lines.isEmpty
  let parts := partLines unit
  { path := unit.path
    contents := header ++ render head ++
      Code.render indent ((if parts.isEmpty then [] else .blank :: parts) ++ [.blank]) ++
      unit.code }

def indexFile (config : MobileConfig) (models : List CodeUnit) : Artifact :=
  let exports := models.map fun unit => Code.line s!"export '{sourceFile unit.name}';"
  { path := joinPath config.modelDir indexFileName
    contents := header ++ Code.render indent exports }

/-- The client is an abstract class; a generated file implements it. -/
def clientFile (config : MobileConfig) (operations : List CodeUnit) : Artifact :=
  let client := config.clientName
  let index := relativePath config.apiDir config.modelDir ++ "/" ++ indexFileName
  let head :=
    [[importLine dioPackage, importLine retrofitPackage],
      [importLine index],
      [.line s!"part '{fileStem client}.g.dart';"],
      [.line "@RestApi()",
        .line ("abstract class " ++ client ++ " \x7b"),
        .nested
          [.line (s!"factory {client}(Dio dio, " ++ inBraces "String? baseUrl" ++
            s!") = _{client};")]]]
  { path := joinPath config.apiDir (sourceFile client)
    contents := header ++ render head ++
      String.join (operations.map fun unit => "\n" ++ unit.code) ++ "\x7d\n" }

def sharedFile (unit : CodeUnit) : Artifact :=
  { path := unit.path, contents := header ++ unit.code }

def files (config : MobileConfig) (models operations shared : List CodeUnit) : List Artifact :=
  let emitted := models.map (·.name)
  models.map (modelFile config emitted) ++
    [indexFile config models, clientFile config operations] ++ shared.map sharedFile

end OpenApiCodegen.MobileClient
