import OpenApiCodegen.Proofs.Generation.Units
import OpenApiCodegen.Proofs.Output.CodeText
import OpenApiCodegen.Proofs.Server.DeclaredNames

namespace OpenApiCodegen.Server

open Api (Model Operation)
open Output (Artifact CodeUnit joinPath header)

structure GoFile where
  path : String
  pieces : List (List Code)

namespace GoFile

def artifact (file : GoFile) : Artifact :=
  ⟨file.path, header ++ render file.pieces⟩

/-- The names that the file makes known to all files of its package. -/
def names (file : GoFile) : List String :=
  declares (Code.spaced file.pieces)

end GoFile

def sourcePieces (config : ServerConfig) (packages : NameSet) (pieces : List (List Code)) :
    List (List Code) :=
  packageClause config.packageName :: importsCode packages ++ pieces

def fileOfModel (config : ServerConfig) (api : Api) (model : Model) : GoFile :=
  ⟨joinPath config.sourceDir (modelFileName model.name),
    sourcePieces config (modelPackages api model)
      ((modelDeclarations api model).flatMap Declaration.code)⟩

def fileOfHandlers (config : ServerConfig) (document : Option Json.Value) (api : Api)
    (operations : List Operation) : GoFile :=
  ⟨joinPath config.sourceDir handlersFile,
    sourcePieces config (.ofList (operations.flatMap fun operation => (operationPackages api operation).names))
      (operations.flatMap (operationCode api (checkedDocument? config document).isSome))⟩

def supportPieces : List (List Code) :=
  errorTypes ++ responseWriters ++ requestReaders ++ textParsers

def supportFile (config : ServerConfig) : GoFile :=
  ⟨joinPath config.sourceDir "support.go",
    packageClause config.packageName ::
      importBlock (["encoding/json", "errors", "fmt", "io", "mime/multipart", "net/http", "strconv",
        "strings", "time"].map packageLine) :: supportPieces⟩

def routePieces (rows : List RouteRow) : List (List Code) :=
  [routeType,
    [.line "// Routes lists every generated operation.", .line "var Routes = []Route\x7b",
      .nested (rows.map RouteRow.code), .line "\x7d"],
    registerFunction]

def routesFile (config : ServerConfig) (operations : List Operation) : GoFile :=
  ⟨joinPath config.sourceDir "routes.go",
    packageClause config.packageName :: [.line "import \"net/http\""] ::
      routePieces (operations.map routeRow)⟩

def checkPieces (document : Json.Value) : List (List Code) :=
  documentVariables ++ [loadFunction (binaryMediaTypes document), validateFunction]

def checkFile (config : ServerConfig) (document : Json.Value) : GoFile :=
  let standard := [.line "_ \"embed\"", packageLine "net/http", packageLine "sync"]
  let other :=
    ["openapi3", "openapi3filter", "routers", "routers/gorillamux"].map fun name =>
      packageLine ("github.com/getkin/kin-openapi/" ++ name)
  ⟨joinPath config.sourceDir "validation.go",
    packageClause config.packageName :: importBlock (standard ++ .blank :: other) ::
      checkPieces document⟩

def fixedFiles (config : ServerConfig) (document : Option Json.Value) (operations : List Operation) :
    List GoFile :=
  [supportFile config, routesFile config operations] ++
    ((checkedDocument? config document).map (checkFile config)).toList

/-- All files with code of a package, for the operations that the server takes. -/
def packageFiles (config : ServerConfig) (source : Source) : List GoFile :=
  let operations := (source.api.includedOperations .server).map (·.2)
  source.api.unitModels.map (fun unit => fileOfModel config source.api unit.2) ++
    (if operations.isEmpty then []
      else [fileOfHandlers config source.document source.api operations]) ++
    fixedFiles config source.document operations

/-- The document that requests are checked against, which is no code. -/
def documentFile (config : ServerConfig) (document : Json.Value) : Artifact :=
  ⟨joinPath config.sourceDir "spec.json", document.indented 0 ++ "\n"⟩

section Rendering

variable {pieces more : List (List Code)}

theorem render_append (some : pieces ≠ []) (some' : more ≠ []) :
    render (pieces ++ more) = render pieces ++ "\n" ++ render more := by
  rw [render, Code.spaced_append some some', Code.render, Code.textOfAll_append, Code.textOfAll, Code.text,
    ← String.append_assoc]
  rfl

theorem intercalate_render {groups : List (List (List Code))} (some : ∀ group ∈ groups, group ≠ []) :
    String.intercalate "\n" (groups.map render) = render groups.flatten := by
  induction groups with
  | nil => rfl
  | cons group groups ih =>
    have rest := ih fun other mem => some other (List.mem_cons_of_mem group mem)
    cases groups with
    | nil => simp
    | cons second groups =>
      have next : (second :: groups).flatten ≠ [] := by
        simp [some second]
      have split : (group :: second :: groups).flatten = group ++ (second :: groups).flatten := by simp
      rw [List.map_cons, String.intercalate_cons_of_ne_nil (by simp), rest, split,
        render_append (some group List.mem_cons_self) next]

theorem sourceFile_eq (config : ServerConfig) (packages : NameSet) (some : pieces ≠ []) :
    sourceFile config packages (render pieces) = header ++ render (sourcePieces config packages pieces) := by
  rw [sourceFile, sourcePieces, render_append (by simp) some]
  simp only [String.append_assoc]

end Rendering

section Files

variable {config : Config} {source : Source} {code : GeneratedCode}

theorem code_ne_nil (declaration : Declaration) : declaration.code ≠ [] := by
  cases declaration <;> simp [Declaration.code, EnumType.code, UnionType.code]

theorem modelDeclarations_ne_nil (api : Api) (model : Model) : modelDeclarations api model ≠ [] := by
  unfold modelDeclarations
  split <;> simp

theorem modelFile_eq (config : ServerConfig) (api : Api) (model : Model) :
    modelFile config (modelUnit config api model) = (fileOfModel config api model).artifact := by
  have some : (modelDeclarations api model).flatMap Declaration.code ≠ [] := by
    obtain ⟨first, rest, declared⟩ := List.exists_cons_of_ne_nil (modelDeclarations_ne_nil api model)
    simp [declared, code_ne_nil first]
  rw [modelFile, modelUnit, sourceFile_eq _ _ some]
  rfl

theorem operationCode_ne_nil (api : Api) (validate : Bool) (operation : Operation) :
    operationCode api validate operation ≠ [] := by
  simp [operationCode]

theorem handler_of_generate {id : Nat} {operation : Operation}
    (run : generate .server config source = .ok code)
    (included : (id, operation) ∈ source.api.includedOperations .server) :
    ∃ unit, (id, unit) ∈ code.operations ∧ ∃ validate,
      unit.code = render (operationCode source.api validate operation) := by
  refine ⟨handlerUnit config.server source.document source.api operation, ?_, _, rfl⟩
  rw [(served_of_generate run).operations]
  exact List.mem_map_of_mem included

theorem packages_handlerUnits (config : ServerConfig) (document : Option Json.Value) (api : Api)
    (operations : List Operation) :
    (operations.map (handlerUnit config document api)).flatMap (·.requires.names) =
      operations.flatMap fun operation => (operationPackages api operation).names := by
  simp [List.flatMap_map, handlerUnit]

theorem handlersFile_eq (config : ServerConfig) (document : Option Json.Value) (api : Api)
    {operations : List Operation} (some : operations ≠ []) :
    handlersFileOf config (operations.map (handlerUnit config document api)) =
      (fileOfHandlers config document api operations).artifact := by
  let pieces := operationCode api (checkedDocument? config document).isSome
  have nonempty : ∀ group ∈ operations.map pieces, group ≠ [] := by
    intro group mem
    obtain ⟨operation, -, rfl⟩ := List.mem_map.1 mem
    exact operationCode_ne_nil api _ operation
  have whole : operations.flatMap pieces ≠ [] := by
    obtain ⟨first, rest, rfl⟩ := List.exists_cons_of_ne_nil some
    simp [pieces, operationCode_ne_nil]
  have codes : (operations.map (handlerUnit config document api)).map (·.code) =
      (operations.map pieces).map render := by
    simp [List.map_map, Function.comp_def, handlerUnit, pieces]
  rw [handlersFileOf, codes, packages_handlerUnits, intercalate_render nonempty, ← List.flatMap_def,
    sourceFile_eq _ _ whole]
  rfl

theorem suffix_joinPath (dir file : String) : file.toList <:+ (joinPath dir file).toList := by
  unfold joinPath
  dsimp only
  split
  · exact List.suffix_refl _
  · rw [String.toList_append]
    exact List.suffix_append _ _

theorem endsWith_joinPath (dir : String) {file ending : String}
    (short : ending.toList.length ≤ file.toList.length) :
    (joinPath dir file).endsWith ending = true ↔ ending.toList <:+ file.toList := by
  rw [← String.endsWith_toSlice, String.Slice.endsWith_string_iff, String.copy_toSlice]
  constructor
  · exact fun ends => List.suffix_of_suffix_length_le ends (suffix_joinPath dir file) short
  · exact fun ends => ends.trans (suffix_joinPath dir file)

theorem sharedFile_code (config : ServerConfig) (name : String) {file : String}
    (pieces : List (List Code)) (packages : List String)
    (go : (joinPath config.sourceDir file).endsWith ".go" = true) :
    sharedFile (sharedUnit config name file (render pieces) packages) =
      GoFile.artifact ⟨joinPath config.sourceDir file, pieces⟩ := by
  rw [sharedFile, sharedUnit, if_pos go]
  rfl

theorem sharedFile_document (config : ServerConfig) (document : Json.Value) :
    sharedFile (sharedUnit config "spec" "spec.json" (document.indented 0 ++ "\n") []) =
      documentFile config document := by
  have plain : ¬(joinPath config.sourceDir "spec.json").endsWith ".go" = true := by
    rw [endsWith_joinPath _ (by decide)]
    decide
  rw [sharedFile, sharedUnit, if_neg plain]
  rfl

theorem sharedFiles_eq (config : ServerConfig) (document : Option Json.Value)
    (operations : List Operation) :
    (sharedUnits config document operations).map sharedFile =
      (fixedFiles config document operations).map GoFile.artifact ++
        ((checkedDocument? config document).map (documentFile config)).toList := by
  have go : ∀ file ∈ ["support.go", "routes.go", "validation.go"],
      (joinPath config.sourceDir file).endsWith ".go" = true := by
    intro file mem
    have ends : ∀ file ∈ ["support.go", "routes.go", "validation.go"],
        ".go".toList.length ≤ file.toList.length ∧ ".go".toList <:+ file.toList := by
      decide
    exact (endsWith_joinPath _ (ends file mem).1).2 (ends file mem).2
  have support := sharedFile_code config "support" (supportFile config).pieces [] (go "support.go" (by decide))
  have routes := sharedFile_code config "Routes" (routesFile config operations).pieces ["net/http"]
    (go "routes.go" (by decide))
  cases checked : checkedDocument? config document with
  | none =>
    simp only [sharedUnits, fixedFiles, checked]
    exact congrArg₂ List.cons support (congrArg₂ List.cons routes rfl)
  | some document =>
    have check := sharedFile_code config "validation" (checkFile config document).pieces
      ["net/http", "github.com/getkin/kin-openapi"] (go "validation.go" (by decide))
    have last := sharedFile_document config document
    simp only [sharedUnits, fixedFiles, checked]
    exact congrArg₂ List.cons support (congrArg₂ List.cons routes
      (congrArg₂ List.cons check (congrArg₂ List.cons last rfl)))

theorem artifacts_eq (run : generate .server config source = .ok code) :
    code.artifacts = (packageFiles config.server source).map GoFile.artifact ++
      ((checkedDocument? config.server source.document).map (documentFile config.server)).toList := by
  have generated := generated_of_generate run
  have served := served_of_generate run
  let operations := (source.api.includedOperations .server).map (·.2)
  have models : (code.models.map (·.2)).map (modelFile config.server) =
      (source.api.unitModels.map fun unit => fileOfModel config.server source.api unit.2).map
        GoFile.artifact := by
    rw [generated.models, List.map_map, List.map_map, List.map_map]
    exact List.map_congr_left fun unit _ => modelFile_eq config.server source.api unit.2
  have units : code.operations.map (·.2) =
      operations.map (handlerUnit config.server source.document source.api) := by
    rw [served.operations, List.map_map, List.map_map]
    rfl
  have handlers : (if (code.operations.map (·.2)).isEmpty then []
      else [handlersFileOf config.server (code.operations.map (·.2))]) =
        (if operations.isEmpty then []
          else [fileOfHandlers config.server source.document source.api operations]).map
            GoFile.artifact := by
    rw [units, List.isEmpty_map]
    split
    · rfl
    · rename_i some
      rw [handlersFile_eq _ _ _ (by simpa using some)]
      rfl
  have shared := sharedFiles_eq config.server source.document operations
  rw [generated.artifacts]
  change (code.models.map (·.2)).map (modelFile config.server) ++
    (if (code.operations.map (·.2)).isEmpty then []
      else [handlersFileOf config.server (code.operations.map (·.2))]) ++
        code.shared.map sharedFile = _
  rw [models, handlers, served.shared]
  change _ ++ (sharedUnits config.server source.document operations).map sharedFile = _
  rw [shared, ← List.append_assoc, ← List.map_append, ← List.map_append]
  rfl

end Files

end OpenApiCodegen.Server
