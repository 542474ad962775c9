import OpenApiCodegen.Proofs.Output.TextLines
import OpenApiCodegen.Proofs.Server.SharedQualifiers

namespace OpenApiCodegen

namespace Server

open Api (DataType Model Operation Property)
open Output (Artifact CodeUnit joinPath)

def spelledProperties (api : Api) (model : Model) : List Property :=
  (structs api model).flatMap fun (declared, parameters) =>
    declared.properties.filter fun property => property.placeholder.isNone || parameters.isEmpty

def HandlesTime (api : Api) (operation : Operation) : Prop :=
  (∃ parameter ∈ operation.parameters, isFile parameter = false ∧ parameter.type.HoldsTime) ∨
    (∃ type ∈ (Api.returnType api operation).types, type.HoldsTime) ∨
      ∃ response ∈ errorResponses operation, ∃ type ∈ response.body, type.HoldsTime

section Tidiness

variable {doc : OpenApi.Document} {source : Source}

theorem enumBase_simple (schema : OpenApi.Schema) :
    Lowering.NamesCapitalized (Lowering.enumBase schema) ∧ ¬(Lowering.enumBase schema).HoldsTime := by
  unfold Lowering.enumBase Lowering.NamesCapitalized
  split <;> simp [DataType.models, DataType.HoldsTime, DataType.innermost]

theorem tidy_of_source (lowered : Source.of doc = .ok source) : Tidy source.api := by
  have run := lower_of_source lowered
  constructor
  · exact Lowering.capitalized_of_lower run
  · intro model mem property inside
    exact Lowering.namesCapitalized_of_model run mem _ (List.mem_append_left _ (List.mem_map_of_mem inside))
  · intro model mem enumeration some
    obtain ⟨schema, base⟩ := Lowering.base_of_lower run model mem enumeration some
    exact base ▸ enumBase_simple schema
  · exact Lowering.variants_capitalized run
  · exact fun operation mem => Lowering.namesCapitalized_of_operation run mem
  · exact fun operation mem => Lowering.namesCapitalized_of_returnType run mem

end Tidiness

section Requirements

variable {api : Api} {model : Model} {operation : Operation} {package : String}

theorem mem_timeFor {types : List DataType} :
    package ∈ timeFor types ↔ package = timePackage ∧ ∃ type ∈ types, type.HoldsTime := by
  unfold timeFor
  split
  · rename_i some
    simp only [List.any_eq_true, usesTime_iff] at some
    simp [some]
  · rename_i none
    simp only [List.any_eq_true, usesTime_iff] at none
    simp [none]

theorem mem_modelPackages : package ∈ modelPackages api model ↔
    (package = "encoding/json" ∧ (model.enumeration?.isSome = true ∨ model.discriminator?.isSome = true) ∨
      package = "fmt" ∧ model.enumeration?.isSome = true) ∨
      package = timePackage ∧ ∃ property ∈ spelledProperties api model, property.type.HoldsTime := by
  have times : (∃ type ∈ (structs api model).flatMap fun entry => writtenTypes entry.1 entry.2, type.HoldsTime) ↔
      ∃ property ∈ spelledProperties api model, property.type.HoldsTime := by
    simp only [spelledProperties, writtenTypes, List.mem_flatMap, List.mem_map]
    aesop
  rw [← times, ← mem_timeFor]
  cases shape : model.shape with
  | enumeration =>
    simp [modelPackages, structs, shape, timeFor, Model.enumeration?, Model.discriminator?, NameSet.mem_ofList]
  | union =>
    simp [modelPackages, structs, shape, Model.enumeration?, Model.discriminator?, NameSet.mem_ofList,
      List.flatMap_map]
  | record =>
    simp [modelPackages, structs, shape, Model.enumeration?, Model.discriminator?, NameSet.mem_ofList]
  | unsupported =>
    simp [modelPackages, structs, shape, Model.enumeration?, Model.discriminator?, NameSet.mem_ofList]

theorem exists_mem_errors {P : DataType → Prop} :
    (∃ type ∈ (errorResponses operation).filterMap (·.body), P type) ↔
      ∃ response ∈ errorResponses operation, ∃ type ∈ response.body, P type := by
  simp only [List.mem_filterMap]
  constructor
  · rintro ⟨type, ⟨response, mem, body⟩, holds⟩
    exact ⟨response, mem, type, body, holds⟩
  · rintro ⟨response, mem, type, body, holds⟩
    exact ⟨type, ⟨response, mem, body⟩, holds⟩

theorem mem_operationPackages : package ∈ operationPackages api operation ↔
    package ∈ ["context", "net/http"] ∨
      (package = "mime/multipart" ∧ ∃ parameter ∈ operation.parameters, isFile parameter = true) ∨
        package = timePackage ∧ HandlesTime api operation := by
  have files : package ∈ (if operation.parameters.any isFile then ["mime/multipart"] else []) ↔
      package = "mime/multipart" ∧ ∃ parameter ∈ operation.parameters, isFile parameter = true := by
    rw [← List.any_eq_true]
    split <;> simp [*]
  have parameters : (∃ type ∈ (operation.parameters.filter (!isFile ·)).map (·.type), type.HoldsTime) ↔
      ∃ parameter ∈ operation.parameters, isFile parameter = false ∧ parameter.type.HoldsTime := by
    simp only [List.mem_map, exists_exists_and_eq_and, List.mem_filter, Bool.not_eq_true']
    simp only [and_assoc]
  rw [operationPackages, NameSet.mem_ofList, List.mem_append, List.mem_append, mem_timeFor, files, or_assoc,
    exists_mem_append, exists_mem_append, parameters, exists_mem_errors, or_assoc]
  rfl

end Requirements

/-- What the unit of a model requires, and that its code names something of just these packages. -/
structure ModelImports (api : Api) (model : Model) (unit : CodeUnit) : Prop where
  requires : ∀ package, package ∈ unit.requires ↔
    (package = "encoding/json" ∧ (model.enumeration?.isSome = true ∨ model.discriminator?.isSome = true) ∨
      package = "fmt" ∧ model.enumeration?.isSome = true) ∨
        package = timePackage ∧ ∃ property ∈ spelledProperties api model, property.type.HoldsTime
  named : Tidy api → LegibleModel api model → ∀ name,
    name ∈ namedPackages unit.code ↔ ∃ package ∈ unit.requires, packageName package = name

/-- What the unit of an operation requires, and that its code names something of just these packages. -/
structure OperationImports (api : Api) (operation : Operation) (unit : CodeUnit) : Prop where
  requires : ∀ package, package ∈ unit.requires ↔ package ∈ ["context", "net/http"] ∨
    (package = "mime/multipart" ∧ ∃ parameter ∈ operation.parameters, isFile parameter = true) ∨
      package = timePackage ∧ HandlesTime api operation
  named : Tidy api → LegibleOperation operation → ∀ name,
    name ∈ namedPackages unit.code ↔ ∃ package ∈ unit.requires, packageName package = name

section Units

variable {api : Api} {model : Model} {operation : Operation}

theorem imports_modelUnit (mem : model ∈ api.models) (config : ServerConfig) :
    ModelImports api model (modelUnit config api model) where
  requires _ := mem_modelPackages
  named tidy legible name := by
    have named : namedPackages (modelUnit config api model).code = _ :=
      namedPackages_of_names (.spaced (names_pieces tidy mem legible))
    rw [named]
    exact mem_pieceNames api model

theorem imports_handlerUnit (mem : operation ∈ api.operations) (config : ServerConfig)
    (document : Option Json.Value) :
    OperationImports api operation (handlerUnit config document api operation) where
  requires _ := mem_operationPackages
  named tidy legible name := by
    obtain ⟨types, envelope⟩ := tidy.returned operation mem
    have pieces := names_operation (tidy.operations operation mem) types envelope legible
      (checkedDocument? config document).isSome
    have named : namedPackages (handlerUnit config document api operation).code = _ :=
      namedPackages_of_names (.spaced pieces)
    rw [named]
    exact mem_handlerPieceNames

end Units

def packagesText (packages : List String) : String :=
  String.join (packages.map fun package => "\t\"" ++ package ++ "\"\n")

def importText : List String → String
  | [] => ""
  | [package] => "\nimport \"" ++ package ++ "\"\n"
  | packages => "\nimport (\n" ++ packagesText packages ++ ")\n"

def checkModules : List String :=
  ["github.com/getkin/kin-openapi/openapi3", "github.com/getkin/kin-openapi/openapi3filter",
    "github.com/getkin/kin-openapi/routers", "github.com/getkin/kin-openapi/routers/gorillamux"]

/-- The imports of the file that checks requests. The first one makes the comment work that embeds the document,
and nothing can name it. -/
def checkImports : String :=
  "\nimport (\n\t_ \"embed\"\n" ++ packagesText ["net/http", "sync"] ++ "\n" ++ packagesText checkModules ++ ")\n"

def fileText (config : ServerConfig) (imports code : String) : String :=
  "// Code generated by apigen. DO NOT EDIT.\n\n" ++ "package " ++ config.packageName ++ "\n" ++
    imports ++ "\n" ++ code

section Files

variable {config : ServerConfig} {packages : List String}

theorem textOfAll_packageLines (packages : List String) :
    Code.textOfAll indent 1 (packages.map packageLine) = packagesText packages := by
  have tab : Code.indentation indent 1 = "\t" := by simp [Code.indentation, indent]
  have line : ∀ package, Code.text indent 1 (packageLine package) = "\t\"" ++ package ++ "\"\n" := by
    intro package
    rw [packageLine, Text.inDoubleQuotes, Code.text, tab]
    exact String.toList_inj.1 (by simp)
  unfold packagesText
  induction packages with
  | nil => rfl
  | cons package rest ih => rw [List.map_cons, List.map_cons, String.join_cons, Code.textOfAll, ih, line]

theorem textOfAll_importBlock (lines : List Code) : Code.textOfAll indent 0 (importBlock lines) =
    "import (\n" ++ (Code.textOfAll indent 1 lines ++ ")\n") := by
  simp [importBlock, Code.textOfAll, Code.text, Code.indentation]

theorem render_clause (name : String) :
    render [packageClause name] = "package " ++ name ++ "\n" := by
  simp [render, Code.render, Code.spaced, packageClause, Code.textOfAll, Code.text, Code.indentation, toString]

theorem render_block (block : List Code) : render [block] = Code.textOfAll indent 0 block :=
  rfl

theorem render_imports (name : String) (packages : NameSet) :
    render (packageClause name :: importsCode packages) =
      "package " ++ name ++ "\n" ++ importText packages.names := by
  have under : ∀ block, render [packageClause name, block] =
      "package " ++ name ++ "\n" ++ ("\n" ++ Code.textOfAll indent 0 block) := by
    intro block
    rw [← List.singleton_append, render_append (by simp) (by simp), render_clause, render_block, String.append_assoc]
  unfold importsCode importText
  generalize packages.names = names
  rcases names with _ | ⟨first, _ | ⟨second, rest⟩⟩
  · rw [render_clause, String.append_empty]
  · rw [under]
    refine String.toList_inj.1 ?_
    simp [Code.textOfAll, Code.text, Code.indentation, Text.inDoubleQuotes]
  · rw [under, textOfAll_importBlock, textOfAll_packageLines]
    exact String.toList_inj.1 (by simp)

theorem sourceFile_text (config : ServerConfig) (packages : NameSet) (code : String) :
    sourceFile config packages code = fileText config (importText packages.names) code := by
  have header : Output.header = "// Code generated by apigen. DO NOT EDIT.\n\n" := rfl
  unfold sourceFile fileText
  rw [render_imports, header]
  simp only [String.append_assoc]

theorem contents_ofImports {file : GoFile} {imports : String} {block : List Code} {pieces : List (List Code)}
    (listed : file.pieces = packageClause config.packageName :: block :: pieces) (some : pieces ≠ [])
    (spelled : "\n" ++ Code.textOfAll indent 0 block = imports) :
    file.artifact.contents = fileText config imports (render pieces) := by
  have header : Output.header = "// Code generated by apigen. DO NOT EDIT.\n\n" := rfl
  have split : file.pieces = ([packageClause config.packageName] ++ [block]) ++ pieces := listed
  unfold GoFile.artifact fileText
  dsimp only
  rw [split, render_append (by simp) some, render_append (by simp) (by simp), render_clause, render_block, header,
    ← spelled]
  simp only [String.append_assoc]

/-- The file imports just the packages that its code names something of. -/
structure Imports (config : ServerConfig) (file : Artifact) (packages : List String) (code : String) : Prop where
  text : file.contents = fileText config (importText packages) code ∨
    packages = "net/http" :: "sync" :: checkModules ∧ file.contents = fileText config checkImports code
  named : ∀ name, name ∈ namedPackages code ↔ ∃ package ∈ packages, packageName package = name

theorem NamesJust.imports {pieces : List (List Code)} {names : List String}
    (just : NamesJust (Code.spaced pieces) names) (called : names.Perm (packages.map packageName)) (name : String) :
    name ∈ namedPackages (render pieces) ↔ ∃ package ∈ packages, packageName package = name := by
  rw [render, just.named name, called.mem_iff, List.mem_map]

theorem imports_supportFile (config : ServerConfig) : ∃ packages code,
    Imports config (supportFile config).artifact packages code := by
  let packages := ["encoding/json", "errors", "fmt", "io", "mime/multipart", "net/http", "strconv", "strings", "time"]
  have called : ["errors", "fmt", "http", "io", "json", "multipart", "strconv", "strings", "time"].Perm
      (packages.map packageName) := by
    decide +kernel
  have text : (supportFile config).artifact.contents = fileText config (importText packages) (render supportPieces) := by
    refine contents_ofImports rfl (by simp [supportPieces, errorTypes, decodeErrorCode]) ?_
    rw [textOfAll_importBlock, textOfAll_packageLines]
    exact String.toList_inj.1 (by simp [packages, importText])
  exact ⟨_, _, .inl text, namesJust_support.imports called⟩

theorem imports_routesFile (config : ServerConfig) (operations : List Operation) : ∃ packages code,
    Imports config (routesFile config operations).artifact packages code := by
  refine ⟨["net/http"], render (routePieces (operations.map routeRow)), .inl ?_,
    (namesJust_routes (operations.map routeRow)).imports (by decide +kernel)⟩
  exact contents_ofImports rfl (by simp [routePieces]) (by simp [importText, Code.textOfAll, Code.text, Code.indentation])

theorem imports_checkFile (config : ServerConfig) (document : Json.Value) : ∃ packages code,
    Imports config (checkFile config document).artifact packages code := by
  have embeds : Code.textOfAll indent 1 [.line "_ \"embed\""] = "\t_ \"embed\"\n" := by
    simp [Code.textOfAll, Code.text, Code.indentation, indent]
  have gap : Code.textOfAll indent 1 [.blank] = "\n" := rfl
  have listed : (checkFile config document).pieces = packageClause config.packageName ::
      importBlock ([.line "_ \"embed\""] ++ (["net/http", "sync"].map packageLine ++
        ([.blank] ++ checkModules.map packageLine))) :: checkPieces document := by
    simp [checkFile, checkModules]
  have called : ["gorillamux", "http", "openapi3", "openapi3filter", "routers", "sync"].Perm
      (("net/http" :: "sync" :: checkModules).map packageName) := by
    decide +kernel
  have text : (checkFile config document).artifact.contents =
      fileText config checkImports (render (checkPieces document)) := by
    refine contents_ofImports listed (by simp [checkPieces]) ?_
    rw [textOfAll_importBlock, Code.textOfAll_append, Code.textOfAll_append, Code.textOfAll_append,
      textOfAll_packageLines, textOfAll_packageLines, embeds, gap]
    unfold checkImports
    generalize packagesText checkModules = modules
    generalize packagesText ["net/http", "sync"] = others
    exact String.toList_inj.1 (by simp)
  exact ⟨_, _, .inr ⟨rfl, text⟩, (namesJust_check document).imports called⟩

end Files

section Generated

variable {config : Config} {source : Source} {code : GeneratedCode}

def handlersText (code : GeneratedCode) : String :=
  String.intercalate "\n" (code.operations.map (·.2.code))

theorem named_handlers (served : Served .server config source code) (tidy : Tidy source.api)
    (legible : ∀ entry ∈ source.api.includedOperations .server, LegibleOperation entry.2) {name : String} :
    name ∈ namedPackages (handlersText code) ↔
      ∃ entry ∈ code.operations, ∃ package ∈ entry.2.requires, packageName package = name := by
  have each : List.Forall₂ (fun text names => Scans .between text.toList .between names)
      (code.operations.map (·.2.code))
      ((source.api.includedOperations .server).map fun entry => (handlerPieceNames source.api entry.2).flatten) := by
    rw [served.operations, List.map_map, List.forall₂_map_left_iff, List.forall₂_map_right_iff]
    refine List.forall₂_same.2 fun entry included => ?_
    have mem := List.mem_of_getElem? (Api.mem_includedOperations.1 included).1
    obtain ⟨types, envelope⟩ := tidy.returned entry.2 mem
    exact (Names.spaced (names_operation (tidy.operations entry.2 mem) types envelope (legible entry included)
      (checkedDocument? config.server source.document).isSome)) 0
  have named : namedPackages (handlersText code) = _ := (scans_intercalate each).meets
  rw [named, ← List.flatMap_def, List.mem_flatMap, served.operations]
  simp only [mem_handlerPieceNames, List.mem_map, exists_exists_and_eq_and]
  rfl

def modelArtifact (config : ServerConfig) (unit : CodeUnit) : Artifact :=
  ⟨unit.path, fileText config (importText unit.requires.names) unit.code⟩

def handlersPackages (code : GeneratedCode) : NameSet :=
  .ofList (code.operations.flatMap (·.2.requires.names))

def handlersArtifact (config : ServerConfig) (code : GeneratedCode) : Artifact :=
  ⟨joinPath config.sourceDir "api.go", fileText config (importText (handlersPackages code).names) (handlersText code)⟩

/-- Units require what their code names something of, and their files import what they require. In all files of
code the imports are what the code below them names something of. -/
structure ImportsExactly (config : ServerConfig) (api : Api) (code : GeneratedCode) : Prop where
  models : ∀ entry ∈ code.models, ∃ model, (entry.1, model) ∈ api.unitModels ∧ ModelImports api model entry.2
  operations : ∀ entry ∈ code.operations, ∃ operation, (entry.1, operation) ∈ api.includedOperations .server ∧
    OperationImports api operation entry.2
  units : ∃ shared, code.artifacts = code.models.map (fun entry => modelArtifact config entry.2) ++
    (if code.operations.isEmpty then [] else [handlersArtifact config code]) ++ shared
  files : Tidy api → (∀ entry ∈ api.unitModels, LegibleModel api entry.2) →
    (∀ entry ∈ api.includedOperations .server, LegibleOperation entry.2) →
      ∀ file ∈ code.artifacts, file.path.endsWith ".go" = true → ∃ packages code, Imports config file packages code

theorem artifacts_text (generated : Generated .server config source code) :
    code.artifacts = code.models.map (fun entry => modelArtifact config.server entry.2) ++
      (if code.operations.isEmpty then [] else [handlersArtifact config.server code]) ++
        code.shared.map sharedFile := by
  have models : (code.models.map (·.2)).map (modelFile config.server) =
      code.models.map fun entry => modelArtifact config.server entry.2 := by
    rw [List.map_map]
    refine List.map_congr_left fun entry _ => ?_
    rw [Function.comp, modelFile, sourceFile_text]
    rfl
  have handlers : handlersFileOf config.server (code.operations.map (·.2)) =
      handlersArtifact config.server code := by
    rw [handlersFileOf, sourceFile_text, List.flatMap_map, List.map_map]
    rfl
  rw [generated.artifacts]
  change (code.models.map (·.2)).map (modelFile config.server) ++
    (if (code.operations.map (·.2)).isEmpty then []
      else [handlersFileOf config.server (code.operations.map (·.2))]) ++ _ = _
  rw [models, handlers, List.isEmpty_map]

theorem imports_handlers (served : Served .server config source code) (tidy : Tidy source.api)
    (legible : ∀ entry ∈ source.api.includedOperations .server, LegibleOperation entry.2) :
    Imports config.server (handlersArtifact config.server code) (handlersPackages code).names
      (handlersText code) := by
  refine ⟨.inl (by rw [handlersArtifact]), fun name => ?_⟩
  have required : ∀ package, package ∈ (handlersPackages code).names ↔
      ∃ entry ∈ code.operations, package ∈ entry.2.requires := by
    intro package
    exact NameSet.mem_ofList.trans List.mem_flatMap
  rw [named_handlers served tidy legible]
  simp only [required]
  constructor
  · rintro ⟨entry, mem, package, inside, called⟩
    exact ⟨package, ⟨entry, mem, inside⟩, called⟩
  · rintro ⟨package, ⟨entry, mem, inside⟩, called⟩
    exact ⟨entry, mem, package, inside, called⟩

theorem imports_sharedFile {file : Artifact} (served : Served .server config source code)
    (mem : file ∈ code.shared.map sharedFile) (go : file.path.endsWith ".go" = true) :
    ∃ packages code, Imports config.server file packages code := by
  have shared := sharedFiles_eq config.server source.document
    ((source.api.includedOperations .server).map (·.2))
  have shared : code.shared.map sharedFile = _ := (congrArg (List.map sharedFile) served.shared).trans shared
  rw [shared, List.mem_append] at mem
  obtain mem | mem := mem
  · obtain ⟨piece, listed, rfl⟩ := List.mem_map.1 mem
    simp only [fixedFiles, List.mem_append, List.mem_cons, List.not_mem_nil, or_false, Option.mem_toList,
      Option.map_eq_some_iff] at listed
    obtain (rfl | rfl) | ⟨document, -, rfl⟩ := listed
    · exact imports_supportFile config.server
    · exact imports_routesFile config.server _
    · exact imports_checkFile config.server document
  · -- The document is no code.
    obtain ⟨document, -, rfl⟩ := Option.map_eq_some_iff.1 (Option.mem_toList.1 mem)
    rw [documentFile, endsWith_joinPath config.server.sourceDir (by decide)] at go
    exact absurd go (by decide)

/-- All APIs of documents are tidy. -/
theorem imports_of_generate (run : generate .server config source = .ok code) :
    ImportsExactly config.server source.api code ∧ ∀ doc, Source.of doc = .ok source → Tidy source.api := by
  have generated := generated_of_generate run
  have served := served_of_generate run
  have artifacts := artifacts_text generated
  have models : ∀ entry ∈ code.models, ∃ model, (entry.1, model) ∈ source.api.unitModels ∧
      ModelImports source.api model entry.2 := by
    rw [generated.models]
    intro entry mem
    obtain ⟨⟨id, model⟩, listed, rfl⟩ := List.mem_map.1 mem
    have known := List.mem_of_getElem? (Api.mem_unitModels.1 listed).1
    exact ⟨model, listed, imports_modelUnit known config.server⟩
  refine ⟨⟨models, ?_, ⟨_, artifacts⟩, ?_⟩, fun _ lowered => tidy_of_source lowered⟩
  · rw [served.operations]
    intro entry mem
    obtain ⟨⟨id, operation⟩, included, rfl⟩ := List.mem_map.1 mem
    have known := List.mem_of_getElem? (Api.mem_includedOperations.1 included).1
    exact ⟨operation, included, imports_handlerUnit known config.server source.document⟩
  · intro tidy legibleModels legibleOperations file mem go
    rw [artifacts, List.mem_append, List.mem_append] at mem
    obtain (mem | mem) | mem := mem
    · obtain ⟨entry, known, rfl⟩ := List.mem_map.1 mem
      obtain ⟨model, listed, imports⟩ := models entry known
      exact ⟨_, _, .inl (by rw [modelArtifact]), imports.named tidy (legibleModels _ listed)⟩
    · split at mem
      · cases mem
      · obtain rfl := List.mem_singleton.1 mem
        exact ⟨_, _, imports_handlers served tidy legibleOperations⟩
    · exact imports_sharedFile served mem go

end Generated

def dateOf (format : String) : OpenApi.Schema :=
  { typeNames := some (.single "string"), format := some format }

/-- A calendar with entries of one kind; pictures are sent with the day that they are for, and colors may have
been taken at some time. -/
def calendar : OpenApi.Document where
  openapi := none
  info := none
  paths := [("/pictures",
    { Lowering.reading [] [] with
      get := none
      post := some
        { operationId := none
          summary := none
          description := none
          deprecated := false
          tags := []
          parameters := some
            [{ Lowering.parameterAt "query" "day" none with schema := some (dateOf "date") }]
          requestBody := some
            { required := true
              description := none
              content := [("multipart/form-data",
                some { properties := some [("picture", dateOf "binary")] })] }
          responses := [] } }),
    ("/colors", Lowering.reading []
      [("409", { description := none, content := [("application/json", some (dateOf "date-time"))] })])]
  schemas := some
    [("Entry",
        { oneOf := some [{ ref := some "#/components/schemas/Meeting" }]
          discriminator := some ⟨"kind", some [("meeting", "#/components/schemas/Meeting")]⟩ }),
      ("Meeting", { properties := some [("starts", dateOf "date-time")] }),
      ("Color", { typeNames := some (.single "string"), enumeration := some [.text "red"] }),
      ("Note", { properties := some [("text", { typeNames := some (.single "string") })] })]
  tags := []
  source := none

theorem calendar_imports : ∃ source code, Source.of calendar = .ok source ∧
    generate .server {} source = .ok code ∧ ImportsExactly {} source.api code ∧ Tidy source.api ∧
      (∀ entry ∈ source.api.unitModels, LegibleModel source.api entry.2) ∧
      (∀ entry ∈ source.api.includedOperations .server, LegibleOperation entry.2) ∧
      code.models.map (fun entry => (entry.2.name, entry.2.requires.names)) =
        [("Entry", ["encoding/json", "time"]), ("Color", ["encoding/json", "fmt"]), ("Note", [])] ∧
      code.operations.map (fun entry => (entry.2.name, entry.2.requires.names)) =
        [("postPictures", ["context", "mime/multipart", "net/http", "time"]),
          ("getColors", ["context", "net/http", "time"])] := by
  have named : (Source.of calendar).toOption.map (fun source : Source => (fullySupported source.api,
      source.api.unitModels.map (fun entry => (entry.2.name, (modelPackages source.api entry.2).names)),
      (source.api.includedOperations .server).map fun entry =>
        (entry.2.id, (operationPackages source.api entry.2).names))) =
      some (true, [("Entry", ["encoding/json", "time"]), ("Color", ["encoding/json", "fmt"]), ("Note", [])],
        [("postPictures", ["context", "mime/multipart", "net/http", "time"]),
          ("getColors", ["context", "net/http", "time"])]) := by
    decide +kernel
  have legible : (Source.of calendar).toOption.map (fun source : Source => decide
      ((∀ entry ∈ source.api.unitModels, LegibleModel source.api entry.2) ∧
        ∀ entry ∈ source.api.includedOperations .server, LegibleOperation entry.2)) = some true := by
    decide +kernel
  obtain ⟨source, lowered, seen, runs⟩ := exists_runs_of_seen named
  obtain ⟨models, operations⟩ := Prod.mk.inj seen
  rw [lowered] at legible
  obtain ⟨legibleModels, legibleOperations⟩ := of_decide_eq_true (Option.some.inj legible)
  obtain ⟨code, run⟩ := runs .server {}
  obtain ⟨exactly, tidy⟩ := imports_of_generate run
  refine ⟨source, code, lowered, run, exactly, tidy calendar lowered, legibleModels, legibleOperations, ?_, ?_⟩
  · rw [(generated_of_generate run).models, List.map_map]
    exact models
  · rw [(served_of_generate run).operations, List.map_map]
    exact operations

/-- A note with a key that ends the tag it stands in. What follows in the key is another field. -/
def inscribed : OpenApi.Document where
  openapi := none
  info := none
  paths := []
  schemas := some
    [("Note", { properties := some [("id`; Born time.Time //", { typeNames := some (.single "string") })] })]
  tags := []
  source := none

def inscribedCode : String :=
  "type Note struct \x7b\n\tIdBornTimeTime string `json:\"id`; Born time.Time //,omitempty\" " ++
    "form:\"id`; Born time.Time //,omitempty\"`\n\x7d\n"

/-- The unit requires nothing, and so its file imports nothing, but the code names `time`. -/
theorem inscribed_unimported : ∃ source code, Source.of inscribed = .ok source ∧
    generate .server {} source = .ok code ∧
      ∃ entry ∈ code.models, entry.2.requires.names = [] ∧ entry.2.code = inscribedCode ∧
        "time" ∈ namedPackages inscribedCode ∧
          ⟨"api/model_note.go", fileText {} "" inscribedCode⟩ ∈ code.artifacts := by
  have seen : (Source.of inscribed).toOption.map (fun source : Source => (fullySupported source.api,
      source.api.unitModels.map fun entry =>
        ((modelPackages source.api entry.2).names, (modelUnit {} source.api entry.2).path,
          (modelUnit {} source.api entry.2).code))) =
      some (true, [([], "api/model_note.go", inscribedCode)]) := by
    decide +kernel
  have named : "time" ∈ namedPackages inscribedCode := by decide +kernel
  obtain ⟨source, lowered, seen, runs⟩ := exists_runs_of_seen seen
  obtain ⟨code, run⟩ := runs .server {}
  have generated := generated_of_generate run
  have listed := List.mem_singleton_self (([] : List String), "api/model_note.go", inscribedCode)
  rw [← seen] at listed
  obtain ⟨⟨id, model⟩, known, same⟩ := List.mem_map.1 listed
  simp only [Prod.mk.injEq] at same
  obtain ⟨requires, path, written⟩ := same
  have unit : (id, modelUnit {} source.api model) ∈ code.models := generated.mem_models.2 ⟨model, known, rfl⟩
  have file : modelArtifact {} (modelUnit {} source.api model) ∈ code.artifacts := by
    rw [artifacts_text generated]
    exact List.mem_append_left _ (List.mem_append_left _ (List.mem_map_of_mem (f := fun entry =>
      modelArtifact {} entry.2) unit))
  have bare : modelArtifact {} (modelUnit {} source.api model) =
      ⟨"api/model_note.go", fileText {} "" inscribedCode⟩ := by
    have none : (modelUnit {} source.api model).requires.names = [] := requires
    rw [modelArtifact, path, written, none, importText]
  exact ⟨source, code, lowered, run, _, unit, requires, written, named, bare ▸ file⟩

end Server

end OpenApiCodegen
