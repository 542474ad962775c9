import OpenApiCodegen.Proofs.Server.PackageFiles

namespace OpenApiCodegen

open Api (Operation)
open Output (CodeUnit Artifact joinPath)

def Config.checking (config : Config) (checks : Bool) : Config :=
  { config with server := { config.server with validateRequests := checks } }

namespace Server

section Handlers

def functionHead (function : Function) : String :=
  let parameters := function.parameters.map fun (name, type) => name ++ " " ++ type
  let written :=
    if 1 < parameters.length then "\n" ++ String.join (parameters.map fun text => "\t" ++ text ++ ",\n")
    else commaSeparated parameters
  Code.render indent (lineComment function.doc) ++ "func " ++ function.name ++ "(" ++ written ++ ")" ++
    resultsCode function.results ++ " \x7b\n"

def handlerFrame (api : Api) (operation : Operation) : Function where
  doc := some (handlerDoc operation)
  receiver := none
  name := goName operation ++ "Ctrl"
  parameters := ("handle", handleType api operation) :: responders api operation
  results := ["http.HandlerFunc"]
  body := []

def handlerOpening (api : Api) (operation : Operation) : String :=
  (if hasParameters operation then
    render [(parametersStruct api operation).code, readerCode api operation] ++ "\n" else "") ++
    functionHead (handlerFrame api operation) ++ "\treturn func(w http.ResponseWriter, r *http.Request) \x7b\n"

def handlerRest (api : Api) (operation : Operation) : String :=
  Code.textOfAll indent 2 (readCode operation ++ answerCode api operation) ++ "\t\x7d\n\x7d\n"

def guardText : String :=
  "\t\tif !validateRequest(w, r) \x7b\n\t\t\treturn\n\t\t\x7d\n"

theorem text_arguments (parameters : List String) :
    Code.textOfAll indent 1 (parameters.map fun parameter => .line (parameter ++ ",")) =
      String.join (parameters.map fun text => "\t" ++ text ++ ",\n") := by
  have deep : Code.indentation indent 1 = "\t" := by rfl
  induction parameters with
  | nil => rfl
  | cons first rest ih =>
    rw [List.map_cons, List.map_cons, String.join_cons, Code.textOfAll, Code.text, ih, deep]
    simp only [String.append_assoc]
    rfl

theorem text_block (depth : Nat) (head : String) (body : List Code) :
    Code.textOfAll indent depth [.block head body] = Code.indentation indent depth ++ head ++ " \x7b\n" ++
      Code.textOfAll indent (depth + 1) body ++ Code.indentation indent depth ++ "\x7d\n" := by
  have close : "\x7d" ++ "" ++ "\n" = "\x7d\n" := by rfl
  rw [Code.textOfAll_singleton, Code.text, ← close]
  simp only [String.append_assoc]

theorem render_function {function : Function} (free : function.receiver = none) :
    render [function.code] =
      functionHead function ++ Code.textOfAll indent 1 function.body ++ "\x7d\n" := by
  have left : Code.indentation indent 0 = "" := rfl
  have spaced : Code.spaced [function.code] = function.code := rfl
  rw [render, Code.render, spaced, Function.code, functionHead, Code.textOfAll_append, free]
  dsimp only
  split
  · rw [Code.textOfAll, Code.textOfAll, text_block]
    simp only [Code.text, Nat.zero_add, text_arguments, left, Code.render]
    simp only [String.append_assoc, String.empty_append]
  · rw [text_block]
    simp only [Nat.zero_add, left, Code.render]
    simp only [String.append_assoc, String.empty_append]

theorem text_guard : Code.textOfAll indent 2 guardCode = guardText := by
  rfl

theorem render_operation (api : Api) (validate : Bool) (operation : Operation) :
    render (operationCode api validate operation) =
      handlerOpening api operation ++ (if validate then guardText else "") ++ handlerRest api operation := by
  have guarded : Code.textOfAll indent 2 (if validate then guardCode else []) =
      if validate then guardText else "" := by
    cases validate
    · rfl
    · exact text_guard
  have deep : Code.indentation indent 1 = "\t" := by rfl
  have handler : render [handlerCode api validate operation] =
      functionHead (handlerFrame api operation) ++
        "\treturn func(w http.ResponseWriter, r *http.Request) \x7b\n" ++
      (if validate then guardText else "") ++ handlerRest api operation := by
    rw [handlerCode, render_function rfl, text_block, Code.textOfAll_append, Code.textOfAll_append, guarded,
      handlerRest, Code.textOfAll_append, deep]
    simp only [String.append_assoc]
    rfl
  unfold operationCode handlerOpening
  split
  · rw [render_append (by simp) (by simp), handler]
    simp only [String.append_assoc]
  · rw [List.nil_append, handler]
    simp only [String.append_assoc, String.empty_append]

end Handlers

section Packages

variable {config : Config} {source : Source} {code : GeneratedCode}

def handlersWith (config : ServerConfig) (api : Api) (guard : String) (operations : List Operation) :
    Artifact :=
  let packages := NameSet.ofList (operations.flatMap fun operation => (operationPackages api operation).names)
  let texts := operations.map fun operation =>
    handlerOpening api operation ++ guard ++ handlerRest api operation
  ⟨joinPath config.sourceDir handlersFile, sourceFile config packages (String.intercalate "\n" texts)⟩

def packageWith (config : ServerConfig) (api : Api) (guard : String) : List Artifact :=
  let operations := (api.includedOperations .server).map (·.2)
  (api.unitModels.map fun unit => (fileOfModel config api unit.2).artifact) ++
    (if operations.isEmpty then [] else [handlersWith config api guard operations]) ++
    [(supportFile config).artifact, (routesFile config operations).artifact]

def checkFiles (config : ServerConfig) (document : Json.Value) : List Artifact :=
  [(checkFile config document).artifact, documentFile config document]

theorem fileOfHandlers_artifact (config : ServerConfig) (document : Option Json.Value) (api : Api)
    {operations : List Operation} (some : operations ≠ []) :
    (fileOfHandlers config document api operations).artifact = handlersWith config api
      (if (checkedDocument? config document).isSome then guardText else "") operations := by
  have codes : (operations.map (handlerUnit config document api)).map (·.code) =
      operations.map fun operation => handlerOpening api operation ++
        (if (checkedDocument? config document).isSome then guardText else "") ++
          handlerRest api operation := by
    rw [List.map_map]
    exact List.map_congr_left fun operation _ => render_operation api _ operation
  rw [← handlersFile_eq config document api some, handlersFileOf, codes, packages_handlerUnits]
  rfl

theorem artifacts_guarded (run : generate .server config source = .ok code) :
    code.artifacts = packageWith config.server source.api
        (if (checkedDocument? config.server source.document).isSome then guardText else "") ++
      ((checkedDocument? config.server source.document).map (checkFiles config.server)).getD [] := by
  have handlers : (if ((source.api.includedOperations .server).map (·.2)).isEmpty then [] else
        [fileOfHandlers config.server source.document source.api
          ((source.api.includedOperations .server).map (·.2))]).map GoFile.artifact =
      if ((source.api.includedOperations .server).map (·.2)).isEmpty then [] else
        [handlersWith config.server source.api
          (if (checkedDocument? config.server source.document).isSome then guardText else "")
          ((source.api.includedOperations .server).map (·.2))] := by
    split
    · rfl
    · rename_i some
      exact congrArg (fun file => [file]) (fileOfHandlers_artifact _ _ _ (by simpa using some))
  rw [artifacts_eq run, packageFiles, packageWith]
  simp only [List.map_append, List.map_map, handlers, fixedFiles]
  cases checkedDocument? config.server source.document with
  | none => simp [Function.comp_def]
  | some document => simp [Function.comp_def, checkFiles]

/-- What two packages share if the second one checks requests against a document. -/
structure ChecksAdded (config : ServerConfig) (api : Api) (document : Json.Value)
    (plain checked : GeneratedCode) : Prop where
  models : checked.models = plain.models
  included : checked.operations.map (·.1) = plain.operations.map (·.1)
  excluded : checked.excluded = plain.excluded
  plainFiles : plain.artifacts = packageWith config api ""
  checkedFiles : checked.artifacts = packageWith config api guardText ++ checkFiles config document

/-- Without a document, checking requests changes nothing. With a document it adds the files of the check,
and to each handler the guard, whether or not the package can be generated at all. -/
theorem checks_only_added (config : Config) (api : Api) (document : Json.Value) :
    generate .server (config.checking true) ⟨api, none⟩ =
        generate .server (config.checking false) ⟨api, some document⟩ ∧
      ((∃ error, generate .server (config.checking false) ⟨api, some document⟩ = .error error ∧
          generate .server (config.checking true) ⟨api, some document⟩ = .error error) ∨
        ∃ plain checked, generate .server (config.checking false) ⟨api, some document⟩ = .ok plain ∧
          generate .server (config.checking true) ⟨api, some document⟩ = .ok checked ∧
          ChecksAdded config.server api document plain checked) := by
  refine ⟨rfl, ?_⟩
  cases found : api.models.findSome? unsupported? with
  | some error => exact .inl ⟨error, by simp only [generate, found], by simp only [generate, found]⟩
  | none =>
    have supported := List.findSome?_eq_none_iff.1 found
    obtain ⟨plain, run⟩ : ∃ plain,
        generate .server (config.checking false) ⟨api, some document⟩ = .ok plain :=
      generate_of_supported .server (config.checking false) supported
    obtain ⟨checked, run'⟩ : ∃ checked,
        generate .server (config.checking true) ⟨api, some document⟩ = .ok checked :=
      generate_of_supported .server (config.checking true) supported
    have served := served_of_generate run
    have served' := served_of_generate run'
    refine .inr ⟨plain, checked, run, run', ?_, ?_, ?_, ?_, ?_⟩
    · rw [(generated_of_generate run).models, (generated_of_generate run').models]
      rfl
    · rw [served.operations, served'.operations, List.map_map, List.map_map]
      rfl
    · rw [served.excluded, served'.excluded]
    · rw [artifacts_guarded run]
      exact List.append_nil _
    · rw [artifacts_guarded run']
      rfl

end Packages

end Server

end OpenApiCodegen
