import OpenApiCodegen.Proofs.Generation.Declarations
import OpenApiCodegen.Proofs.Lowering.ModelNames
import OpenApiCodegen.Proofs.Server.Identifiers
import OpenApiCodegen.Proofs.Server.PackageFiles

namespace OpenApiCodegen.Server

open Api (Model Operation Placement)

/-- All names that the files of a package declare. -/
def packageNames (config : ServerConfig) (source : Source) : List String :=
  (packageFiles config source).flatMap GoFile.names

def declaresValues (place : Placement) : Bool :=
  match place.asVariant, place.model.shape with
  | false, .enumeration _ => true
  | _, _ => false

def valuesNames (place : Placement) : List String :=
  if declaresValues place then [place.model.name ++ "Values"] else []

def supportNames : List String :=
  ["DecodeError", "newUnrecognizedVariant", "StatusError", "ParamError", "errMissing", "statusOf",
    "writeJSON", "writeBytes", "writeError", "decodeJSON", "pathSegment", "first", "maxFormMemory",
    "parseForm", "formValues", "formFiles", "parseInt", "parseInt64", "parseFloat32", "parseFloat64",
    "parseBool", "parseDate", "parseDateTime", "parseText", "parseAll"]

def routeNames : List String := ["Route", "Routes", "Register"]

def checkNames : List String :=
  ["specData", "specOnce", "specRouter", "specRouterErr", "loadSpecRouter", "validateRequest"]

def fixedNames (checked : Bool) : List String :=
  supportNames ++ routeNames ++ if checked then checkNames else []

def madeNames (api : Api) (checked : Bool) : List String :=
  (api.placements.flatMap fun place => place.model.name :: valuesNames place) ++
    ((api.includedOperations .server).map (·.2)).flatMap operationNames ++ fixedNames checked

section Reading

variable {config : ServerConfig} {source : Source}

theorem declares_supportPieces : supportPieces.flatMap declares = supportNames := by
  simp only [supportPieces, errorTypes, decodeErrorCode, statusErrorCode, parameterErrorCode,
    responseWriters, statusFunction, writeJsonFunction, writeBytesFunction, writeErrorFunction,
    requestReaders, decodeBodyFunction, pathSegmentFunction, firstFunction, formReaders, textParsers,
    valueParsers, conversion, parseTextFunction, parseAllFunction, List.cons_append, List.nil_append,
    List.flatMap_cons, List.flatMap_nil, declares, declaredFrom, String.toList_append]
  -- each line becomes a list of characters
  repeat rw [String.toList_ofList]
  rfl

theorem declares_routePieces (rows : List RouteRow) : (routePieces rows).flatMap declares = routeNames := by
  simp only [routePieces, routeType, registerFunction, List.flatMap_cons, List.flatMap_nil, declares,
    declaredFrom]
  repeat rw [String.toList_ofList]
  rfl

theorem declares_checkPieces (document : Json.Value) :
    (checkPieces document).flatMap declares = checkNames := by
  simp only [checkPieces, documentVariables, loadFunction, validateFunction, List.flatMap_append,
    List.flatMap_cons, List.flatMap_nil, declares, declaredFrom, List.filterMap_cons, lineName?]
  repeat rw [String.toList_ofList]
  rfl

theorem declares_packageClause (package : String) : declares (packageClause package) = [] := by
  have line : (s!"package {package}" : String).toList = 'p' :: ("ackage " ++ package).toList := by
    simp only [String.toList_append]
    rfl
  rw [packageClause, declares, declaredFrom, line, declared?_eq_none (by decide)]
  rfl

theorem declares_importBlock (lines : List Code) : declares (importBlock lines) = [] := by
  simp only [importBlock, declares, declaredFrom]
  repeat rw [String.toList_ofList]
  rw [declared?_eq_none (by decide), declared?_eq_none (by decide), opensGroup_eq_false (by decide)]
  rfl

theorem declares_importsCode (packages : NameSet) : (importsCode packages).flatMap declares = [] := by
  unfold importsCode
  split
  · rfl
  · rename_i package _
    have line : ("import " ++ Text.inDoubleQuotes package).toList =
        'i' :: ("mport " ++ Text.inDoubleQuotes package).toList := by
      simp only [String.toList_append]
      rfl
    rw [List.flatMap_singleton, declares, declaredFrom, line, declared?_eq_none (by decide)]
    rfl
  · simp [declares_importBlock]

theorem declares_sourcePieces (packages : NameSet) (pieces : List (List Code)) :
    (sourcePieces config packages pieces).flatMap declares = pieces.flatMap declares := by
  simp [sourcePieces, declares_packageClause, declares_importsCode]

theorem names_fixedFiles (document : Option Json.Value) (operations : List Operation) :
    (fixedFiles config document operations).flatMap GoFile.names =
      fixedNames (checkedDocument? config document).isSome := by
  have netHttp : declares [.line "import \"net/http\""] = [] := by
    simp only [declares, declaredFrom]
    rw [String.toList_ofList]
    rfl
  have support : (supportFile config).names = supportNames := by
    simp [GoFile.names, supportFile, declares_spaced, declares_packageClause, declares_importBlock,
      declares_supportPieces]
  have routes : (routesFile config operations).names = routeNames := by
    rw [GoFile.names, routesFile, declares_spaced, List.flatMap_cons, List.flatMap_cons,
      declares_routePieces, declares_packageClause, netHttp]
    rfl
  have check : ∀ document, (checkFile config document).names = checkNames := by
    intro document
    simp [GoFile.names, checkFile, declares_spaced, declares_packageClause, declares_importBlock,
      declares_checkPieces]
  cases checked : checkedDocument? config document <;>
    simp [fixedFiles, fixedNames, checked, support, routes, check]

section Models

variable {api : Api}

theorem names_declarationsAt (api : Api) (place : Placement) :
    ((writing api).declarationsAt place).flatMap Declaration.names = place.model.name :: valuesNames place := by
  unfold Writing.declarationsAt Writing.declarations valuesNames declaresValues
  cases place.asVariant with
  | true => simp [Declaration.names, writing, recordStruct]
  | false =>
    cases place.model.shape <;> simp [Declaration.names, writing, recordStruct, enumType, unionType]

theorem head?_names {place : Placement} {declaration : Declaration}
    (mem : declaration ∈ (writing api).declarationsAt place) : declaration.names.head? = some place.model.name := by
  unfold Writing.declarationsAt Writing.declarations at mem
  cases variant : place.asVariant with
  | true =>
    rw [variant] at mem
    obtain rfl := List.mem_singleton.1 mem
    rfl
  | false =>
    rw [variant] at mem
    cases shape : place.model.shape <;> rw [shape] at mem <;> obtain rfl := List.mem_singleton.1 mem <;>
      rfl

theorem names_fileOfModel (capitalized : ∀ model ∈ api.models, Text.Capitalized model.name.toList)
    {unit : Nat × Model} (listed : unit ∈ api.unitModels) :
    (fileOfModel config api unit.2).names =
      (api.placementsOf unit).flatMap fun place => place.model.name :: valuesNames place := by
  have each : ∀ place ∈ api.placementsOf unit, ∀ declaration ∈ (writing api).declarationsAt place,
      declaration.code.flatMap declares = declaration.names := by
    intro place inside declaration mem
    apply declares_declaration
    intro name first
    rw [head?_names mem] at first
    cases first
    have placed : place ∈ api.placements := List.mem_flatMap.2 ⟨unit, listed, inside⟩
    exact plain_of_capitalized
      (capitalized _ (List.mem_of_getElem? (Api.getElem?_of_mem_placements placed)))
  rw [GoFile.names, fileOfModel, declares_spaced, declares_sourcePieces, modelDeclarations_eq,
    List.flatMap_assoc, List.flatMap_assoc]
  refine List.flatMap_congr fun place mem => ?_
  rw [← names_declarationsAt api]
  exact List.flatMap_congr (each place mem)

end Models

theorem packageNames_eq (capitalized : ∀ model ∈ source.api.models, Text.Capitalized model.name.toList) :
    packageNames config source =
      madeNames source.api (checkedDocument? config source.document).isSome := by
  let operations := (source.api.includedOperations .server).map (·.2)
  have models : (source.api.unitModels.map fun unit => fileOfModel config source.api unit.2).flatMap
      GoFile.names = source.api.placements.flatMap fun place => place.model.name :: valuesNames place := by
    rw [Api.placements, List.flatMap_map, List.flatMap_assoc]
    exact List.flatMap_congr fun unit listed => names_fileOfModel capitalized listed
  have handlers : (if operations.isEmpty then []
      else [fileOfHandlers config source.document source.api operations]).flatMap GoFile.names =
        operations.flatMap operationNames := by
    split
    · rename_i none
      rw [List.isEmpty_iff.1 none]
      rfl
    · rw [List.flatMap_singleton, GoFile.names, fileOfHandlers, declares_spaced, declares_sourcePieces,
        List.flatMap_assoc]
      exact List.flatMap_congr fun operation _ => declares_operation source.api _ operation
  rw [packageNames, packageFiles, List.flatMap_append, List.flatMap_append, models, handlers,
    names_fixedFiles, madeNames]

end Reading

end OpenApiCodegen.Server
