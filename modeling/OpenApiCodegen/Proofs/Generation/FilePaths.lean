import OpenApiCodegen.Proofs.Generation.Units
import OpenApiCodegen.Proofs.Text.Casing

namespace OpenApiCodegen

open Output (joinPath)
open Text (loweredWords separatedChars)

namespace Target

/-- Where the files of models go, if nothing is configured. -/
def modelDir : Target → String
  | mobileClient => "lib/model"
  | server => "api"
  | webClient => "src/model"

/-- The directory that is configured for the files of models. -/
def modelDirIn (config : Config) : Target → String
  | mobileClient => config.mobile.modelDir
  | server => config.server.sourceDir
  | webClient => config.web.modelDir

def modelStart : Target → String
  | server => "model_"
  | _ => ""

def modelEnd : Target → String
  | mobileClient => ".dart"
  | server => ".go"
  | webClient => ".ts"

def wordSeparator : Target → Char
  | webClient => '-'
  | _ => '_'

def modelStem (target : Target) (name : String) : String :=
  target.modelStart ++ String.ofList (separatedChars target.wordSeparator name.toList)

def modelFile (target : Target) (stem : List Char) : String :=
  target.modelDir ++ "/" ++ (target.modelStart ++ String.ofList stem ++ target.modelEnd)

def modelPath (target : Target) (name : String) : String :=
  target.modelFile (separatedChars target.wordSeparator name.toList)

def commonPaths : Target → List String
  | mobileClient => ["lib/model/_index.dart", "lib/api/rest_client.dart", "lib/api/decode_error.dart",
      "lib/api/global_parameters.dart"]
  | server => ["api/api.go", "api/support.go", "api/routes.go", "api/validation.go", "api/spec.json"]
  | webClient => ["src/model/index.ts", "src/api/api.ts", "src/api/client.ts",
      "src/api/global-parameters.ts"]

end Target

section Names

variable {target : Target} {name other : String} {stem text : List Char}

theorem separator_apart (target : Target) : ¬Text.Spelled Char.isLower target.wordSeparator := by
  cases target <;> simp [Text.Spelled, Target.wordSeparator]

theorem modelFile_inj : target.modelFile stem = target.modelFile text ↔ stem = text := by
  simp [Target.modelFile, String.ofList_inj]

theorem modelPath_inj : target.modelPath name = target.modelPath other ↔
    loweredWords name.toList = loweredWords other.toList := by
  rw [Target.modelPath, Target.modelPath, modelFile_inj]
  exact Text.separatedChars_injective (separator_apart target)

theorem modelPath_eq_index : Target.webClient.modelPath name = "src/model/index.ts" ↔
    loweredWords name.toList = ["index".toList] := by
  have alone : loweredWords "index".toList = ["index".toList] := by decide
  have index : Target.webClient.modelPath "index" = "src/model/index.ts" := by decide
  rw [← alone, ← index]
  exact modelPath_inj

theorem modelPath_ne_index : Target.mobileClient.modelPath name ≠ "lib/model/_index.dart" := by
  intro same
  have index : "lib/model/_index.dart" = Target.mobileClient.modelFile "_index".toList := by decide
  rw [index, Target.modelPath, modelFile_inj] at same
  exact Text.separatedChars_ne_cons (separator_apart .mobileClient) "index".toList same

theorem index_of_front : ∀ path ∈ target.commonPaths,
    path.toList.take 5 = (target.modelFile []).toList.take 5 →
      (target = .webClient ∧ path = "src/model/index.ts") ∨
        (target = .mobileClient ∧ path = "lib/model/_index.dart") := by
  cases target <;> decide

theorem front_modelFile (target : Target) (stem : List Char) :
    (target.modelFile stem).toList.take 5 = (target.modelFile []).toList.take 5 := by
  cases target <;> simp [Target.modelFile, Target.modelDir, Target.modelStart]

theorem modelPath_mem_commonPaths : target.modelPath name ∈ target.commonPaths ↔
    target = .webClient ∧ loweredWords name.toList = ["index".toList] := by
  constructor
  · intro mem
    rcases index_of_front _ mem (front_modelFile target _) with ⟨rfl, same⟩ | ⟨rfl, same⟩
    · exact ⟨rfl, modelPath_eq_index.1 same⟩
    · exact absurd same modelPath_ne_index
  · rintro ⟨rfl, words⟩
    rw [modelPath_eq_index.2 words]
    exact List.mem_cons_self

end Names

section Runs

variable {target : Target} {source : Source} {code : GeneratedCode}

theorem joinPath_plain {dir : String} (plain : Output.dropSlashes dir = dir)
    (named : (dir.isEmpty || dir == ".") = false) (file : String) :
    joinPath dir file = dir ++ "/" ++ file := by
  unfold joinPath
  rw [plain]
  dsimp only
  rw [named]
  rfl

theorem path_modelUnit_in (target : Target) (config : Config) (api : Api) (model : Api.Model) :
    (target.modelUnit config api model).path =
      joinPath (target.modelDirIn config) (target.modelStem model.name ++ target.modelEnd) := by
  have bare : ∀ text : String, "" ++ text = text := fun text => String.empty_append
  cases target with
  | mobileClient =>
    simp only [Target.modelUnit, MobileClient.modelUnit, Target.modelStem, Target.modelStart, bare]
    rfl
  | server =>
    simp only [Target.modelUnit, Server.modelUnit]
    rfl
  | webClient =>
    simp only [Target.modelUnit, WebClient.modelUnit, Target.modelStem, Target.modelStart, bare]
    rfl

theorem path_modelUnit (target : Target) (api : Api) (model : Api.Model) :
    (target.modelUnit {} api model).path = target.modelPath model.name := by
  have plain : joinPath (target.modelDirIn {}) (target.modelStem model.name ++ target.modelEnd) =
      target.modelDirIn {} ++ "/" ++ (target.modelStem model.name ++ target.modelEnd) := by
    cases target <;> exact joinPath_plain (by decide) (by decide) _
  rw [path_modelUnit_in, plain]
  cases target <;> rfl

theorem MobileClient.path_files (models operations shared : List Output.CodeUnit) :
    (files {} models operations shared).map (·.path) = models.map (·.path) ++
      (["lib/model/_index.dart", "lib/api/rest_client.dart"] ++ shared.map (·.path)) := by
  have index : joinPath "lib/model" indexFileName = "lib/model/_index.dart" := by decide
  have client : joinPath "lib/api" (sourceFile "RestClient") = "lib/api/rest_client.dart" := by
    rfl
  simp [files, modelFile, indexFile, clientFile, sharedFile, Function.comp_def, index, client]

theorem WebClient.path_files (models operations shared : List Output.CodeUnit) :
    (files {} models operations shared).map (·.path) = models.map (·.path) ++
      (["src/model/index.ts", "src/api/api.ts"] ++ shared.map (·.path)) := by
  have index : joinPath "src/model" "index.ts" = "src/model/index.ts" := by decide
  have requests : joinPath "src/api" (sourceFile requestsModule) = "src/api/api.ts" := by decide
  simp [files, modelFile, indexFile, requestsFile, sharedFile, Function.comp_def, index, requests]

theorem Server.path_files (models operations shared : List Output.CodeUnit) :
    (files {} models operations shared).map (·.path) = models.map (·.path) ++
      ((if operations.isEmpty then [] else ["api/api.go"]) ++ shared.map (·.path)) := by
  have handlers : joinPath "api" handlersFile = "api/api.go" := by decide
  have written : (if operations.isEmpty then [] else [handlersFileOf {} operations]).map (·.path) =
      if operations.isEmpty then [] else ["api/api.go"] := by
    split
    · rfl
    · simp [handlersFileOf, handlers]
  rw [files, List.map_append, List.map_append, written, List.append_assoc]
  simp [modelFile, sharedFile, Function.comp_def]

theorem paths_of_generate (run : generate target {} source = .ok code) :
    ∃ common, code.artifacts.map (·.path) = source.api.unitNames.map target.modelPath ++ common ∧
      common.Sublist target.commonPaths ∧ (target = .webClient → "src/model/index.ts" ∈ common) := by
  have generated := generated_of_generate run
  have served := served_of_generate run
  have models : (code.models.map (·.2)).map (·.path) = source.api.unitNames.map target.modelPath := by
    rw [generated.models, Api.unitNames, List.map_map, List.map_map, List.map_map]
    exact List.map_congr_left fun entry _ => path_modelUnit target source.api entry.2
  rw [generated.artifacts, served.shared, ← models]
  cases target with
  | mobileClient =>
    refine ⟨_, MobileClient.path_files _ _ _, ?_, by simp⟩
    show List.Sublist (_ ++ List.map _ (MobileClient.sharedUnits _ _ _)) _
    unfold MobileClient.sharedUnits
    split
    · exact List.Sublist.refl Target.mobileClient.commonPaths
    · exact List.sublist_append_left (Target.mobileClient.commonPaths.take 3) _
  | webClient =>
    refine ⟨_, WebClient.path_files _ _ _, ?_, fun _ => List.mem_cons_self⟩
    show List.Sublist (_ ++ List.map _ (WebClient.sharedUnits _ _ _)) _
    unfold WebClient.sharedUnits
    split
    · exact List.Sublist.refl Target.webClient.commonPaths
    · exact List.sublist_append_left (Target.webClient.commonPaths.take 3) _
  | server =>
    refine ⟨_, Server.path_files _ _ _, ?_, by simp⟩
    show List.Sublist (_ ++ List.map _ (Server.sharedUnits _ _ _)) (["api/api.go"] ++ _)
    apply List.Sublist.append
    · split
      · exact List.nil_sublist _
      · exact List.Sublist.refl _
    · unfold Server.sharedUnits
      cases Server.checkedDocument? {} source.document with
      | none => exact List.sublist_append_left ["api/support.go", "api/routes.go"] _
      | some document => exact List.Sublist.refl (Target.server.commonPaths.drop 1)

/-- When each model has a file of its own. Nothing else can share a file. -/
structure FilesApart (target : Target) (api : Api) : Prop where
  spelled : (api.unitNames.map fun name => loweredWords name.toList).Nodup
  index : target = .webClient → ∀ name ∈ api.unitNames, loweredWords name.toList ≠ ["index".toList]

theorem paths_nodup_iff (run : generate target {} source = .ok code) :
    (code.artifacts.map (·.path)).Nodup ↔ FilesApart target source.api := by
  obtain ⟨common, paths, sublist, index⟩ := paths_of_generate run
  have apart : (source.api.unitNames.map target.modelPath).Nodup ↔
      (source.api.unitNames.map fun name => loweredWords name.toList).Nodup := by
    simp only [List.Nodup, List.pairwise_map, ne_eq, modelPath_inj]
  have distinct : common.Nodup := by
    apply sublist.nodup
    cases target <;> decide
  rw [paths, List.nodup_append, apart]
  constructor
  · rintro ⟨spelled, -, disjoint⟩
    refine ⟨spelled, fun web name mem named => ?_⟩
    subst web
    exact disjoint _ (List.mem_map_of_mem mem) _ (index rfl) (modelPath_eq_index.2 named)
  · rintro ⟨spelled, index⟩
    refine ⟨spelled, distinct, ?_⟩
    rintro path mem other inside rfl
    obtain ⟨name, named, rfl⟩ := List.mem_map.1 mem
    obtain ⟨web, words⟩ := modelPath_mem_commonPaths.1 (sublist.subset inside)
    exact index web name named words

end Runs

end OpenApiCodegen
