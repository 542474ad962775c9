import OpenApiCodegen.Proofs.Lowering.ModelOrigins
import OpenApiCodegen.Proofs.Output.TextLines

namespace OpenApiCodegen

open Api (Model)
open Output (CodeUnit Artifact)

variable {doc : OpenApi.Document} {source : Source} {target : Target} {config : Config}
  {code : GeneratedCode} {id : Nat} {unit : CodeUnit}

theorem lower_of_source (lowered : Source.of doc = .ok source) :
    Lowering.lower (.of doc) = .ok source.api := by
  unfold Source.of at lowered
  cases run : Lowering.lower (.of doc) with
  | error error => simp [run, Bind.bind, Except.bind] at lowered
  | ok api =>
    simp only [run, Bind.bind, Except.bind, Pure.pure, Except.pure, Except.ok.injEq] at lowered
    rw [← lowered]

theorem sound_of_source (lowered : Source.of doc = .ok source) : source.api.Sound :=
  Lowering.sound_of_lower (lower_of_source lowered)

structure Generated (target : Target) (config : Config) (source : Source) (code : GeneratedCode) :
    Prop where
  supported : ∀ model ∈ source.api.models, unsupported? model = none
  models : code.models = source.api.unitModels.map fun entry =>
    (entry.1, target.modelUnit config source.api entry.2)
  artifacts : code.artifacts =
    target.files config (code.models.map (·.2)) (code.operations.map (·.2)) code.shared

theorem generated_of_generate (run : generate target config source = .ok code) :
    Generated target config source code := by
  unfold generate at run
  dsimp only at run
  cases found : source.api.models.findSome? unsupported? with
  | some error => simp [found] at run
  | none =>
    simp only [found, Except.ok.injEq] at run
    rw [← run]
    exact ⟨List.findSome?_eq_none_iff.1 found, rfl, rfl⟩

def fullySupported (api : Api) : Bool :=
  api.models.all fun model => (unsupported? model).isNone

theorem fullySupported_iff {api : Api} :
    fullySupported api = true ↔ ∀ model ∈ api.models, unsupported? model = none := by
  simp [fullySupported]

theorem generate_of_supported (target : Target) (config : Config)
    (supported : ∀ model ∈ source.api.models, unsupported? model = none) :
    ∃ code, generate target config source = .ok code := by
  unfold generate
  dsimp only
  rw [List.findSome?_eq_none_iff.2 supported]
  exact ⟨_, rfl⟩

theorem exists_generated (target : Target) (config : Config)
    (supported : fullySupported source.api = true) :
    ∃ code, generate target config source = .ok code :=
  generate_of_supported target config (fullySupported_iff.1 supported)

theorem exists_runs_of_seen {α : Type} {f : Source → α} {value : α}
    (seen : (Source.of doc).toOption.map (fun source : Source => (fullySupported source.api, f source)) =
      some (true, value)) :
    ∃ source, Source.of doc = .ok source ∧ f source = value ∧
      ∀ target config, ∃ code, generate target config source = .ok code := by
  obtain ⟨source, lowered, seen⟩ := Lowering.exists_of_toOption_map seen
  obtain ⟨supported, holds⟩ := Prod.mk.inj seen
  exact ⟨source, lowered, holds, fun target config => exists_generated target config supported⟩

structure Served (target : Target) (config : Config) (source : Source) (code : GeneratedCode) :
    Prop where
  operations : code.operations = (source.api.includedOperations target).map fun entry =>
    (entry.1, target.operationUnit config source entry.2)
  shared : code.shared =
    target.sharedUnits config source ((source.api.includedOperations target).map (·.2))
  excluded : code.excluded = source.api.exclusions target

theorem served_of_generate (run : generate target config source = .ok code) :
    Served target config source code := by
  unfold generate at run
  dsimp only at run
  cases found : source.api.models.findSome? unsupported? with
  | some error => simp [found] at run
  | none =>
    simp only [found, Except.ok.injEq] at run
    rw [← run]
    exact ⟨rfl, rfl, rfl⟩

theorem Served.included {operation : Api.Operation} (served : Served target config source code)
    (mem : (id, unit) ∈ code.operations) (at_ : source.api.operations[id]? = some operation) :
    (id, operation) ∈ source.api.includedOperations target := by
  rw [served.operations] at mem
  obtain ⟨⟨other, found⟩, included, same⟩ := List.mem_map.1 mem
  obtain ⟨rfl, -⟩ := Prod.mk.inj same
  have here := (Api.mem_includedOperations.1 included).1
  rw [at_, Option.some_inj] at here
  exact here ▸ included

theorem Generated.mem_models (generated : Generated target config source code) :
    (id, unit) ∈ code.models ↔ ∃ model, (id, model) ∈ source.api.unitModels ∧
      target.modelUnit config source.api model = unit := by
  rw [generated.models]
  simp

theorem name_modelUnit (target : Target) (config : Config) (api : Api) (model : Model) :
    (target.modelUnit config api model).name = model.name := by
  cases target <;> rfl

theorem Generated.names (generated : Generated target config source code) :
    (code.models.map (·.2)).map (·.name) = source.api.unitModels.map (·.2.name) := by
  rw [generated.models]
  simp [name_modelUnit]

def Api.unitNames (api : Api) : List String :=
  api.unitModels.map (·.2.name)

theorem WebClient.modelFile_mem {entry : Nat × CodeUnit}
    (generated : Generated .webClient config source code) (mem : entry ∈ code.models) :
    modelFile config.web source.api.unitNames entry.2 ∈ code.artifacts := by
  have unit : entry.2 ∈ code.models.map (·.2) := List.mem_map_of_mem mem
  rw [generated.artifacts, Api.unitNames, ← generated.names]
  exact List.mem_append_left _ (List.mem_append_left _ (List.mem_map_of_mem unit))

theorem Server.modelFile_mem {entry : Nat × CodeUnit}
    (generated : Generated .server config source code) (mem : entry ∈ code.models) :
    modelFile config.server entry.2 ∈ code.artifacts := by
  have unit : entry.2 ∈ code.models.map (·.2) := List.mem_map_of_mem mem
  rw [generated.artifacts]
  exact List.mem_append_left _ (List.mem_append_left _ (List.mem_map_of_mem unit))

theorem MobileClient.modelFile_mem {entry : Nat × CodeUnit}
    (generated : Generated .mobileClient config source code) (mem : entry ∈ code.models) :
    modelFile config.mobile source.api.unitNames entry.2 ∈ code.artifacts := by
  have unit : entry.2 ∈ code.models.map (·.2) := List.mem_map_of_mem mem
  rw [generated.artifacts, Api.unitNames, ← generated.names]
  exact List.mem_append_left _ (List.mem_append_left _ (List.mem_map_of_mem unit))

theorem Generated.modelFile_mem (generated : Generated target config source code)
    (mem : (id, unit) ∈ code.models) :
    ∃ file ∈ code.artifacts, file.path = unit.path ∧ ∃ head, file.contents = head ++ unit.code := by
  cases target with
  | mobileClient => exact ⟨_, MobileClient.modelFile_mem generated mem, rfl, _, rfl⟩
  | server => exact ⟨_, Server.modelFile_mem generated mem, rfl, _, rfl⟩
  | webClient => exact ⟨_, WebClient.modelFile_mem generated mem, rfl, _, rfl⟩

theorem Generated.sharedFile_mem (generated : Generated target config source code)
    (mem : unit ∈ code.shared) :
    ∃ file ∈ code.artifacts, file.path = unit.path ∧
      ∃ head, IsLines head ∧ file.contents = head ++ unit.code := by
  rw [generated.artifacts]
  cases target with
  | mobileClient =>
    exact ⟨_, List.mem_append_right _ (List.mem_map_of_mem mem), rfl, _, isLines_header, rfl⟩
  | webClient =>
    exact ⟨_, List.mem_append_right _ (List.mem_map_of_mem mem), rfl, _, isLines_header, rfl⟩
  | server =>
    refine ⟨_, List.mem_append_right _ (List.mem_map_of_mem mem), rfl, ?_⟩
    unfold Server.sharedFile
    split
    · exact ⟨_, isLines_header, rfl⟩
    · exact ⟨"", ⟨[], rfl⟩, String.empty_append.symm⟩

end OpenApiCodegen
