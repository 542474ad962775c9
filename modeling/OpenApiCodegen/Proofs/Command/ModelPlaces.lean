import OpenApiCodegen.Proofs.Command.WrittenFiles

namespace OpenApiCodegen

open Output (CodeUnit joinPath dropSlashes)

/-- A text is neither more than one piece of a path nor has an extension. -/
def SinglePiece (stem : String) : Prop :=
  ∀ c ∈ stem.toList, c ≠ '/' ∧ c ≠ '\\' ∧ c ≠ '.'

variable {target : Target} {config : Config} {source : Source} {code : GeneratedCode} {stem : String}

theorem singlePiece_modelStem (target : Target) (name : String) :
    SinglePiece (target.modelStem name) := by
  intro c mem
  rw [Target.modelStem, String.toList_append, String.toList_ofList, List.mem_append] at mem
  rcases mem with start | word
  · cases target with
    | server =>
      have letters : Target.server.modelStart.toList = ['m', 'o', 'd', 'e', 'l', '_'] := rfl
      simp only [letters, List.mem_cons, List.not_mem_nil, or_false] at start
      rcases start with rfl | rfl | rfl | rfl | rfl | rfl <;> decide
    | mobileClient => cases start
    | webClient => cases start
  · rcases Text.mem_separatedChars word with rfl | spelled
    · cases target <;> decide
    · refine ⟨?_, ?_, ?_⟩ <;> rintro rfl <;> simp [Text.Spelled] at spelled

theorem slashless_file (single : SinglePiece stem) (target : Target) :
    '/' ∉ (stem ++ target.modelEnd).toList := by
  intro mem
  rw [String.toList_append, List.mem_append] at mem
  rcases mem with inside | ending
  · exact (single _ inside).1 rfl
  · cases target <;> exact absurd ending (by decide)

theorem models_first (target : Target) (config : Config) (models operations shared : List CodeUnit) :
    models.map (·.path) <+: (target.files config models operations shared).map (·.path) := by
  have first : ∃ (file : CodeUnit → Output.Artifact) (rest : List Output.Artifact),
      (∀ unit, (file unit).path = unit.path) ∧
        target.files config models operations shared = models.map file ++ rest := by
    cases target with
    | server => exact ⟨_, _, fun _ => rfl, List.append_assoc _ _ _⟩
    | mobileClient => exact ⟨_, _, fun _ => rfl, List.append_assoc _ _ _⟩
    | webClient => exact ⟨_, _, fun _ => rfl, List.append_assoc _ _ _⟩
  obtain ⟨file, rest, named, files⟩ := first
  rw [files, List.map_append, List.map_map]
  exact ⟨rest.map (·.path), congrArg (· ++ _) (List.map_congr_left fun unit _ => (named unit).symm)⟩

namespace Command

def Location.child (dir : Location) (name : String) : Location :=
  ⟨dir.anchor, name :: dir.names⟩

theorem place_joinPath {file : String} (slashless : '/' ∉ file.toList) (long : 2 < file.toList.length)
    (out dir : String) : Path.place (Path.join out (joinPath dir file)) =
      (Path.place (Path.join out (dropSlashes dir))).child file := by
  have down : Path.place (Path.join out (joinPath dir file)) =
      (Path.place (Path.join out (dropSlashes dir))).follow [file.toList] := by
    unfold joinPath
    by_cases bare : ((dropSlashes dir).isEmpty || dropSlashes dir == ".") = true
    · -- both ways to name no directory lead nowhere
      have here : Path.place (Path.join out (dropSlashes dir)) = Path.place out := by
        rcases Bool.or_eq_true_iff.1 bare with empty | dot
        · rw [String.isEmpty_iff.1 empty, Path.place_join (by decide)]
          rfl
        · rw [eq_of_beq dot, Path.place_join (by decide)]
          rfl
      rw [here]
      simp only [bare, if_true]
      exact Path.place_join slashless
    · have named : (dropSlashes dir).isEmpty = false := by
        rw [Bool.eq_false_iff]
        exact fun empty => bare (Bool.or_eq_true_iff.2 (.inl empty))
      simp only [bare]
      exact Path.place_join_beside named slashless
  rw [down, Path.follow_plain fun piece mem => List.mem_singleton.1 mem ▸ Path.solid_of_long long]
  simp [Location.child]

/-- Whatever the models are called and whatever is configured, each of them has a file in the directory for
models itself. The name of the file is one piece of a path, with no other dot than that of its extension. -/
theorem modelFiles_in_directory (run : generate target config source = .ok code) :
    code.models.map (·.2.path) <+: code.artifacts.map (·.path) ∧
      ∀ entry ∈ code.models, ∃ stem, SinglePiece stem ∧
        entry.2.path = joinPath (target.modelDirIn config) (stem ++ target.modelEnd) ∧
        ∀ out, Path.place (Path.join out entry.2.path) =
          (Path.place (Path.join out (dropSlashes (target.modelDirIn config)))).child
            (stem ++ target.modelEnd) := by
  have generated := generated_of_generate run
  constructor
  · rw [generated.artifacts, ← Function.comp_def, ← List.map_map]
    exact models_first _ _ _ _ _
  · intro entry mem
    obtain ⟨model, -, made⟩ := generated.mem_models.1 mem
    have path := path_modelUnit_in target config source.api model
    rw [made] at path
    have single := singlePiece_modelStem target model.name
    refine ⟨target.modelStem model.name, single, path, fun out => ?_⟩
    have long : 2 < (target.modelStem model.name ++ target.modelEnd).toList.length := by
      cases target <;> simp [Target.modelEnd]
    rw [path]
    exact place_joinPath (slashless_file single target) long out _

/-- Dots and slashes in the names of schemas do not reach the names of files. -/
theorem dottedNames_in_directory : ∃ source code,
    Source.of (records ["../Owner.ts", "a\\b"]) = .ok source ∧
      generate .webClient { web := { modelDir := "../models//" } } source = .ok code ∧
      code.models.map (·.2.path) = ["../models/owner-ts.ts", "../models/ab.ts"] ∧
      ∀ entry ∈ code.models, ∃ stem, SinglePiece stem ∧
        Path.place (Path.join "out" entry.2.path) =
          (Path.place (Path.join "out" "../models")).child (stem ++ ".ts") := by
  have seen : (Source.of (records ["../Owner.ts", "a\\b"])).toOption.map (fun source : Source =>
      (generate .webClient { web := { modelDir := "../models//" } } source).toOption.map
        fun code : GeneratedCode => code.models.map (·.2.path)) =
      some (some ["../models/owner-ts.ts", "../models/ab.ts"]) := by
    rfl
  obtain ⟨source, lowered, seen⟩ := Lowering.exists_of_toOption_map seen
  obtain ⟨code, run, paths⟩ := Lowering.exists_of_toOption_map seen
  refine ⟨source, code, lowered, run, paths, fun entry mem => ?_⟩
  obtain ⟨stem, single, -, place⟩ := (modelFiles_in_directory run).2 entry mem
  have dir : dropSlashes "../models//" = "../models" := by decide
  exact ⟨stem, single, dir ▸ place "out"⟩

end Command

end OpenApiCodegen
