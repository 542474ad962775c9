import OpenApiCodegen.Proofs.Command.FileTrees
import OpenApiCodegen.Proofs.Command.Runs
import OpenApiCodegen.Proofs.Generation.FilePaths

namespace OpenApiCodegen.Command

open Output (Artifact)

variable {α β : Type} {written : Location → Prop}

namespace Action

def Keeps (written : Location → Prop) (work : Action World α) : Prop :=
  ∀ (before after : World) (result : Except CommandError α), outcome work before = (result, after) →
    FileTree.Keeps written before.tree after.tree

theorem Keeps.pure (a : α) : Keeps written (pure a : Action World α) := by
  intro before after result run
  cases run
  exact FileTree.Keeps.refl _

theorem Keeps.throw (error : CommandError) : Keeps written (throw error : Action World α) := by
  intro before after result run
  cases run
  exact FileTree.Keeps.refl _

theorem Keeps.lift {work : StateM World α}
    (keeps : ∀ world, FileTree.Keeps written world.tree (work world).2.tree) :
    Keeps written (ExceptT.lift work : Action World α) := by
  intro before after result run
  cases run
  exact keeps before

theorem Keeps.bind {work : Action World α} {next : α → Action World β} (first : Keeps written work)
    (rest : ∀ a, Keeps written (next a)) : Keeps written (work >>= next) := by
  intro before after result run
  cases result with
  | ok b =>
    obtain ⟨a, middle, went, finished⟩ := bind_eq_ok.1 run
    exact (first _ _ _ went).trans (rest a _ _ _ finished)
  | error error =>
    rcases bind_eq_error.1 run with stopped | ⟨a, middle, went, stopped⟩
    · exact first _ _ _ stopped
    · exact (first _ _ _ went).trans (rest a _ _ _ stopped)

theorem keeps_closed : Closed (Keeps written) :=
  ⟨Keeps.pure, Keeps.bind⟩

end Action

open Command.Action

theorem changeTree_eq (change : FileTree → Except FileError FileTree) (world : World) :
    changeTree change world = match change world.tree with
      | .ok tree => (.ok (), { world with tree })
      | .error error => (.error error, world) := by
  unfold changeTree
  simp only [bind, StateT.bind, get, getThe, MonadStateOf.get, StateT.get, pure]
  cases change world.tree <;> rfl

theorem changeTree_keeps {change : FileTree → Except FileError FileTree}
    (keeps : ∀ before after, change before = .ok after → FileTree.Keeps written before after)
    (world : World) : FileTree.Keeps written world.tree (changeTree change world).2.tree := by
  rw [changeTree_eq]
  cases changed : change world.tree with
  | ok tree => exact keeps _ _ changed
  | error error => exact FileTree.Keeps.refl _

theorem createDirectories_keeps (paths : List String) :
    Keeps written (createDirectories paths : Action World (Except FileError Unit)) := by
  apply keeps_closed.createDirectories
  · intro path
    exact Keeps.lift (changeTree_keeps fun _ _ => FileTree.createDirectory_eq_ok)
  · intro path
    exact Keeps.lift fun world => FileTree.Keeps.refl _

section Artifacts

variable {before after : World} {dir : String} {artifact : Artifact}

def pathIn (dir : String) (artifact : Artifact) : String :=
  Path.join dir artifact.path

theorem writeText_keeps (path contents : String) : Keeps (· = Path.place path)
    (FileSystem.writeText path contents : Action World (Except FileError Unit)) :=
  Keeps.lift (changeTree_keeps fun _ _ wrote => (FileTree.write_eq_ok wrote).2)

theorem writeText_holds {path contents : String}
    (run : outcome (FileSystem.writeText path contents : Action World (Except FileError Unit)) before =
      (.ok (.ok ()), after)) : after.tree.Holds path contents := by
  have changed : changeTree (fun tree => tree.write path contents.toUTF8) before =
      (.ok (), after) :=
    Prod.ext (Except.ok.inj (Prod.mk.inj run).1) (Prod.mk.inj run).2
  rw [changeTree_eq] at changed
  cases wrote : before.tree.write path contents.toUTF8 with
  | error error =>
    rw [wrote] at changed
    cases changed
  | ok tree =>
    rw [wrote] at changed
    cases changed
    exact (FileTree.write_eq_ok wrote).1

theorem writeArtifact_keeps (dir : String) (artifact : Artifact) :
    Keeps (· = Path.place (pathIn dir artifact)) (writeArtifact dir artifact) := by
  apply keeps_closed.writeArtifact
  · exact createDirectories_keeps _
  · exact writeText_keeps _ _
  · exact fun path error => Keeps.throw _
  · exact fun path error => Keeps.throw _

theorem writeArtifact_holds (run : outcome (writeArtifact dir artifact) before = (.ok (), after)) :
    after.tree.Holds (pathIn dir artifact) artifact.contents := by
  obtain ⟨made, middle, -, run⟩ := bind_eq_ok.1 run
  rcases made with error | ⟨⟩
  · cases run
  · obtain ⟨wrote, last, went, run⟩ := bind_eq_ok.1 run
    rcases wrote with error | ⟨⟩
    · cases run
    · cases run
      exact writeText_holds went

theorem writeAll_holds {artifacts : List Artifact}
    (apart : (artifacts.map fun artifact => Path.place (pathIn dir artifact)).Nodup)
    (run : outcome (artifacts.forM (writeArtifact dir)) before = (.ok (), after)) :
    ∀ artifact ∈ artifacts, after.tree.Holds (pathIn dir artifact) artifact.contents := by
  induction artifacts generalizing before with
  | nil => nofun
  | cons first rest ih =>
    rw [List.map_cons, List.nodup_cons] at apart
    obtain ⟨_, middle, wrote, run⟩ := bind_eq_ok.1 run
    -- all later files go to other places
    have later : Keeps (· ≠ Path.place (pathIn dir first)) (rest.forM (writeArtifact dir)) := by
      apply keeps_closed.forM
      intro other inside before after result run
      apply (writeArtifact_keeps dir other _ _ _ run).mono
      rintro place rfl same
      exact apart.1 (same ▸ List.mem_map_of_mem inside)
    have kept := later middle after (.ok ()) run
    intro artifact mem
    rcases List.mem_cons.1 mem with rfl | mem
    · exact (writeArtifact_holds wrote).keeps kept fun other => other rfl
    · exact ih apart.2 run artifact mem

end Artifacts

section Paths

variable {target : Target} {source : Source} {code : GeneratedCode}

theorem plain_file {dir file : String} (plain : Path.Plain dir) (slashless : '/' ∉ file.toList)
    (long : 2 < file.toList.length) : Path.Plain (dir ++ "/" ++ file) := by
  intro piece mem
  have split : (dir ++ "/" ++ file).toList = dir.toList ++ '/' :: file.toList := by simp
  rw [split, Text.splitOn_append_cons, Text.splitOn_eq_singleton slashless, List.mem_append,
    List.mem_singleton] at mem
  rcases mem with above | rfl
  · exact plain piece above
  · exact Path.solid_of_long long

theorem slashless_stem (target : Target) (name : String) :
    '/' ∉ Text.separatedChars target.wordSeparator name.toList := by
  intro mem
  rcases Text.mem_separatedChars mem with same | spelled
  · cases target <;> exact absurd same (by decide)
  · simp [Text.Spelled] at spelled

theorem plain_modelPath (target : Target) (name : String) : Path.Plain (target.modelPath name) := by
  have slashless := slashless_stem target name
  apply plain_file
  · cases target <;> decide
  · cases target <;>
      simpa [Target.modelStart, Target.modelEnd] using slashless
  · cases target <;> simp [Target.modelStart, Target.modelEnd]

theorem plain_of_generate (run : generate target {} source = .ok code) :
    ∀ artifact ∈ code.artifacts, Path.Plain artifact.path := by
  intro artifact mem
  obtain ⟨common, paths, sublist, -⟩ := paths_of_generate run
  have listed : artifact.path ∈ code.artifacts.map (·.path) := List.mem_map_of_mem mem
  rw [paths, List.mem_append] at listed
  rcases listed with model | common
  · obtain ⟨name, -, same⟩ := List.mem_map.1 model
    exact same ▸ plain_modelPath target name
  · have fixed : ∀ path ∈ target.commonPaths, Path.Plain path := by
      cases target <;> decide
    exact fixed _ (sublist.subset common)

def codeDir (out : String) (code : GeneratedCode) : String :=
  Path.join out code.target.name

theorem writeCode_holds {out : String} {before after : World} (run : generate target {} source = .ok code)
    (apart : (code.artifacts.map (·.path)).Nodup)
    (wrote : outcome (writeCode out code) before = (.ok (), after)) :
    ∀ artifact ∈ code.artifacts,
      after.tree.Holds (pathIn (codeDir out code) artifact) artifact.contents := by
  have plain := plain_of_generate run
  have places : (code.artifacts.map fun artifact =>
      Path.place (pathIn (codeDir out code) artifact)).Nodup := by
    rw [List.Nodup, List.pairwise_map] at apart ⊢
    apply apart.imp_of_mem
    intro artifact other mem mem' different same
    exact different (Path.place_join_inj (plain artifact mem) (plain other mem') same)
  obtain ⟨_, middle, files, wrote⟩ := bind_eq_ok.1 wrote
  intro artifact mem
  have printed : ∀ line, Keeps (fun _ => False) (FileSystem.printLine line : Action World Unit) :=
    fun line => Keeps.lift fun world => FileTree.Keeps.refl _
  have kept : FileTree.Keeps (fun _ => False) middle.tree after.tree :=
    Keeps.bind (keeps_closed.forM fun _ _ => printed _) (fun _ => printed _) _ _ _ wrote
  exact (writeAll_holds places files artifact mem).keeps kept id

/-- Each file has a path of its own exactly if the names of the models can be told apart by their words in
lower case. In that case every file that is written is there afterwards, as it was generated. -/
theorem files_of_generate (run : generate target {} source = .ok code) :
    ((code.artifacts.map (·.path)).Nodup ↔ FilesApart target source.api) ∧
      (FilesApart target source.api → ∀ (out : String) (before after : World),
        outcome (writeCode out code) before = (.ok (), after) → ∀ artifact ∈ code.artifacts,
          after.tree.readText (pathIn (codeDir out code) artifact) = .ok artifact.contents) := by
  refine ⟨paths_nodup_iff run, fun apart out before after wrote artifact mem => ?_⟩
  exact (writeCode_holds run ((paths_nodup_iff run).2 apart) wrote artifact mem).readText

end Paths

def records (names : List String) : OpenApi.Document where
  openapi := none
  info := none
  paths := []
  schemas := some (names.map fun name =>
    (name, { properties := some [("id", { typeNames := some (.single "string") })] }))
  tags := []
  source := none

/-- Both names are written `user_id` and `user-id`. -/
theorem userId_file_shared : ∃ source, Source.of (records ["UserID", "UserId"]) = .ok source ∧
    ∀ target : Target, ∃ code, generate target {} source = .ok code ∧
      ¬(code.artifacts.map (·.path)).Nodup := by
  have seen : (Source.of (records ["UserID", "UserId"])).toOption.map (fun source : Source =>
      (fullySupported source.api, source.api.unitNames)) = some (true, ["UserID", "UserId"]) := by
    rfl
  obtain ⟨source, lowered, seen⟩ := Lowering.exists_of_toOption_map seen
  obtain ⟨supported, names⟩ := Prod.mk.inj seen
  refine ⟨source, lowered, fun target => ?_⟩
  obtain ⟨code, run⟩ := exists_generated target {} supported
  refine ⟨code, run, fun distinct => ?_⟩
  have apart := ((paths_nodup_iff run).1 distinct).spelled
  rw [names] at apart
  exact absurd apart (by decide)

def isWritten (target : Target) (source : Source) : Bool :=
  match generate target {} source with
  | .ok code => (outcome (writeCode "out" code) (worldOf [])).1.toOption.isSome
  | .error _ => false

theorem exists_written {target : Target} {source : Source} (written : isWritten target source = true) :
    ∃ code after, generate target {} source = .ok code ∧
      outcome (writeCode "out" code) (worldOf []) = (.ok (), after) := by
  unfold isWritten at written
  cases run : generate target {} source with
  | error error => simp [run] at written
  | ok code =>
    rw [run] at written
    dsimp only at written
    rcases wrote : outcome (writeCode "out" code) (worldOf []) with ⟨result, after⟩
    rw [wrote] at written
    cases result with
    | error error => cases written
    | ok done => exact ⟨code, after, rfl, wrote⟩

theorem userTeam_written : ∃ source code after, Source.of (records ["UserID", "Team"]) = .ok source ∧
    generate .webClient {} source = .ok code ∧ (code.artifacts.map (·.path)).Nodup ∧
      outcome (writeCode "out" code) (worldOf []) = (.ok (), after) ∧ ∀ artifact ∈ code.artifacts,
        after.tree.readText (pathIn (codeDir "out" code) artifact) = .ok artifact.contents := by
  have seen : (Source.of (records ["UserID", "Team"])).toOption.map (fun source : Source =>
      (source.api.unitNames, isWritten .webClient source)) = some (["UserID", "Team"], true) := by
    decide +kernel
  obtain ⟨source, lowered, seen⟩ := Lowering.exists_of_toOption_map seen
  obtain ⟨names, written⟩ := Prod.mk.inj seen
  obtain ⟨code, after, run, wrote⟩ := exists_written written
  have apart : FilesApart .webClient source.api := by
    refine ⟨?_, fun _ => ?_⟩
    · rw [names]
      decide
    · rw [names]
      decide
  have files := files_of_generate run
  exact ⟨source, code, after, lowered, run, files.1.2 apart, wrote,
    files.2 apart "out" _ _ wrote⟩

end OpenApiCodegen.Command
