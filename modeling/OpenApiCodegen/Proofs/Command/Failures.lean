import OpenApiCodegen.Command.FileTree
import OpenApiCodegen.Proofs.Command.Runs
import OpenApiCodegen.Proofs.Generation.Units

namespace OpenApiCodegen

theorem generate_eq_error_iff {target : Target} {config : Config} {source : Source}
    {error : GenerationError} :
    generate target config source = .error error ↔
      source.api.models.findSome? unsupported? = some error := by
  unfold generate
  dsimp only
  cases source.api.models.findSome? unsupported? <;> simp

theorem unsupported?_eq_some {model : Api.Model} {error : GenerationError} :
    unsupported? model = some error ↔
      ∃ reason, model.shape = .unsupported reason ∧ error = .unsupportedShape model.name reason := by
  unfold unsupported?
  cases model.shape <;> simp [eq_comm]

/-- One target stops exactly if all do, for the same reason: some model has no shape that can be written. -/
def StopsAlike (source : Source) : Prop :=
  ∀ target other config config' error, generate target config source = .error error →
    generate other config' source = .error error ∧ ∃ model ∈ source.api.models, ∃ reason,
      model.shape = .unsupported reason ∧ error = .unsupportedShape model.name reason

theorem stopsAlike (source : Source) : StopsAlike source := by
  intro target other config config' error run
  have found := generate_eq_error_iff.1 run
  refine ⟨generate_eq_error_iff.2 found, ?_⟩
  obtain ⟨model, mem, reason⟩ := List.exists_of_findSome?_eq_some found
  exact ⟨model, mem, unsupported?_eq_some.1 reason⟩

namespace Command

open Output (Artifact)

/-- The error has to do with what is read or generated, not with what is written. -/
def CommandError.precedesWriting : CommandError → Bool
  | unreadable .. => true
  | generation _ => true
  | uncreatable .. => false
  | unwritable .. => false

variable {σ α β : Type}

namespace Action

def Spared (work : Action σ α) : Prop :=
  ∀ (before after : σ) (error : CommandError), outcome work before = (.error error, after) →
    error.precedesWriting = false

def Idle (work : Action σ α) : Prop :=
  ∀ (before after : σ) (result : Except CommandError α), outcome work before = (result, after) →
    after = before

def Harmless (work : Action σ α) : Prop :=
  ∀ (before after : σ) (error : CommandError), outcome work before = (.error error, after) →
    error.precedesWriting = true → after = before

theorem Spared.pure (a : α) : (pure a : Action σ α).Spared := by
  intro before after error run
  cases run

theorem Spared.lift (work : StateM σ α) : Spared (ExceptT.lift work : Action σ α) := by
  intro before after error run
  cases run

theorem Spared.throw {error : CommandError} (writing : error.precedesWriting = false) :
    Spared (throw error : Action σ α) := by
  intro before after other run
  cases run
  exact writing

theorem Spared.bind {work : Action σ α} {next : α → Action σ β} (first : work.Spared)
    (rest : ∀ a, (next a).Spared) : (work >>= next).Spared := by
  intro before after error run
  rcases bind_eq_error.1 run with stopped | ⟨a, middle, -, stopped⟩
  · exact first _ _ _ stopped
  · exact rest a _ _ _ stopped

theorem spared_closed : Closed (@Spared σ) :=
  ⟨Spared.pure, Spared.bind⟩

theorem Spared.harmless {work : Action σ α} (spared : work.Spared) : work.Harmless := by
  intro before after error run precedes
  rw [spared _ _ _ run] at precedes
  cases precedes

theorem Idle.pure (a : α) : (pure a : Action σ α).Idle := by
  intro before after result run
  cases run
  rfl

theorem Idle.throw (error : CommandError) : Idle (throw error : Action σ α) := by
  intro before after result run
  cases run
  rfl

theorem Idle.bind {work : Action σ α} {next : α → Action σ β} (first : work.Idle)
    (rest : ∀ a, (next a).Idle) : (work >>= next).Idle := by
  intro before after result run
  cases result with
  | ok b =>
    obtain ⟨a, middle, went, finished⟩ := bind_eq_ok.1 run
    rw [rest a _ _ _ finished, first _ _ _ went]
  | error error =>
    rcases bind_eq_error.1 run with stopped | ⟨a, middle, went, stopped⟩
    · exact first _ _ _ stopped
    · rw [rest a _ _ _ stopped, first _ _ _ went]

theorem Idle.bind_harmless {work : Action σ α} {next : α → Action σ β} (first : work.Idle)
    (rest : ∀ a, (next a).Harmless) : (work >>= next).Harmless := by
  intro before after error run precedes
  rcases bind_eq_error.1 run with stopped | ⟨a, middle, went, stopped⟩
  · exact first _ _ _ stopped
  · rw [rest a _ _ _ stopped precedes, first _ _ _ went]

end Action

open Command.Action

section Writing

variable [FileSystem (StateM σ)]

theorem createDirectories_spared (paths : List String) :
    Spared (createDirectories paths : Action σ (Except FileError Unit)) :=
  spared_closed.createDirectories (fun _ => Spared.lift _) (fun _ => Spared.lift _) paths

theorem writeArtifact_spared (dir : String) (artifact : Artifact) :
    Spared (writeArtifact dir artifact : Action σ Unit) := by
  apply spared_closed.writeArtifact
  · exact createDirectories_spared _
  · exact Spared.lift _
  · exact fun path error => Spared.throw rfl
  · exact fun path error => Spared.throw rfl

theorem writeCode_spared (out : String) (code : GeneratedCode) :
    Spared (writeCode out code : Action σ Unit) := by
  apply Spared.bind
  · exact spared_closed.forM fun artifact _ => writeArtifact_spared _ artifact
  · intro _
    apply Spared.bind
    · exact spared_closed.forM fun exclusion _ => Spared.lift _
    · intro _
      exact Spared.lift _

end Writing

theorem accept_idle (result : Except GenerationError α) : Idle (accept result : Action σ α) := by
  cases result with
  | ok a => exact Idle.pure a
  | error error => exact Idle.throw _

def ReadsOnly (σ : Type) [FileSystem (StateM σ)] : Prop :=
  ∀ (path : String) (state : σ),
    ((FileSystem.readText path : StateM σ (Except FileError String)) state).2 = state

section Generating

variable [FileSystem (StateM σ)]

theorem readFile_idle (reads : ReadsOnly σ) (path : String) :
    Idle (readFile path : Action σ String) := by
  apply Idle.bind
  · intro before after result run
    cases run
    exact reads path before
  · rintro (error | text)
    · exact Idle.throw _
    · exact Idle.pure text

theorem writeAll_harmless (out : String) (config : Config) (source : Source) (targets : List Target) :
    Harmless ((targets.map fun target => generate target config source).forM fun result => do
      writeCode out (← accept result) : Action σ Unit) := by
  cases found : source.api.models.findSome? unsupported? with
  | some error =>
    cases targets with
    | nil => exact Spared.harmless (Spared.pure ())
    | cons target rest =>
      have stops : generate target config source = .error error := generate_eq_error_iff.2 found
      have first : Harmless (do writeCode out (← accept (.error error)) : Action σ Unit) := by
        apply Idle.bind_harmless (accept_idle _)
        intro code
        exact Spared.harmless (writeCode_spared out code)
      -- the later targets are not reached
      rw [List.map_cons, stops]
      intro before after reason run precedes
      rcases bind_eq_error.1 run with stopped | ⟨_, middle, went, -⟩
      · exact first _ _ _ stopped precedes
      · cases went
  | none =>
    apply Spared.harmless
    apply spared_closed.forM
    intro result mem
    obtain ⟨target, -, rfl⟩ := List.mem_map.1 mem
    cases run : generate target config source with
    | error error =>
      rw [generate_eq_error_iff.1 run] at found
      cases found
    | ok code => exact Spared.bind (Spared.pure code) (writeCode_spared out)

theorem runGenerate_harmless (reads : ReadsOnly σ) (options : GenerateOptions) :
    Harmless (runGenerate options : Action σ Unit) := by
  have generated : ∀ config : Config, Harmless (do
      let source ← accept (sourceOf (← readFile options.input))
      (options.targets.map fun target => generate target config source).forM fun result => do
        writeCode options.out (← accept result) : Action σ Unit) := by
    intro config
    apply Idle.bind_harmless (readFile_idle reads options.input)
    intro text
    apply Idle.bind_harmless (accept_idle (sourceOf text))
    intro source
    exact writeAll_harmless options.out config source options.targets
  unfold runGenerate
  split
  · rename_i path given
    apply Idle.bind_harmless (readFile_idle reads path)
    intro text
    exact Idle.bind_harmless (accept_idle (configOf text)) generated
  · exact Idle.bind_harmless (Idle.pure _) generated

/-- All targets stop for the same reason, and a command that stops before it writes, for whatever reason,
has left everything as it was. -/
theorem unchanged_of_failure (reads : ReadsOnly σ) : (∀ source, StopsAlike source) ∧
    ∀ (options : GenerateOptions) (before after : σ) (error : CommandError),
      outcome (runGenerate options) before = (.error error, after) → error.precedesWriting = true →
        after = before :=
  ⟨stopsAlike, runGenerate_harmless reads⟩

end Generating

theorem readsOnly_world : ReadsOnly World :=
  fun _ _ => rfl

def generationError? : Except CommandError Unit → Option GenerationError
  | .error (.generation error) => some error
  | _ => none

theorem eq_of_generationError? {result : Except CommandError Unit} {error : GenerationError}
    (seen : generationError? result = some error) : result = .error (.generation error) := by
  unfold generationError? at seen
  split at seen <;> cases seen
  rfl

/-- A text or a number, without anything to tell them apart. -/
def ambiguous : World :=
  worldOf [("api.json", ("\x7b\"components\": \x7b\"schemas\": \x7b\"Id\": \x7b\"oneOf\": " ++
    "[\x7b\"type\": \"string\"\x7d, \x7b\"type\": \"integer\"\x7d]\x7d\x7d\x7d\x7d").toUTF8)]

theorem ambiguous_unchanged : ∃ after, ReadsOnly World ∧
    outcome (runGenerate ⟨"api.json", Target.all, "out", none⟩) ambiguous =
        (.error (.generation
          (.unsupportedShape "Id" "union of 2 members without a discriminator")), after) ∧
      after = ambiguous := by
  have seen : generationError?
      (outcome (runGenerate ⟨"api.json", Target.all, "out", none⟩) ambiguous).1 =
        some (.unsupportedShape "Id" "union of 2 members without a discriminator") := by
    decide +kernel
  rcases run : outcome (runGenerate ⟨"api.json", Target.all, "out", none⟩) ambiguous with ⟨result, after⟩
  rw [run] at seen
  obtain rfl : result = _ := eq_of_generationError? seen
  exact ⟨after, readsOnly_world, rfl, (unchanged_of_failure readsOnly_world).2 _ _ _ _ run rfl⟩

end Command

end OpenApiCodegen
