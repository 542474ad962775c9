import OpenApiCodegen.Command.Generate

namespace OpenApiCodegen.Command

abbrev Action (σ α : Type) : Type :=
  ExceptT CommandError (StateM σ) α

/-- What an action results in, and the state that it leaves behind. -/
def Action.outcome {σ α : Type} (work : Action σ α) (state : σ) : Except CommandError α × σ :=
  work state

namespace Action

variable {σ α β : Type} {before after : σ} {error : CommandError}

theorem outcome_bind (work : Action σ α) (next : α → Action σ β) (state : σ) :
    outcome (work >>= next) state = match outcome work state with
      | (.ok a, middle) => outcome (next a) middle
      | (.error error, middle) => (.error error, middle) := by
  have unfolded : outcome (work >>= next) state =
      (match (outcome work state).1 with
        | .ok a => outcome (next a) (outcome work state).2
        | .error error => (.error error, (outcome work state).2)) := by
    show (ExceptT.bindCont next (outcome work state).1 : StateM σ _) (outcome work state).2 = _
    cases (outcome work state).1 <;> rfl
  rw [unfolded]
  rcases outcome work state with ⟨_ | a, middle⟩ <;> rfl

theorem bind_eq_ok {work : Action σ α} {next : α → Action σ β} {b : β} :
    outcome (work >>= next) before = (.ok b, after) ↔
      ∃ a middle, outcome work before = (.ok a, middle) ∧ outcome (next a) middle = (.ok b, after) := by
  rw [outcome_bind]
  rcases outcome work before with ⟨_ | a, middle⟩ <;> simp [and_assoc]

theorem bind_eq_error {work : Action σ α} {next : α → Action σ β} :
    outcome (work >>= next) before = (.error error, after) ↔
      outcome work before = (.error error, after) ∨ ∃ a middle, outcome work before = (.ok a, middle) ∧
        outcome (next a) middle = (.error error, after) := by
  rw [outcome_bind]
  rcases outcome work before with ⟨_ | a, middle⟩ <;> simp [and_assoc]

/-- Properties of actions that hold of an action if they hold of its steps. -/
structure Closed (holds : ∀ {α : Type}, Action σ α → Prop) : Prop where
  pure : ∀ {α : Type} (a : α), holds (pure a : Action σ α)
  bind : ∀ {α β : Type} {work : Action σ α} {next : α → Action σ β},
    holds work → (∀ a, holds (next a)) → holds (work >>= next)

variable {holds : ∀ {α : Type}, Action σ α → Prop}

theorem Closed.forM (closed : Closed holds) {step : α → Action σ Unit} {items : List α}
    (each : ∀ item ∈ items, holds (step item)) : holds (items.forM step) := by
  induction items with
  | nil => exact closed.pure ()
  | cons item rest ih =>
    apply closed.bind
    · exact each item List.mem_cons_self
    · intro _
      exact ih fun other mem => each other (List.mem_cons_of_mem _ mem)

theorem Closed.createDirectories [FileSystem (StateM σ)] (closed : Closed holds)
    (created : ∀ path, holds (FileSystem.createDirectory path : Action σ (Except FileError Unit)))
    (asked : ∀ path, holds (FileSystem.isDirectory path : Action σ Bool)) (paths : List String) :
    holds (createDirectories paths : Action σ (Except FileError Unit)) := by
  have ensured : ∀ path result,
      holds (ensureDirectory path result : Action σ (Except FileError Unit)) := by
    intro path result
    unfold ensureDirectory
    split
    · apply closed.bind (asked path)
      intro found
      cases found <;> exact closed.pure _
    · exact closed.pure _
  induction paths with
  | nil => exact closed.pure _
  | cons path above ih =>
    apply closed.bind (created path)
    intro result
    split
    · apply closed.bind ih
      intro made
      split
      · exact closed.bind (created path) (ensured path)
      · exact closed.pure _
    · exact ensured path _

theorem Closed.writeArtifact [FileSystem (StateM σ)] (closed : Closed holds) {dir : String}
    {artifact : Output.Artifact}
    (made : holds (Command.createDirectories (Path.parents (Path.join dir artifact.path)) :
      Action σ (Except FileError Unit)))
    (wrote : holds (FileSystem.writeText (Path.join dir artifact.path) artifact.contents :
      Action σ (Except FileError Unit)))
    (uncreated : ∀ path error, holds (throw (.uncreatable path error) : Action σ Unit))
    (unwritten : ∀ path error, holds (throw (.unwritable path error) : Action σ Unit)) :
    holds (Command.writeArtifact dir artifact : Action σ Unit) := by
  apply closed.bind made
  rintro (error | ⟨⟩)
  · apply closed.bind (uncreated _ error)
    intro _
    apply closed.bind wrote
    rintro (error | ⟨⟩)
    · exact unwritten _ error
    · exact closed.pure ()
  · apply closed.bind wrote
    rintro (error | ⟨⟩)
    · exact unwritten _ error
    · exact closed.pure ()

end Action

end OpenApiCodegen.Command
