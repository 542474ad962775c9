import OpenApiCodegen.Lowering.Operations
import OpenApiCodegen.Proofs.Lowering.Runs

namespace OpenApiCodegen.Lowering

open Api
open OpenApi (Schema SchemaKind componentName)

namespace Build

variable {α β : Type}

def work (build : Build α) : Lower α := do
  match ← build.run with
  | .ok result => pure result
  | .error _ => failure

def Sound (build : Build α) : Prop :=
  ∀ draft error draft', build draft ≠ some (.error error, draft')

@[simp] theorem work_pure (a : α) : (pure a : Build α).work = pure a :=
  rfl

@[simp] theorem work_liftM (step : Lower α) : (liftM step : Build α).work = step := by
  funext draft
  change ((step draft).bind fun p => some (Except.ok p.1, p.2)).bind _ = step draft
  cases step draft <;> rfl

@[simp] theorem work_get : (get : Build Draft).work = get :=
  rfl

@[simp] theorem work_bind (build : Build α) (next : α → Build β) :
    (build >>= next).work = build.work >>= fun a => (next a).work := by
  funext draft
  change ((build draft).bind _).bind _ = ((build draft).bind _).bind _
  rcases build draft with _ | ⟨_ | a, middle⟩ <;> rfl

@[simp] theorem work_map (f : α → β) (build : Build α) : (f <$> build).work = f <$> build.work := by
  rw [map_eq_pure_bind, map_eq_pure_bind, work_bind]
  rfl

theorem work_eq_some {build : Build α} {draft draft' : Draft} {a : α} :
    build.work draft = some (a, draft') ↔ build draft = some (.ok a, draft') := by
  change (build draft).bind _ = _ ↔ _
  rcases build draft with _ | ⟨_ | b, middle⟩
  · simp
  · simp [failure, StateT.failure]
  · have done : (pure b : Lower α) middle = some (b, middle) := rfl
    simp [done]

theorem work_foldlM (step : β → α → Build β) (items : List α) (start : β) :
    (items.foldlM step start).work = items.foldlM (fun state item => (step state item).work) start := by
  induction items generalizing start with
  | nil => rfl
  | cons item rest ih => simp [ih]

theorem work_forM (step : α → Build Unit) (items : List α) :
    (items.forM step).work = items.forM fun item => (step item).work := by
  induction items with
  | nil => rfl
  | cons item rest ih =>
    change (step item >>= fun _ => rest.forM step).work = _
    rw [work_bind, ih]
    rfl

theorem sound_pure (a : α) : (pure a : Build α).Sound := by
  intro draft error draft' fails
  cases fails

theorem sound_liftM (step : Lower α) : (liftM step : Build α).Sound := by
  intro draft error draft' fails
  change ((step draft).bind fun p => some (Except.ok p.1, p.2)) = _ at fails
  rcases run : step draft with _ | ⟨a, middle⟩ <;> rw [run] at fails <;> cases fails

theorem Sound.bind {build : Build α} {next : α → Build β} (first : build.Sound)
    (later : ∀ a, (next a).Sound) : (build >>= next).Sound := by
  intro draft error draft' fails
  change ((build draft).bind _) = _ at fails
  rcases run : build draft with _ | ⟨error | a, middle⟩ <;> rw [run] at fails
  · cases fails
  · exact first _ _ _ run
  · exact later a _ _ _ fails

theorem sound_foldlM {step : β → α → Build β} (each : ∀ state item, (step state item).Sound)
    (items : List α) (start : β) : (items.foldlM step start).Sound := by
  induction items generalizing start with
  | nil => exact sound_pure start
  | cons item rest ih => exact (each start item).bind ih

theorem sound_forM {step : α → Build Unit} (each : ∀ item, (step item).Sound) (items : List α) :
    (items.forM step).Sound := by
  induction items with
  | nil => exact sound_pure ()
  | cons item rest ih => exact (each item).bind fun _ => ih

theorem Sound.run_eq {build : Build α} (sound : build.Sound) : build.run = Except.ok <$> build.work := by
  funext draft
  change build draft = ((build draft).bind _).bind _
  rcases run : build draft with _ | ⟨error | a, middle⟩
  · rfl
  · exact absurd run (sound _ _ _)
  · rfl

theorem Sound.building_eq {build : Build α} (sound : build.Sound) :
    building build = ending build.work := by
  funext draft
  have lifted : (building build) draft =
      (ending (Except.ok <$> build.work) draft).bind fun result =>
        match result.1 with
        | .ok a => .ok (a, result.2)
        | .error error => .error error := by
    rw [← sound.run_eq]
    change Except.bind (ending build.run draft) _ = _
    congr 1
    funext ⟨result, middle⟩
    cases result <;> rfl
  have mapped : (Except.ok <$> build.work : Lower (Except GenerationError α)) draft =
      (build.work draft).bind fun p => some (.ok p.1, p.2) := rfl
  rw [lifted, ending, ending, mapped]
  cases build.work draft <;> rfl

theorem Sound.pushSynthesized_eq {build : Build Model} (sound : build.Sound) (name : String) :
    pushSynthesized name build = (do
      pushModel (← build.work)
      pure (.model name)) := by
  simp [pushSynthesized, sound.run_eq]

end Build

open Build

variable {components : List (String × Schema)} {reader : TypeReader} {scope : Scope}
  {name owner key : String} {schema : Schema} {origin : Origin} {n depth : Nat}

theorem work_lowerProperties :
    (lowerProperties components reader owner schema).work =
      (schema.properties.getD []).mapM
        (lowerProperty components reader owner (schema.required.getD [])) :=
  work_liftM _

theorem work_recordModel :
    (recordModel components reader name schema origin).work = (do
      let properties ← (lowerProperties components reader name schema).work
      let additional ← additionalType reader name schema
      pure { newModel name schema .record origin with properties, additional }) := by
  simp [recordModel]

theorem work_unionModel :
    (unionModel components reader name schema origin).work = (do
      let properties ← (lowerProperties components reader name schema).work
      pure
        { newModel name schema
            (.union ⟨(schema.discriminator.map (·.property)).getD "", variantMapping schema⟩) origin with
          properties, members := variantNames schema }) := by
  simp [unionModel]

theorem sound_lowerProperties : (lowerProperties components reader owner schema).Sound :=
  sound_liftM _

theorem sound_recordModel : (recordModel components reader name schema origin).Sound :=
  sound_lowerProperties.bind fun _ => (sound_liftM _).bind fun _ => sound_pure _

theorem sound_unionModel : (unionModel components reader name schema origin).Sound :=
  sound_lowerProperties.bind fun _ => sound_pure _

theorem sound_compositionModel_succ
    (members : ∀ key depth, (memberProperties n scope key depth).Sound) :
    (compositionModel (n + 1) scope name schema origin depth).Sound := by
  rw [compositionModel]
  refine (sound_foldlM (fun merge member => ?_) _ _).bind fun merge =>
    sound_lowerProperties.bind fun own => (sound_liftM _).bind fun additional => sound_pure _
  split
  · exact sound_pure _
  · split
    · refine (members _ _).bind fun found => ?_
      cases found <;> exact sound_pure _
    · exact (sound_liftM _).bind fun memberName => sound_recordModel.bind fun model =>
        (sound_liftM _).bind fun _ => sound_pure _

theorem sound_memberProperties_succ
    (members : ∀ key depth, (memberProperties n scope key depth).Sound)
    (lowered : ∀ key target depth, (lowerComponent n scope key target depth).Sound) :
    (memberProperties (n + 1) scope key depth).Sound := by
  rw [memberProperties]
  split
  · exact sound_pure _
  · cases scope.components.lookup key with
    | none => exact sound_pure _
    | some target =>
      dsimp only
      split
      · cases aliasTarget? target with
        | none => exact sound_pure _
        | some inner => exact members _ _
      · exact (lowered _ _ _).bind fun _ => (sound_liftM _).bind fun _ => sound_pure _

theorem sound_lowerComponent_succ
    (compositions : ∀ scope name schema origin depth,
      (compositionModel n scope name schema origin depth).Sound) :
    (lowerComponent (n + 1) scope key schema depth).Sound := by
  rw [lowerComponent]
  refine (sound_liftM _).bind fun draft => ?_
  split
  · exact sound_pure _
  · cases schema.kind with
    | typeAlias => exact sound_pure _
    | enumeration => exact sound_liftM _
    | union => exact sound_unionModel.bind fun _ => sound_liftM _
    | composition => exact (compositions _ _ _ _ _).bind fun _ => sound_liftM _
    | record => exact sound_recordModel.bind fun _ => sound_liftM _
    | unsupported reason => exact sound_liftM _

/-- Types absorb the faults of the models that are made for them, so only compositions, their members
and components call each other for good or bad. -/
theorem sound_builders (n : Nat) :
    (∀ scope name schema origin depth, (compositionModel n scope name schema origin depth).Sound) ∧
      (∀ scope key depth, (memberProperties n scope key depth).Sound) ∧
        ∀ scope key schema depth, (lowerComponent n scope key schema depth).Sound := by
  induction n with
  | zero => exact ⟨fun _ _ _ _ _ => sound_liftM _, fun _ _ _ => sound_liftM _, fun _ _ _ _ => sound_liftM _⟩
  | succ n ih =>
    obtain ⟨compositions, members, lowered⟩ := ih
    exact ⟨fun _ _ _ _ _ => sound_compositionModel_succ (members _),
      fun _ _ _ => sound_memberProperties_succ (members _) (lowered _),
      fun _ _ _ _ => sound_lowerComponent_succ compositions⟩

theorem sound_lowerComponents : (lowerComponents n scope).Sound :=
  sound_forM (fun _ => (sound_builders n).2.2 _ _ _ _) _

theorem work_lowerComponents :
    (lowerComponents n scope).work =
      scope.components.forM fun entry => (lowerComponent n scope entry.1 entry.2 0).work :=
  work_forM _ _

theorem lowerAll_eq {doc : OpenApi.Document} :
    lowerAll n doc = (do
      ending (lowerComponents n ⟨doc.components, []⟩).work
      lowerOperations n ⟨doc.components, []⟩ [] (declaredOperations doc)) := by
  rw [lowerAll, sound_lowerComponents.building_eq]

theorem sound_formProperties : (formProperties n scope schema owner depth).Sound := by
  induction n generalizing schema depth with
  | zero => exact sound_liftM _
  | succ n ih =>
    rw [formProperties]
    cases schema.ref with
    | some ref => exact ((sound_builders n).2.1 _ _ _).bind fun _ => sound_pure _
    | none =>
      exact (sound_foldlM (fun merged member => ih.bind fun _ => sound_pure _) _ _).bind fun _ =>
        sound_lowerProperties.bind fun _ => sound_pure _

theorem sound_lowerBody {body : OpenApi.RequestBody} : (lowerBody n scope owner body).Sound := by
  unfold lowerBody
  dsimp only
  split
  · exact sound_formProperties.bind fun _ => sound_pure _
  · split
    · exact (sound_liftM _).bind fun _ => sound_pure _
    · exact sound_pure _

end OpenApiCodegen.Lowering
