import OpenApiCodegen.Proofs.Api.Envelopes
import OpenApiCodegen.Proofs.Generation.Units

namespace OpenApiCodegen

namespace Api

variable {api : Api} {name : String} {operation : Operation} {model : Model} {applied : Instance}

def HasUnit (api : Api) (name : String) : Prop :=
  ∃ entry ∈ api.unitModels, api.modelId? name = some entry.1 ∧ entry.2.name = name

/-- The models that what an operation answers and the types of its parameters mention. -/
def Operation.models (api : Api) (operation : Operation) : List String :=
  (returnType api operation).models ++ operation.parameters.flatMap (·.type.models)

theorem hasUnit_iff {id : Nat} (last : api.modelId? name = some id)
    (at_ : api.models[id]? = some model) :
    api.HasUnit name ↔ isUnionOnly api id = false ∧ model.origin ≠ .composition := by
  constructor
  · rintro ⟨⟨id', found⟩, unit, last', -⟩
    obtain rfl := Option.some_inj.1 (last.symm.trans last')
    obtain ⟨at', used, origin⟩ := mem_unitModels.1 unit
    obtain rfl := Option.some_inj.1 (at_.symm.trans at')
    exact ⟨used, origin⟩
  · rintro ⟨used, origin⟩
    exact ⟨(id, model), mem_unitModels.2 ⟨at_, used, origin⟩, last, name_of_modelId? last at_⟩

theorem Sound.hasUnit_iff (sound : api.Sound) (exposes : api.Exposes name) :
    api.HasUnit name ↔ ∀ id ∈ api.modelId? name, isUnionOnly api id = false := by
  obtain ⟨id, model, last, at_, -, unit⟩ := sound.exists_unit exposes
  rw [Api.hasUnit_iff last at_, last]
  constructor
  · rintro ⟨used, -⟩ _ ⟨⟩
    exact used
  · intro used
    have used := used id rfl
    exact ⟨used, (mem_unitModels.1 (unit used)).2.2⟩

theorem not_unionOnly_of_mentioned (mentioned : name ∈ mentioned api) :
    ∀ id ∈ api.modelId? name, isUnionOnly api id = false := by
  intro id last
  obtain ⟨model, at_, rfl⟩ := modelId?_eq_some last
  rw [Bool.eq_false_iff]
  intro only
  exact ((isUnionOnly_iff at_).1 only).2.2 mentioned

theorem mem_mentioned_of_operation (mem : operation ∈ api.operations)
    (mentions : name ∈ operation.mentions) : name ∈ mentioned api :=
  List.mem_append_right _ (List.mem_flatMap.2 ⟨operation, mem, mentions⟩)

theorem mem_mentioned_of_member (mem : model ∈ api.models) (plain : model.isUnion = false)
    (member : name ∈ model.members) : name ∈ mentioned api := by
  refine List.mem_append_left _ (List.mem_flatMap.2 ⟨model, mem, ?_⟩)
  simp [Model.mentions, plain, member]

/-- An envelope that a model applies is more than a part of a composition, and if it is applied by a
union, none of the members that the instance mentions is for the union only. -/
def Placed (api : Api) (model : Model) (applied : Instance) : Prop :=
  (∀ envelope ∈ api.models[applied.id]?, envelope.origin ≠ .composition) ∧
    (model.isUnion = true → ∀ name ∈ model.members, name ∈ (ReturnType.envelope applied).models →
      ∀ id ∈ api.modelId? name, isUnionOnly api id = false)

def AnswersPlaced (api : Api) (operation : Operation) : Prop :=
  ∀ answer ∈ answered? api operation, api.Placed answer.1 answer.2

instance (api : Api) (operation : Operation) : Decidable (AnswersPlaced api operation) := by
  unfold AnswersPlaced Placed
  infer_instance

theorem Placed.member (placed : api.Placed model applied) (mem : model ∈ api.models)
    (member : name ∈ model.members) (mentions : name ∈ (ReturnType.envelope applied).models) :
    ∀ id ∈ api.modelId? name, isUnionOnly api id = false := by
  by_cases isUnion : model.isUnion = true
  · exact placed.2 isUnion name member mentions
  · exact not_unionOnly_of_mentioned
      (mem_mentioned_of_member mem (Bool.eq_false_iff.2 isUnion) member)

theorem envelope_hasUnit_iff (sound : api.Sound) (mem : model ∈ api.models)
    (applies : instance? api model = some applied) :
    (∀ name ∈ (ReturnType.envelope applied).models, api.HasUnit name) ↔ api.Placed model applied := by
  obtain ⟨envelope, found, named, -⟩ := instance?_eq_some.1 applies
  obtain ⟨at_, -, last, listed⟩ := envelopeOf?_eq_some found
  rw [← named] at last listed
  constructor
  · intro all
    constructor
    · intro other at'
      obtain rfl := Option.some_inj.1 (at_.symm.trans at')
      exact ((hasUnit_iff last at_).1 (all _ List.mem_cons_self)).2
    · intro _ name _ mentions id last
      obtain ⟨model, at_, -⟩ := modelId?_eq_some last
      exact ((hasUnit_iff last at_).1 (all name mentions)).1
  · intro placed name mentions
    rcases List.mem_cons.1 mentions with rfl | argued
    · exact (hasUnit_iff last at_).2 ⟨placed.member mem listed mentions _ last, placed.1 _ at_⟩
    · obtain ⟨argument, given, inside⟩ := List.mem_flatMap.1 argued
      obtain ⟨sibling, known, member, typed⟩ := argument_typed applies given
      rw [sound.hasUnit_iff (sound.types sibling known argument typed name inside)]
      by_cases self : name = sibling.name
      · exact placed.member mem (self ▸ member) mentions
      · exact not_unionOnly_of_mentioned (mem_mentioned_of_type known typed inside self)

theorem type_hasUnit (sound : api.Sound) (mem : operation ∈ api.operations) {type : DataType}
    (exposes : ∀ name ∈ type.models, api.Exposes name)
    (mentions : ∀ name ∈ type.models, name ∈ operation.mentions) :
    ∀ name ∈ type.models, api.HasUnit name := by
  intro name inside
  rw [sound.hasUnit_iff (exposes name inside)]
  exact not_unionOnly_of_mentioned (mem_mentioned_of_operation mem (mentions name inside))

theorem parameters_haveUnits (sound : api.Sound) (mem : operation ∈ api.operations)
    (typed : Lowering.OperationTyped (fun type => ∀ name ∈ type.models, api.Exposes name) operation) :
    ∀ name ∈ operation.parameters.flatMap (·.type.models), api.HasUnit name := by
  intro name inside
  obtain ⟨parameter, listed, inside⟩ := List.mem_flatMap.1 inside
  refine type_hasUnit sound mem (typed.1 parameter listed) (fun name inside => ?_) name inside
  exact List.mem_append_left _ (List.mem_flatMap.2 ⟨parameter, listed, inside⟩)

theorem body_hasUnits (sound : api.Sound) (mem : operation ∈ api.operations)
    (typed : Lowering.OperationTyped (fun type => ∀ name ∈ type.models, api.Exposes name) operation)
    {body : DataType} (success : operation.successBody? = some body) :
    ∀ name ∈ body.models, api.HasUnit name := by
  obtain ⟨response, listed, carries⟩ := successBody_mem success
  refine type_hasUnit sound mem (typed.2 response listed body carries) fun name inside => ?_
  refine List.mem_append_right _ (List.mem_flatMap.2 ⟨response, listed, ?_⟩)
  rw [carries]
  exact inside

theorem operation_hasUnits_iff (sound : api.Sound) (mem : operation ∈ api.operations)
    (typed : Lowering.OperationTyped (fun type => ∀ name ∈ type.models, api.Exposes name) operation) :
    (∀ name ∈ operation.models api, api.HasUnit name) ↔ api.AnswersPlaced operation := by
  have parameters := parameters_haveUnits sound mem typed
  rw [Operation.models, List.forall_mem_append, and_iff_left parameters, returnType_eq,
    AnswersPlaced]
  cases answered : answered? api operation with
  | some answer =>
    obtain ⟨model, applied⟩ := answer
    obtain ⟨known, applies⟩ := answered?_eq_some answered
    simpa using envelope_hasUnit_iff sound known applies
  | none =>
    cases success : operation.successBody? with
    | none => simp [ReturnType.models]
    | some body => simpa [ReturnType.models] using body_hasUnits sound mem typed success

end Api

section Sources

variable {doc : OpenApi.Document} {source : Source} {target : Target} {config : Config}
  {code : GeneratedCode} {operation : Api.Operation}

def GeneratedCode.Emits (code : GeneratedCode) (api : Api) (name : String) : Prop :=
  ∃ entry ∈ code.models, api.modelId? name = some entry.1 ∧ entry.2.name = name

theorem Generated.emits_iff (generated : Generated target config source code) {name : String} :
    code.Emits source.api name ↔ source.api.HasUnit name := by
  constructor
  · rintro ⟨⟨id, unit⟩, mem, last, named⟩
    obtain ⟨model, inside, rfl⟩ := generated.mem_models.1 mem
    exact ⟨(id, model), inside, last, by rw [← named, name_modelUnit]⟩
  · rintro ⟨⟨id, model⟩, mem, last, named⟩
    exact ⟨(id, _), generated.mem_models.2 ⟨model, mem, rfl⟩, last, by rw [name_modelUnit, named]⟩

/-- What an operation mentions is generated exactly if the envelope that it answers is placed. -/
theorem operationModels_emitted_iff (lowered : Source.of doc = .ok source)
    (run : generate target config source = .ok code) (mem : operation ∈ source.api.operations) :
    (∀ name ∈ operation.models source.api, code.Emits source.api name) ↔
      source.api.AnswersPlaced operation := by
  have typed := Lowering.operationsExpose_of_lower (lower_of_source lowered) operation mem
  rw [← Api.operation_hasUnits_iff (sound_of_source lowered) mem typed]
  simp only [(generated_of_generate run).emits_iff]

end Sources

def answering (component : String) (schemas : List (String × OpenApi.Schema)) : OpenApi.Document where
  openapi := none
  info := none
  paths :=
    [("/answer", Lowering.reading [] [("200",
      { description := none
        content := [("application/json", some { ref := some component })] })])]
  schemas := some schemas
  tags := []
  source := none

def wrapperSchema : OpenApi.Schema :=
  { properties := some [("data", { placeholder := some "T" })] }

def payloadSchema : OpenApi.Schema :=
  { properties := some [("data", { typeNames := some (.single "string") })] }

def page (wrapper : OpenApi.Schema) : OpenApi.Document :=
  answering "#/components/schemas/Page"
    [("Wrapper", wrapperSchema), ("Payload", payloadSchema),
      ("Page", { allOf := some [wrapper, { ref := some "#/components/schemas/Payload" }] })]

/-- An event is of one of two kinds, one of them generic. -/
def event : OpenApi.Document :=
  answering "#/components/schemas/Event"
    [("Event",
        { oneOf := some [{ ref := some "#/components/schemas/Created" },
            { ref := some "#/components/schemas/Renamed" }]
          discriminator := some ⟨"kind", some [("created", "#/components/schemas/Created"),
            ("renamed", "#/components/schemas/Renamed")]⟩ }),
      ("Created", wrapperSchema), ("Renamed", payloadSchema)]

/-- An operation of the document mentions the name, and no target emits a model for it. -/
def Unemitted (doc : OpenApi.Document) (name : String) : Prop :=
  ∃ source, Source.of doc = .ok source ∧ ∃ operation ∈ source.api.operations,
    name ∈ operation.models source.api ∧ ∀ target, ∃ code, generate target {} source = .ok code ∧
      ¬ code.Emits source.api name

theorem unemitted_of_seen {doc : OpenApi.Document} {name : String}
    (seen : (Source.of doc).toOption.map (fun source : Source =>
      (fullySupported source.api, decide (∃ operation ∈ source.api.operations,
        name ∈ operation.models source.api ∧
          ∀ entry ∈ source.api.unitModels, entry.2.name ≠ name))) = some (true, true)) :
    Unemitted doc name := by
  obtain ⟨source, lowered, seen⟩ := Lowering.exists_of_toOption_map seen
  obtain ⟨supported, absent⟩ := Prod.mk.inj seen
  obtain ⟨operation, mem, mentions, absent⟩ := of_decide_eq_true absent
  refine ⟨source, lowered, operation, mem, mentions, fun target => ?_⟩
  obtain ⟨code, run⟩ := exists_generated target {} supported
  refine ⟨code, run, fun emits => ?_⟩
  obtain ⟨entry, unit, -, named⟩ := (generated_of_generate run).emits_iff.1 emits
  exact absent entry unit named

/-- A part of a composition and a variant of one union are taken for envelopes. -/
theorem envelopes_unemitted : Unemitted (page wrapperSchema) "PageAllOf" ∧ Unemitted event "Created" :=
  ⟨unemitted_of_seen (by rfl), unemitted_of_seen (by rfl)⟩

theorem page_emitted :
    ∃ source code, Source.of (page { ref := some "#/components/schemas/Wrapper" }) = .ok source ∧
      generate .webClient {} source = .ok code ∧ ∃ operation ∈ source.api.operations,
        operation.models source.api = ["Wrapper"] ∧
          ∀ name ∈ operation.models source.api, code.Emits source.api name := by
  have seen : (Source.of (page { ref := some "#/components/schemas/Wrapper" })).toOption.map
      (fun source : Source => (fullySupported source.api, decide (∃ operation ∈ source.api.operations,
        operation.models source.api = ["Wrapper"] ∧ source.api.AnswersPlaced operation))) =
      some (true, true) := by
    rfl
  obtain ⟨source, lowered, seen⟩ := Lowering.exists_of_toOption_map seen
  obtain ⟨supported, placed⟩ := Prod.mk.inj seen
  obtain ⟨operation, mem, mentions, placed⟩ := of_decide_eq_true placed
  obtain ⟨code, run⟩ := exists_generated .webClient {} supported
  exact ⟨source, code, lowered, run, operation, mem, mentions,
    (operationModels_emitted_iff lowered run mem).2 placed⟩

end OpenApiCodegen
