import OpenApiCodegen.Proofs.Api.Envelopes
import OpenApiCodegen.Proofs.Lowering.ModelNames
import OpenApiCodegen.Proofs.Lowering.ModelOrigins

namespace OpenApiCodegen.Lowering

open Api
open OpenApi (Schema SchemaKind NormalDocument)
open Text (Capitalized)

def NamesCapitalized (type : DataType) : Prop :=
  ∀ name ∈ type.models, Capitalized name.toList

section Documents

variable {doc : NormalDocument} {api : Api} {model : Model} {operation : Operation}

theorem capitalized_of_exposes (run : lower doc = .ok api) {name : String} (exposes : api.Exposes name) :
    Capitalized name.toList := by
  obtain ⟨model, mem, rfl, -⟩ := exposes
  exact capitalized_of_lower run model mem

theorem namesCapitalized_of_model (run : lower doc = .ok api) (mem : model ∈ api.models) :
    ∀ type ∈ model.types, NamesCapitalized type := fun type typed name named =>
  capitalized_of_exposes run ((sound_of_lower run).types model mem type typed name named)

theorem namesCapitalized_of_operation (run : lower doc = .ok api) (mem : operation ∈ api.operations) :
    OperationTyped NamesCapitalized operation := by
  obtain ⟨parameters, responses⟩ := operationsExpose_of_lower run operation mem
  constructor
  · intro parameter inside name named
    exact capitalized_of_exposes run (parameters parameter inside name named)
  · intro response inside type body name named
    exact capitalized_of_exposes run (responses response inside type body name named)

theorem namesCapitalized_of_returnType (run : lower doc = .ok api) (mem : operation ∈ api.operations) :
    (∀ type ∈ (returnType api operation).types, NamesCapitalized type) ∧
      ∀ applied, returnType api operation = .envelope applied → Capitalized applied.envelope.toList := by
  rw [returnType_eq]
  cases answered : answered? api operation with
  | some answer =>
    obtain ⟨model, applied⟩ := answer
    obtain ⟨-, applies⟩ := answered?_eq_some answered
    constructor
    · intro type given
      obtain ⟨sibling, known, -, typed⟩ := argument_typed applies given
      exact namesCapitalized_of_model run known type typed
    · rintro _ ⟨⟩
      obtain ⟨envelope, found, named, -⟩ := instance?_eq_some.1 applies
      rw [named]
      exact capitalized_of_lower run envelope (List.mem_of_getElem? (envelopeOf?_eq_some found).1)
  | none =>
    cases success : operation.successBody? with
    | none => exact ⟨List.forall_mem_nil _, fun _ impossible => nomatch impossible⟩
    | some body =>
      obtain ⟨response, listed, carries⟩ := successBody_mem success
      have typed := (namesCapitalized_of_operation run mem).2 response listed body carries
      exact ⟨List.forall_mem_singleton.2 typed, fun _ impossible => nomatch impossible⟩

theorem capitalized_of_variantNames {schema : Schema} {name : String} (mem : name ∈ variantNames schema) :
    Capitalized name.toList := by
  simp only [variantNames, variantMapping, mem_firsts, List.mem_append, List.mem_map, List.mem_filterMap,
    Option.map_eq_some_iff] at mem
  rcases mem with ⟨_, ⟨target, -, rfl⟩, rfl⟩ | ⟨_, -, ref, -, rfl⟩ <;> exact capitalized_typeName _

theorem variants_capitalized (run : lower doc = .ok api) : ∀ model ∈ api.models,
    ∀ discriminator ∈ model.discriminator?, ∀ variant ∈ discriminator.variants, Capitalized variant.toList := by
  refine forall_models_of_lower (fun made discriminator decodes variant listed => ?_) run
  rcases discriminator?_of_modelOf made with none | ⟨-, members, -⟩
  · rw [none] at decodes
    cases decodes
  · have member := variantsListed_of_modelOf made discriminator decodes listed
    exact capitalized_of_variantNames (members ▸ member)

theorem enumeration?_of_modelOf {n depth : Nat} {scope : Scope} {kind : SchemaKind} {name : String}
    {schema : Schema} {origin : Origin} {draft draft' : Draft}
    (run : modelOf n scope kind name schema origin depth draft = some (model, draft')) :
    ∀ enumeration ∈ model.enumeration?, enumeration.base = enumBase schema := by
  cases kind with
  | enumeration =>
    obtain ⟨rfl, -⟩ := Lower.pure_eq_some.1 run
    rintro _ ⟨⟩
    rfl
  | union =>
    obtain ⟨_, -, rfl⟩ := unionModel_eq_some.1 run
    exact fun _ impossible => nomatch impossible
  | composition =>
    cases n with
    | zero => cases run
    | succ n =>
      obtain ⟨_, _, _, _, _, -, -, -, rfl⟩ := compositionModel_eq_some.1 run
      exact fun _ impossible => nomatch impossible
  | record | typeAlias =>
    obtain ⟨_, _, _, -, -, rfl⟩ := recordModel_eq_some.1 run
    exact fun _ impossible => nomatch impossible
  | unsupported reason =>
    obtain ⟨rfl, -⟩ := Lower.pure_eq_some.1 run
    exact fun _ impossible => nomatch impossible

theorem base_of_lower (run : lower doc = .ok api) : ∀ model ∈ api.models,
    ∀ enumeration ∈ model.enumeration?, ∃ schema, enumeration.base = enumBase schema :=
  forall_models_of_lower (fun made enumeration some => ⟨_, enumeration?_of_modelOf made enumeration some⟩) run

end Documents

end OpenApiCodegen.Lowering
