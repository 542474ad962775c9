import OpenApiCodegen.Proofs.Api.Units
import OpenApiCodegen.Proofs.Lowering.OwnModels

namespace OpenApiCodegen.Lowering

open Api
open OpenApi (Schema SchemaKind Document NormalDocument)

def VariantsListed (model : Model) : Prop :=
  ∀ discriminator, model.discriminator? = some discriminator → discriminator.variants ⊆ model.members

theorem discriminator?_of_modelOf {n depth : Nat} {scope : Scope} {kind : SchemaKind} {name : String}
    {schema : Schema} {origin : Origin} {draft draft' : Draft} {model : Model}
    (run : modelOf n scope kind name schema origin depth draft = some (model, draft')) :
    model.discriminator? = none ∨ kind = .union ∧ model.members = variantNames schema ∧
      model.discriminator? = some ⟨(schema.discriminator.map (·.property)).getD "", variantMapping schema⟩ := by
  cases kind with
  | enumeration =>
    obtain ⟨rfl, -⟩ := Lower.pure_eq_some.1 run
    exact .inl rfl
  | union =>
    obtain ⟨_, -, rfl⟩ := unionModel_eq_some.1 run
    exact .inr ⟨rfl, rfl, rfl⟩
  | composition =>
    cases n with
    | zero => cases run
    | succ n =>
      obtain ⟨_, _, _, _, _, -, -, -, rfl⟩ := compositionModel_eq_some.1 run
      exact .inl rfl
  | record =>
    obtain ⟨_, _, _, -, -, rfl⟩ := recordModel_eq_some.1 run
    exact .inl rfl
  | typeAlias =>
    obtain ⟨_, _, _, -, -, rfl⟩ := recordModel_eq_some.1 run
    exact .inl rfl
  | unsupported reason =>
    obtain ⟨rfl, -⟩ := Lower.pure_eq_some.1 run
    exact .inl rfl

theorem variantsListed_of_modelOf {n depth : Nat} {scope : Scope} {kind : SchemaKind} {name : String}
    {schema : Schema} {origin : Origin} {draft draft' : Draft} {model : Model}
    (run : modelOf n scope kind name schema origin depth draft = some (model, draft')) :
    VariantsListed model := by
  intro discriminator some
  rcases discriminator?_of_modelOf run with none | ⟨-, members, decodes⟩
  · rw [none] at some
    cases some
  · rw [decodes] at some
    cases some
    intro variant mem
    rw [Discriminator.variants, mem_firsts] at mem
    rw [members]
    exact mem_firsts.2 (List.mem_append_left _ mem)

theorem History.forall_models {components : List (String × Schema)} {begun : Call → Prop}
    {active : List String} {draft draft' : Draft} {P : Model → Prop}
    (made : ∀ {n scope kind name schema origin depth draft model draft'},
      modelOf n scope kind name schema origin depth draft = some (model, draft') → P model)
    (history : History components begun active draft draft') (all : ∀ model ∈ draft.models, P model) :
    ∀ model ∈ draft'.models, P model := by
  induction history with
  | done => exact all
  | inline _ _ run _ within after => exact after (List.forall_mem_cons.2 ⟨made run, within all⟩)
  | component _ _ _ _ _ run _ within after =>
    exact after (List.forall_mem_cons.2 ⟨made run, within all⟩)

def Exposed (components : List (String × Schema)) (draft : Draft) (name : String) : Prop :=
  (∃ entry ∈ modelled components, typeName entry.1 = name) ∨
    ∃ model ∈ draft.models, model.name = name ∧ model.origin ≠ .composition

theorem nameRule_exposed (components : List (String × Schema)) :
    NameRule components (· ≠ .composition) (Exposed components) where
  lasting := by
    rintro draft draft' name le (component | ⟨model, mem, named, origin⟩)
    · exact .inl component
    · exact .inr ⟨model, Draft.mem_models_of_le le mem, named, origin⟩
  component looked kind := .inl ⟨_, mem_modelled.2 ⟨mem_of_lookup looked, kind⟩, rfl⟩
  made good := .inr ⟨_, List.mem_cons_self, rfl, good⟩
  inlineObject := by decide
  ofComponent := by decide

section Documents

variable {doc : NormalDocument} {api : Api}

theorem forall_models_of_lower {P : Model → Prop}
    (made : ∀ {n scope kind name schema origin depth draft model draft'},
      modelOf n scope kind name schema origin depth draft = some (model, draft') → P model)
    (run : lower doc = .ok api) : ∀ model ∈ api.models, P model := by
  obtain ⟨draft, history, models, -⟩ := history_of_lower run
  intro model mem
  exact history.forall_models made (by simp [Draft.start]) model (by simpa [models] using mem)

theorem origin_of_component {document : Document} {entry : String × Schema} {id : Nat} {model : Model}
    (made : IsModelOf document api entry id) (at_ : api.models[id]? = some model) :
    model.origin = .component := by
  obtain ⟨-, -, run, -⟩ := made.madeOf at_
  simpa using origin_of_modelOf run

theorem origin_of_named (run : lower doc = .ok api) {entry : String × Schema} {id : Nat} {model : Model}
    (listed : entry ∈ doc.document.components) (at_ : api.models[id]? = some model)
    (named : typeName entry.1 = model.name) : model.origin = .component := by
  obtain ⟨_, -, -, made⟩ := exists_isModelOf_of_named run listed at_ named.symm
  exact origin_of_component made at_

theorem exposes_component (run : lower doc = .ok api) {entry : String × Schema}
    (mem : entry ∈ modelled doc.document.components) : api.Exposes (typeName entry.1) := by
  obtain ⟨id, model, at_, named⟩ := exists_named_of_lower run mem
  have origin := origin_of_named run (mem_modelled.1 mem).1 at_ named.symm
  exact ⟨model, List.mem_of_getElem? at_, named, by simp [origin]⟩

theorem part_unique (run : lower doc = .ok api) {i j : Nat} {part other : Model}
    (first : api.models[i]? = some part) (second : api.models[j]? = some other)
    (origin : part.origin = .composition) (same : part.name = other.name) : i = j := by
  by_contra apart
  have shared := shared_of_namesakes run first second apart same
  -- models with the names of components are models of components, so none of the two is a part
  obtain ⟨entry, listed, -, -, -, -, -, named, -⟩ := shared
  rw [origin_of_named run listed first named] at origin
  cases origin

theorem Exposed.exposes (run : lower doc = .ok api) {draft : Draft} {name : String}
    (models : api.models = draft.models.reverse) (exposed : Exposed doc.document.components draft name) :
    api.Exposes name := by
  rcases exposed with ⟨entry, component, rfl⟩ | ⟨model, mem, rfl, origin⟩
  · exact exposes_component run component
  · exact ⟨model, by simpa [models] using mem, rfl, origin⟩

theorem sound_of_lower (run : lower doc = .ok api) : api.Sound := by
  obtain ⟨draft, history, models, -⟩ := history_of_lower run
  refine ⟨forall_models_of_lower variantsListed_of_modelOf run, ?_, part_unique run⟩
  · intro model mem type typed name named
    have all := history.allHave (nameRule_exposed doc.document.components)
      (by simp [AllHave, Draft.start])
    rw [models, List.mem_reverse] at mem
    exact (all model mem type typed name named).exposes run models

theorem operationsExpose_of_lower (run : lower doc = .ok api) : ∀ operation ∈ api.operations,
    OperationTyped (fun type => ∀ name ∈ type.models, api.Exposes name) operation := by
  have rule := nameRule_exposed doc.document.components
  obtain ⟨operations, middle, draft, components, rest, models, rfl⟩ := lower_run run
  obtain ⟨history, -⟩ :=
    lowerComponents_run (closed_true doc.document.components) (fun _ _ => trivial) components
  have start : AllHave (Exposed doc.document.components) (Draft.start doc.document) := by
    simp [AllHave, Draft.start]
  obtain ⟨-, -, typed⟩ := lowerOperations_ensures rule.typesEnsure (history.allHave rule start) rest
  intro operation mem
  constructor
  · intro parameter inside name named
    exact ((typed operation mem).1 parameter inside name named).exposes run models
  · intro response inside type body name named
    exact ((typed operation mem).2 response inside type body name named).exposes run models

end Documents

end OpenApiCodegen.Lowering
