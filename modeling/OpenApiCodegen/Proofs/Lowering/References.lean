import OpenApiCodegen.Proofs.Lowering.TypedModels

namespace OpenApiCodegen.Lowering

open Api
open OpenApi (Schema SchemaKind NormalDocument componentName)

def Known (components : List (String × Schema)) (draft : Draft) (name : String) : Prop :=
  isLowered draft name = true ∨
    ∃ entry ∈ components, entry.2.kind ≠ .typeAlias ∧ typeName entry.1 = name

def MembersKnown (components : List (String × Schema)) (draft : Draft) (model : Model) : Prop :=
  model.isUnion = false → ∀ member ∈ model.members, Known components draft member

structure AllKnown (components : List (String × Schema)) (draft : Draft) : Prop where
  types : AllHave (Known components) draft
  members : ∀ model ∈ draft.models, MembersKnown components draft model

variable {components : List (String × Schema)} {draft draft' later : Draft}

theorem lasting_known : Lasting (Known components) :=
  fun _ _ _ le known => known.imp_left (isLowered_of_le le)

theorem known_component {key : String} {target : Schema}
    (looked : components.lookup key = some target) (kind : target.kind ≠ .typeAlias) :
    Known components draft (typeName key) :=
  .inr ⟨(key, target), mem_of_lookup looked, kind, rfl⟩

theorem known_of_mem {model : Model} (mem : model ∈ draft.models) :
    Known components draft model.name :=
  .inl (isLowered_iff.2 ⟨model, mem, rfl⟩)

theorem nameRule_known : NameRule components (fun _ => True) (Known components) where
  lasting := lasting_known
  component := known_component
  made _ := known_of_mem List.mem_cons_self
  inlineObject := trivial
  ofComponent := trivial

theorem MembersKnown.mono {model : Model} (le : draft ≤ draft')
    (known : MembersKnown components draft model) : MembersKnown components draft' model :=
  fun plain member mem => lasting_known le (known plain member mem)

theorem AllKnown.reserve {name : String} (all : AllKnown components draft) :
    AllKnown components (draft.reserve name) :=
  ⟨all.types.reserve lasting_known,
    fun model mem => (all.members model mem).mono (draft.le_reserve name)⟩

theorem AllKnown.push {model : Model} (all : AllKnown components draft)
    (types : ModelHas (Known components) draft model) (members : MembersKnown components draft model) :
    AllKnown components (draft.push model) := by
  refine ⟨all.types.push lasting_known types, fun other mem => ?_⟩
  rcases List.mem_cons.1 mem with rfl | mem
  · exact members.mono (draft.le_push other)
  · exact (all.members other mem).mono (draft.le_push model)

section Runs

variable {n depth : Nat} {scope : Scope} {schema : Schema} {name key : String} {origin : Origin}

theorem memberProperties_known {found : Option (String × List Property)}
    (run : (memberProperties n scope key depth).work draft = some (found, draft')) :
    ∀ member ∈ found, Known scope.components draft' member.1 := by
  induction n generalizing key depth with
  | zero => cases run
  | succ n ih =>
    rcases memberProperties_run run with ⟨rfl, -, -⟩ | ⟨_, _, _, _, inner, _, run⟩ |
      ⟨target, looked, -, kind, -, rfl⟩
    · simp
    · exact ih run
    · rintro _ ⟨⟩
      exact known_component looked kind

theorem contribution_known {member : Schema} {result : Contribution} {merge : Merge}
    (run : contribution n scope name depth member draft = some (result, draft')) (le : draft' ≤ later)
    (gathered : ∀ member ∈ merge.members, Known scope.components later member) :
    ∀ member ∈ (merge.take result).members, Known scope.components later member := by
  have added : ∀ {member : String} {properties : List Property},
      Known scope.components later member →
        ∀ other ∈ (merge.add member properties).members, Known scope.components later other := by
    intro member properties known other mem
    rcases List.mem_append.1 mem with mem | mem
    · exact gathered other mem
    · obtain rfl := List.mem_singleton.1 mem
      exact known
  unfold contribution at run
  split at run
  · obtain ⟨rfl, -⟩ := Lower.pure_eq_some.1 run
    exact gathered
  cases written : member.ref with
  | some ref =>
    simp only [written, Lower.bind_eq_some] at run
    obtain ⟨found, middle, looked, rest⟩ := run
    cases found with
    | none =>
      obtain ⟨rfl, -⟩ := Lower.pure_eq_some.1 rest
      exact gathered
    | some found =>
      obtain ⟨rfl, rfl⟩ := Lower.pure_eq_some.1 rest
      exact added (lasting_known le (memberProperties_known looked found rfl))
  | none =>
    simp only [written, Lower.bind_eq_some, Lower.pure_eq_some, pushModel_eq_some] at run
    obtain ⟨memberName, start, -, model, middle, made, -, last, rfl, rfl, rfl⟩ := run
    have called : model.name = memberName :=
      name_of_modelOf (show modelOf n scope .record _ _ _ depth _ = _ from made)
    have kept : model ∈ later.models := Draft.mem_models_of_le le List.mem_cons_self
    exact added (called ▸ known_of_mem kept)

theorem compositionModel_known {model : Model}
    (run : (compositionModel n scope name schema origin depth).work draft = some (model, draft')) :
    MembersKnown scope.components draft' model := by
  cases n with
  | zero => cases run
  | succ n =>
    obtain ⟨contributions, first, own, second, additional, gathered, owned, added, rfl⟩ :=
      compositionModel_eq_some.1 run
    have leOwn := (lowerProperties_run composes_le (typesKeep_le _) owned).1
    have leAdded := additionalType_keeps composes_le (typesKeep_le _) added
    have merged := gathered_of_contributions
      (P := fun merge => ∀ member ∈ merge.members, Known scope.components draft' member)
      gathered (fun step le => contribution_known step (le_trans le (le_trans leOwn leAdded)))
      ⟨schema.description, [], []⟩ (by simp)
    exact fun _ => merged

theorem modelOf_known {kind : SchemaKind} {model : Model}
    (run : modelOf n scope kind name schema origin depth draft = some (model, draft')) :
    MembersKnown scope.components draft' model := by
  have none : model.members = [] → MembersKnown scope.components draft' model := by
    intro empty _ member mem
    rw [empty] at mem
    cases mem
  cases kind with
  | enumeration =>
    obtain ⟨rfl, -⟩ := Lower.pure_eq_some.1 run
    exact none rfl
  | union =>
    obtain ⟨_, -, rfl⟩ := unionModel_eq_some.1 run
    simp [MembersKnown, newModel, Model.isUnion]
  | composition => exact compositionModel_known run
  | record =>
    obtain ⟨_, _, _, -, -, rfl⟩ := recordModel_eq_some.1 run
    exact none rfl
  | typeAlias =>
    obtain ⟨_, _, _, -, -, rfl⟩ := recordModel_eq_some.1 run
    exact none rfl
  | unsupported reason =>
    obtain ⟨rfl, -⟩ := Lower.pure_eq_some.1 run
    exact none rfl

end Runs

theorem History.allKnown {begun : Call → Prop} {active : List String}
    (history : History components begun active draft draft') (all : AllKnown components draft) :
    AllKnown components draft' := by
  induction history with
  | done => exact all
  | inline _ _ made _ within after =>
    have known := within all.reserve
    exact after (known.push (modelOf_has nameRule_known made known.types) (modelOf_known made))
  | component _ _ _ _ _ made _ within after =>
    have known := within all
    exact after (known.push (modelOf_has nameRule_known made known.types) (modelOf_known made))

theorem typesEnsure_known :
    TypesEnsure (AllKnown components) (TypeHas (Known components)) ⟨components, []⟩ where
  lasting _ _ _ le known := known.mono lasting_known le
  plain := .of_models_nil
  type n schema owner hint origin depth _ draft type draft' all run := by
    have history := (history_of_run (closed_true components) n).1 trivial run
    exact ⟨history.le, history.allKnown all, typeOf_has nameRule_known trivial run⟩
  member n key depth draft found draft' all run := by
    have history := (history_of_run (closed_true components) n).2.2.1 trivial run
    have known := history.allKnown all
    exact ⟨history.le, known, memberProperties_have run (le_refl _) known.types⟩

theorem Known.exists {name : String} (known : Known components draft name)
    (made : ∀ entry ∈ components, entry.2.kind ≠ .typeAlias → isLowered draft (typeName entry.1) = true) :
    ∃ model ∈ draft.models, model.name = name := by
  rcases known with lowered | ⟨entry, mem, kind, rfl⟩
  · exact isLowered_iff.1 lowered
  · exact isLowered_iff.1 (made entry mem kind)

end OpenApiCodegen.Lowering

namespace OpenApiCodegen

open OpenApi (NormalDocument)
open Lowering

def Api.Declares (api : Api) (name : String) : Prop :=
  ∃ model ∈ api.models, model.name = name

/-- Every model that is mentioned in the API is one of its models. The members of unions are left
out: they may be no models. -/
structure Api.RefersToModels (api : Api) : Prop where
  types : ∀ model ∈ api.models, ∀ type ∈ model.types, ∀ name ∈ type.models, api.Declares name
  members : ∀ model ∈ api.models, model.isUnion = false → ∀ member ∈ model.members, api.Declares member
  parameters : ∀ operation ∈ api.operations, ∀ parameter ∈ operation.parameters,
    ∀ name ∈ parameter.type.models, api.Declares name
  responses : ∀ operation ∈ api.operations, ∀ response ∈ operation.responses,
    ∀ type ∈ response.body, ∀ name ∈ type.models, api.Declares name

namespace Lowering

theorem refersToModels_of_lower {doc : NormalDocument} {api : Api} (run : lower doc = .ok api) :
    api.RefersToModels := by
  obtain ⟨operations, middle, draft, components, rest, models, same⟩ := lower_run run
  obtain ⟨history, made⟩ :=
    lowerComponents_run (closed_true doc.document.components) (fun _ _ => trivial) components
  have start : AllKnown doc.document.components (Draft.start doc.document) := by
    constructor <;> simp [AllHave, Draft.start]
  obtain ⟨le, all, typed⟩ :=
    lowerOperations_ensures typesEnsure_known (history.allKnown start) rest
  have declared : ∀ name, Known doc.document.components draft name → api.Declares name := by
    intro name known
    obtain ⟨model, mem, called⟩ :=
      known.exists fun entry mem kind => isLowered_of_le le (made entry mem kind)
    exact ⟨model, by simp [models, mem], called⟩
  rw [← same] at typed
  constructor
  · intro model mem type inside name mentioned
    rw [models, List.mem_reverse] at mem
    exact declared name (all.types model mem type inside name mentioned)
  · intro model mem plain member inside
    rw [models, List.mem_reverse] at mem
    exact declared member (all.members model mem plain member inside)
  · intro operation mem parameter inside name mentioned
    exact declared name ((typed operation mem).1 parameter inside name mentioned)
  · intro operation mem response inside type body name mentioned
    exact declared name ((typed operation mem).2 response inside type body name mentioned)

/-- Two compositions that refer to each other, the second one to a component that comes later. -/
def mutualCompositions : OpenApi.Document where
  openapi := none
  info := none
  paths := []
  schemas := some
    [("tree", { allOf := some [{ ref := some "#/components/schemas/branch" },
        { properties := some [("label", { typeNames := some (.single "string") })] }] }),
      ("branch", { allOf := some [{ ref := some "#/components/schemas/tree" },
        { properties := some [("leaf", { ref := some "#/components/schemas/leaf" })] }] }),
      ("leaf", { properties := some [("colour", { typeNames := some (.single "string") })] })]
  tags := []
  source := none

theorem mutualCompositions_refersToModels :
    ∃ api, lower (.of mutualCompositions) = .ok api ∧
      api.models.map (·.name) = ["BranchAllOf", "Branch", "TreeAllOf", "Tree", "Leaf"] ∧
        api.RefersToModels := by
  have names : (lower (.of mutualCompositions)).toOption.map (fun api => api.models.map (·.name)) =
      some ["BranchAllOf", "Branch", "TreeAllOf", "Tree", "Leaf"] := by
    rfl
  cases run : lower (.of mutualCompositions) with
  | error error => simp [run, Except.toOption] at names
  | ok api =>
    rw [run] at names
    exact ⟨api, rfl, by simpa [Except.toOption] using names, refersToModels_of_lower run⟩

end Lowering

end OpenApiCodegen
