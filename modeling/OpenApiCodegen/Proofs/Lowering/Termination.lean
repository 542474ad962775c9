import Mathlib.Data.Finset.Card
import Mathlib.Data.Finset.Dedup
import OpenApiCodegen.Proofs.Lowering.Calls
import OpenApiCodegen.Proofs.Lowering.Expansion
import OpenApiCodegen.Proofs.Lowering.Subschemas

namespace OpenApiCodegen.Lowering

open Api
open OpenApi (Schema SchemaKind Document componentName)

def Ends {α : Type} (work : Lower α) : Prop :=
  ∀ draft, ∃ result, work draft = some result

namespace Ends

variable {α β : Type} {work : Lower α}

theorem pure (a : α) : Ends (pure a) :=
  fun draft => ⟨(a, draft), rfl⟩

theorem bind {next : α → Lower β} (first : Ends work) (second : ∀ a, Ends (next a)) :
    Ends (work >>= next) := by
  intro draft
  obtain ⟨⟨a, middle⟩, one⟩ := first draft
  obtain ⟨⟨b, draft'⟩, two⟩ := second a middle
  exact ⟨(b, draft'), Lower.bind_eq_some.2 ⟨a, middle, one, two⟩⟩

theorem map {f : α → β} (first : Ends work) : Ends (f <$> work) := by
  rw [map_eq_pure_bind]
  exact first.bind fun a => Ends.pure (f a)

theorem mapM {f : α → Lower β} {items : List α} (each : ∀ item ∈ items, Ends (f item)) :
    Ends (items.mapM f) := by
  induction items with
  | nil => exact Ends.pure []
  | cons item rest ih =>
    rw [List.mapM_cons]
    refine (each item (by simp)).bind fun b => ?_
    exact (ih fun item mem => each item (by simp [mem])).bind fun bs => Ends.pure (b :: bs)

theorem forM {f : α → Lower Unit} {items : List α} (each : ∀ item ∈ items, Ends (f item)) :
    Ends (items.forM f) := by
  induction items with
  | nil => exact Ends.pure ()
  | cons item rest ih =>
    exact (each item (by simp)).bind fun _ => ih fun item mem => each item (by simp [mem])

theorem get : Ends (get : Lower Draft) :=
  fun draft => ⟨(draft, draft), rfl⟩

theorem pushModel (model : Model) : Ends (pushModel model) :=
  fun _ => ⟨_, rfl⟩

theorem inlineName (owner hint : String) : Ends (inlineName owner hint) :=
  fun _ => ⟨_, rfl⟩

end Ends

section Models

variable {components : List (String × Schema)} {reader : TypeReader} {owner name : String}
  {schema : Schema} {origin : Origin} {scope : Scope} {n depth : Nat}

theorem lowerProperties_ends
    (ends : ∀ part ∈ schema.propertySchemas, ∀ owner hint, Ends (reader part owner hint .inlineObject 0)) :
    Ends (lowerProperties components reader owner schema).work := by
  rw [work_lowerProperties]
  refine Ends.mapM fun entry mem => ?_
  exact (ends entry.2 (List.mem_map_of_mem mem) owner entry.1).bind fun _ => Ends.pure _

theorem additionalType_ends
    (ends : ∀ part ∈ schema.valueSchemas, ∀ owner hint, Ends (reader part owner hint .inlineObject 0)) :
    Ends (additionalType reader owner schema) := by
  rcases written : schema.additional with _ | (yes | value) <;> simp only [additionalType, written]
  · exact Ends.pure _
  · cases yes <;> exact Ends.pure _
  · exact (ends value (by simp [Schema.valueSchemas, written]) owner "Value").map

theorem recordModel_ends
    (ends : ∀ part ∈ schema.contents, ∀ owner hint, Ends (reader part owner hint .inlineObject 0)) :
    Ends (recordModel components reader name schema origin).work := by
  have properties : Ends (lowerProperties components reader name schema).work :=
    lowerProperties_ends fun part mem => ends part (List.mem_append_left _ mem)
  have values : Ends (additionalType reader name schema) :=
    additionalType_ends fun part mem => ends part (List.mem_append_right _ mem)
  rw [work_recordModel]
  exact properties.bind fun _ => values.bind fun _ => Ends.pure _

theorem contribution_ends {member : Schema}
    (members : ∀ ref ∈ member.ref, Ends (memberProperties n scope (componentName ref) depth).work)
    (types : ¬ member.isDescriptionOnly → member.ref = none → ∀ part ∈ member.contents,
      ∀ owner hint, Ends (typeOf n scope part owner hint .inlineObject 0)) :
    Ends (contribution n scope name depth member) := by
  unfold contribution
  split
  · exact Ends.pure _
  · rename_i substantial
    cases written : member.ref with
    | some ref =>
      refine (members ref written).bind fun found => ?_
      cases found <;> exact Ends.pure _
    | none =>
      refine (Ends.inlineName _ _).bind fun memberName => ?_
      refine (recordModel_ends (types substantial written)).bind fun model => ?_
      exact (Ends.pushModel model).bind fun _ => Ends.pure _

theorem compositionModel_ends
    (members : ∀ key ∈ schema.memberKeys, Ends (memberProperties n scope key depth).work)
    (types : ∀ part ∈ schema.contentsAs .composition, ∀ owner hint,
      Ends (typeOf n scope part owner hint .inlineObject 0)) :
    Ends (compositionModel (n + 1) scope name schema origin depth).work := by
  rw [compositionModel_succ]
  have gathered : Ends (mergeOf n scope name depth schema) := by
    refine (Ends.mapM fun member mem => contribution_ends ?_ ?_).map
    · intro ref written
      exact members _ (List.mem_filterMap.2 ⟨member, mem, by simp [Option.mem_def.1 written]⟩)
    · intro substantial written part inside
      refine types part (List.mem_append_left _ (List.mem_flatMap.2 ⟨member, ?_, inside⟩))
      exact List.mem_filter.2 ⟨mem, by simp [substantial, written]⟩
  have properties : Ends (lowerProperties scope.components (typeOf n scope) name schema).work :=
    lowerProperties_ends fun part mem =>
      types part (List.mem_append_right _ (List.mem_append_left _ mem))
  have values : Ends (additionalType (typeOf n scope) name schema) :=
    additionalType_ends fun part mem =>
      types part (List.mem_append_right _ (List.mem_append_right _ mem))
  exact gathered.bind fun _ => properties.bind fun _ => values.bind fun _ => Ends.pure _

theorem modelOf_ends {kind : SchemaKind}
    (types : ∀ part ∈ schema.contentsAs kind, ∀ owner hint,
      Ends (typeOf n scope part owner hint .inlineObject 0))
    (composition : kind = .composition → Ends (compositionModel n scope name schema origin depth).work) :
    Ends (modelOf n scope kind name schema origin depth) := by
  cases kind with
  | enumeration => exact Ends.pure _
  | union =>
    rw [modelOf, work_unionModel]
    exact (lowerProperties_ends types).bind fun _ => Ends.pure _
  | composition => exact composition rfl
  | record => exact recordModel_ends types
  | typeAlias => exact recordModel_ends types
  | unsupported reason => exact Ends.pure _

theorem memberProperties_ends {key : String}
    (hops : ∀ target inner, depth ≤ maxDepth → scope.components.lookup key = some target →
      target.kind = .typeAlias → aliasTarget? target = some inner →
        Ends (memberProperties n scope inner (depth + 1)).work)
    (lowered : ∀ target, depth ≤ maxDepth → scope.components.lookup key = some target →
      target.kind ≠ .typeAlias → Ends (lowerComponent n scope key target (depth + 1)).work) :
    Ends (memberProperties (n + 1) scope key depth).work := by
  rw [memberProperties_succ]
  split
  · exact Ends.pure _
  · rename_i shallow
    cases looked : scope.components.lookup key with
    | none => exact Ends.pure _
    | some target =>
      dsimp only
      split
      · rename_i kind
        cases hop : aliasTarget? target with
        | none => exact Ends.pure _
        | some inner => exact hops target inner (by omega) looked kind hop
      · rename_i kind
        refine (lowered target (by omega) looked kind).bind fun _ => ?_
        exact Ends.get.bind fun _ => Ends.pure _

theorem lowerComponent_ends {key : String}
    (made : key ∉ scope.active → schema.kind ≠ .typeAlias →
      Ends (modelOf n (scope.entering key) schema.kind (typeName key) schema .component depth)) :
    Ends (lowerComponent (n + 1) scope key schema depth).work := by
  rw [lowerComponent_succ]
  refine Ends.get.bind fun draft => ?_
  split
  · exact Ends.pure _
  · rename_i unguarded
    simp only [Bool.or_eq_true, List.contains_iff_mem, not_or] at unguarded
    split
    · exact Ends.pure _
    · rename_i kind
      exact (made unguarded.2 kind).bind fun model => Ends.pushModel model

end Models

theorem ends_of_measure {components : List (String × Schema)} {begun : Call → Prop}
    (closed : Closed components begun) (measure : Call → Nat)
    (smaller : ∀ {call call'}, begun call → Calls components call call' → measure call' < measure call)
    (n : Nat) :
    (∀ {active schema depth}, begun (.type schema depth active) →
      measure (.type schema depth active) < n → ∀ owner hint origin,
        Ends (typeOf n ⟨components, active⟩ schema owner hint origin depth)) ∧
    (∀ {active schema depth}, begun (.model .composition schema depth active) →
      measure (.model .composition schema depth active) < n → ∀ name origin,
        Ends (compositionModel n ⟨components, active⟩ name schema origin depth).work) ∧
    (∀ {active key depth}, begun (.member key depth active) →
      measure (.member key depth active) < n →
        Ends (memberProperties n ⟨components, active⟩ key depth).work) ∧
    ∀ {active key schema depth}, begun (.component key schema depth active) →
      measure (.component key schema depth active) < n →
        Ends (lowerComponent n ⟨components, active⟩ key schema depth).work := by
  induction n with
  | zero => refine ⟨?_, ?_, ?_, ?_⟩ <;> intros <;> omega
  | succ n ih =>
    obtain ⟨types, compositions, members, lowered⟩ := ih
    -- models are made at the same bound, by what is one call deeper
    have models : ∀ {active kind schema depth}, begun (.model kind schema depth active) →
        measure (.model kind schema depth active) < n → ∀ name origin,
          Ends (modelOf n ⟨components, active⟩ kind name schema origin depth) := by
      intro active kind schema depth called below name origin
      refine modelOf_ends (fun part mem owner hint => ?_) ?_
      · have next := smaller called (.content mem)
        exact types (closed called (.content mem)) (by omega) owner hint .inlineObject
      · rintro rfl
        exact compositions called below name origin
    refine ⟨?_, ?_, ?_, ?_⟩
    · intro active schema depth called below owner hint origin
      rw [typeOf_succ]
      cases planned : plan components schema depth with
      | settled type =>
        exact Ends.pure type
      | onward passage next =>
        have step := smaller called (.onward planned)
        exact (types (closed called (.onward planned)) (by omega) _ _ _).map
      | make kind =>
        have step := smaller called (.made planned)
        rw [Plan.carryOut_make]
        refine (Ends.inlineName owner hint).bind fun name => ?_
        refine (models (closed called (.made planned)) (by omega) name origin).bind fun model => ?_
        exact (Ends.pushModel model).bind fun _ => Ends.pure _
    · intro active schema depth called below name origin
      refine compositionModel_ends (fun key mem => ?_) fun part mem owner hint => ?_
      · have step := smaller called (.reference mem)
        exact members (closed called (.reference mem)) (by omega)
      · have step := smaller called (.content mem)
        exact types (closed called (.content mem)) (by omega) owner hint .inlineObject
    · intro active key depth called below
      refine memberProperties_ends ?_ ?_
      · intro target inner shallow looked kind hop
        have step := smaller called (.hop shallow looked kind hop)
        exact members (closed called (.hop shallow looked kind hop)) (by omega)
      · intro target shallow looked kind
        have step := smaller called (.lower shallow looked kind)
        exact lowered (closed called (.lower shallow looked kind)) (by omega)
    · intro active key schema depth called below
      refine lowerComponent_ends fun free kind => ?_
      have step := smaller called (.entered free kind)
      exact models (closed called (.entered free kind)) (by omega) _ _

end OpenApiCodegen.Lowering
