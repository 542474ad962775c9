import Mathlib.Logic.Relation
import OpenApiCodegen.Proofs.Lowering.Models

namespace OpenApiCodegen.Lowering

open Api
open OpenApi (Schema SchemaKind componentName)

/-- The type of a schema at some depth, or the model of a schema, taken as one of some kind. -/
inductive Place where
  | type (schema : Schema) (depth : Nat)
  | model (kind : SchemaKind) (schema : Schema)

inductive Needs (components : List (String × Schema)) : Place → Place → Prop
  | onward {schema next : Schema} {depth : Nat} {passage : Passage} :
      plan components schema depth = .onward passage next →
        Needs components (.type schema depth) (.type next (passage.depth depth))
  | made {schema : Schema} {depth : Nat} {kind : SchemaKind} :
      plan components schema depth = .make kind →
        Needs components (.type schema depth) (.model kind schema)
  | content {schema part : Schema} {kind : SchemaKind} :
      part ∈ schema.contentsAs kind → Needs components (.model kind schema) (.type part 0)

def Endless (components : List (String × Schema)) (place : Place) : Prop :=
  ∃ loop, Relation.ReflTransGen (Needs components) place loop ∧
    Relation.TransGen (Needs components) loop loop

namespace Endless

variable {components : List (String × Schema)} {place next : Place}

theorem of_needs (needs : Needs components place next) (endless : Endless components next) :
    Endless components place := by
  obtain ⟨loop, reached, again⟩ := endless
  exact ⟨loop, .head needs reached, again⟩

theorem exists_next (endless : Endless components place) :
    ∃ next, Needs components place next ∧ Endless components next := by
  obtain ⟨loop, reached, again⟩ := endless
  rcases Relation.ReflTransGen.cases_head reached with rfl | ⟨next, needs, reached⟩
  · obtain ⟨next, needs, back⟩ := Relation.TransGen.head'_iff.1 again
    exact ⟨next, needs, _, back, again⟩
  · exact ⟨next, needs, loop, reached, again⟩

end Endless

def Fails {α : Type} (work : Lower α) : Prop :=
  ∀ draft, work draft = none

namespace Fails

variable {α β : Type} {work : Lower α}

theorem bind {next : α → Lower β} (fails : Fails work) : Fails (work >>= next) := by
  intro draft
  have unfolded : (work >>= next) draft = (work draft).bind fun p => next p.1 p.2 := rfl
  rw [unfolded, fails draft]
  rfl

theorem bind_right {next : α → Lower β} (fails : ∀ a, Fails (next a)) : Fails (work >>= next) := by
  intro draft
  have unfolded : (work >>= next) draft = (work draft).bind fun p => next p.1 p.2 := rfl
  rw [unfolded]
  cases work draft with
  | none => rfl
  | some result => exact fails result.1 result.2

theorem map {f : α → β} (fails : Fails work) : Fails (f <$> work) := by
  rw [map_eq_pure_bind]
  exact fails.bind

theorem mapM {f : α → Lower β} {items : List α} {item : α} (mem : item ∈ items)
    (fails : Fails (f item)) : Fails (items.mapM f) := by
  induction items with
  | nil => cases mem
  | cons first rest ih =>
    rw [List.mapM_cons]
    rcases List.mem_cons.1 mem with rfl | later
    · exact fails.bind
    · exact bind_right fun b => (ih later).bind

end Fails

section Models

variable {components : List (String × Schema)} {reader : TypeReader} {owner name : String}
  {schema part : Schema} {origin : Origin} {scope : Scope} {n depth : Nat}

theorem lowerProperties_fails (mem : part ∈ schema.propertySchemas)
    (fails : ∀ owner hint, Fails (reader part owner hint .inlineObject 0)) :
    Fails (lowerProperties components reader owner schema).work := by
  obtain ⟨entry, listed, rfl⟩ := List.mem_map.1 mem
  rw [work_lowerProperties]
  exact Fails.mapM listed (fails owner entry.1).bind

theorem additionalType_fails (mem : part ∈ schema.valueSchemas)
    (fails : ∀ owner hint, Fails (reader part owner hint .inlineObject 0)) :
    Fails (additionalType reader owner schema) := by
  rcases written : schema.additional with _ | (yes | value) <;>
    simp only [Schema.valueSchemas, written, List.mem_singleton, List.not_mem_nil] at mem
  subst mem
  simp only [additionalType, written]
  exact (fails owner "Value").map

theorem recordModel_fails (mem : part ∈ schema.contents)
    (fails : ∀ owner hint, Fails (reader part owner hint .inlineObject 0)) :
    Fails (recordModel components reader name schema origin).work := by
  rw [work_recordModel]
  rcases List.mem_append.1 mem with property | value
  · exact (lowerProperties_fails property fails).bind
  · exact Fails.bind_right fun properties => (additionalType_fails value fails).bind

theorem compositionModel_fails (mem : part ∈ schema.contentsAs .composition)
    (fails : ∀ owner hint, Fails (typeOf n scope part owner hint .inlineObject 0)) :
    Fails (compositionModel (n + 1) scope name schema origin depth).work := by
  rw [compositionModel_succ]
  rcases List.mem_append.1 mem with inside | own
  · obtain ⟨member, inline, inside⟩ := List.mem_flatMap.1 inside
    simp only [Schema.inlineMembers, List.mem_filter, Bool.and_eq_true, Bool.not_eq_true',
      Option.isNone_iff_eq_none] at inline
    obtain ⟨listed, substantial, written⟩ := inline
    refine (Fails.mapM listed ?_).map.bind
    unfold contribution
    rw [if_neg (by simp [substantial]), written]
    exact Fails.bind_right fun memberName => (recordModel_fails inside fails).bind
  · refine Fails.bind_right fun merge => ?_
    rcases List.mem_append.1 own with property | value
    · exact (lowerProperties_fails property fails).bind
    · exact Fails.bind_right fun properties => (additionalType_fails value fails).bind

theorem modelOf_fails {kind : SchemaKind} (mem : part ∈ schema.contentsAs kind)
    (fails : ∀ m ≤ n, ∀ owner hint, Fails (typeOf m scope part owner hint .inlineObject 0)) :
    Fails (modelOf n scope kind name schema origin depth) := by
  cases kind with
  | enumeration => cases mem
  | union =>
    rw [modelOf, work_unionModel]
    exact (lowerProperties_fails mem (fails n (Nat.le_refl n))).bind
  | composition =>
    cases n with
    | zero => exact fun _ => rfl
    | succ n => exact compositionModel_fails mem (fails n (Nat.le_succ n))
  | record => exact recordModel_fails mem (fails n (Nat.le_refl n))
  | typeAlias => exact recordModel_fails mem (fails n (Nat.le_refl n))
  | unsupported reason => cases mem

end Models

section Endless

variable {components : List (String × Schema)} {active : List String} {schema : Schema}
  {kind : SchemaKind} {owner hint name : String} {origin : Origin} {n depth : Nat}

theorem typeOf_fails (endless : Endless components (.type schema depth)) :
    Fails (typeOf n ⟨components, active⟩ schema owner hint origin depth) := by
  -- a loop never leaves the endless places, but the bound gets smaller with every turn
  induction n using Nat.strongRecOn generalizing schema owner hint origin depth with
  | ind n ih =>
    cases n with
    | zero => exact fun _ => rfl
    | succ n =>
      rw [typeOf_succ]
      obtain ⟨next, needs, endless⟩ := endless.exists_next
      cases needs with
      | onward planned =>
        rw [show plan components schema depth = _ from planned]
        exact (ih n (Nat.lt_succ_self n) endless).map
      | made planned =>
        rw [show plan components schema depth = _ from planned, Plan.carryOut_make]
        obtain ⟨part, needs, endless⟩ := endless.exists_next
        cases needs with
        | content mem =>
          refine Fails.bind_right fun name => (modelOf_fails mem fun m le owner hint => ?_).bind
          exact ih m (Nat.lt_succ_of_le le) endless

theorem modelOf_fails_of_endless (endless : Endless components (.model kind schema)) :
    Fails (modelOf n ⟨components, active⟩ kind name schema origin depth) := by
  obtain ⟨part, needs, endless⟩ := endless.exists_next
  cases needs with
  | content mem => exact modelOf_fails mem fun m _ owner hint => typeOf_fails endless

end Endless

end OpenApiCodegen.Lowering
