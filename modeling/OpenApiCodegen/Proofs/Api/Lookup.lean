import Mathlib.Data.List.Nodup
import OpenApiCodegen.Api.Basic

namespace OpenApiCodegen.Api

theorem lastIndexFrom?_eq_some {α : Type} {p : α → Bool} {items : List α} {start index : Nat}
    (found : lastIndexFrom? p start items = some index) :
    ∃ a, start ≤ index ∧ items[index - start]? = some a ∧ p a = true := by
  induction items generalizing start with
  | nil => cases found
  | cons first rest ih =>
    rcases Option.or_eq_some_iff.1 found with later | ⟨-, here⟩
    · obtain ⟨a, le, at_, holds⟩ := ih later
      refine ⟨a, by omega, ?_, holds⟩
      obtain ⟨k, rfl⟩ : ∃ k, index = start + 1 + k := ⟨index - (start + 1), by omega⟩
      have shifted : start + 1 + k - start = k + 1 := by omega
      have same : start + 1 + k - (start + 1) = k := by omega
      rw [same] at at_
      rw [shifted, List.getElem?_cons_succ]
      exact at_
    · split at here
      · rename_i holds
        cases here
        exact ⟨first, Nat.le_refl _, by simp, holds⟩
      · cases here

theorem lastIndexFrom?_isSome {α : Type} {p : α → Bool} {items : List α} {a : α} (mem : a ∈ items)
    (holds : p a = true) (start : Nat) : (lastIndexFrom? p start items).isSome = true := by
  induction items generalizing start with
  | nil => cases mem
  | cons first rest ih =>
    rw [lastIndexFrom?, Option.isSome_or, Bool.or_eq_true]
    rcases List.mem_cons.1 mem with rfl | mem
    · exact .inr (by simp [holds])
    · exact .inl (ih mem (start + 1))

variable {api : Api} {name : String} {id : Nat}

theorem modelId?_eq_some (found : api.modelId? name = some id) :
    ∃ model, api.models[id]? = some model ∧ model.name = name := by
  obtain ⟨model, -, at_, named⟩ := lastIndexFrom?_eq_some found
  exact ⟨model, at_, by simpa using named⟩

theorem name_of_modelId? {model : Model} (found : api.modelId? name = some id)
    (at_ : api.models[id]? = some model) : model.name = name := by
  obtain ⟨other, at', named⟩ := modelId?_eq_some found
  rw [at_, Option.some_inj] at at'
  rw [at', named]

theorem modelId?_of_mem {model : Model} (mem : model ∈ api.models) :
    ∃ id found, api.modelId? model.name = some id ∧ api.models[id]? = some found ∧
      found.name = model.name := by
  obtain ⟨id, last⟩ := Option.isSome_iff_exists.1
    (lastIndexFrom?_isSome (p := fun other : Model => other.name = model.name) mem (by simp) 0)
  obtain ⟨found, at_, named⟩ := modelId?_eq_some last
  exact ⟨id, found, last, at_, named⟩

theorem model?_eq_some {model : Model} (found : api.model? name = some model) :
    ∃ id, api.modelId? name = some id ∧ api.models[id]? = some model := by
  obtain ⟨id, last, at_⟩ := Option.bind_eq_some_iff.1 found
  exact ⟨id, last, at_⟩

theorem model?_of_mem {model : Model} (mem : model ∈ api.models) :
    ∃ found ∈ api.models, found.name = model.name ∧ api.model? model.name = some found := by
  obtain ⟨id, found, last, at_, named⟩ := modelId?_of_mem mem
  exact ⟨found, List.mem_of_getElem? at_, named, Option.bind_eq_some_iff.2 ⟨id, last, at_⟩⟩

def NamesDistinct (api : Api) : Prop :=
  (api.models.map (·.name)).Nodup

instance (api : Api) : Decidable api.NamesDistinct :=
  inferInstanceAs (Decidable (List.Nodup _))

theorem NamesDistinct.id_eq (distinct : api.NamesDistinct) {i j : Nat} {model other : Model}
    (first : api.models[i]? = some model) (second : api.models[j]? = some other)
    (same : model.name = other.name) : i = j := by
  obtain ⟨short, -⟩ := List.getElem?_eq_some_iff.1 first
  have names : (api.models.map (·.name))[i]? = (api.models.map (·.name))[j]? := by
    simp [first, second, same]
  exact (List.getElem?_inj (by simpa using short) distinct).1 names

theorem namesDistinct_of_id_eq
    (ids : ∀ {i j : Nat} {model other : Model}, api.models[i]? = some model →
      api.models[j]? = some other → model.name = other.name → i = j) : api.NamesDistinct := by
  rw [NamesDistinct, List.Nodup, List.pairwise_map, List.pairwise_iff_getElem]
  intro i j short short' before same
  have equal := ids (List.getElem?_eq_getElem short) (List.getElem?_eq_getElem short') same
  omega

theorem NamesDistinct.modelId? (distinct : api.NamesDistinct) {model : Model}
    (here : api.models[id]? = some model) : api.modelId? model.name = some id := by
  obtain ⟨other, found, last, at_, named⟩ := modelId?_of_mem (List.mem_of_getElem? here)
  rw [last, distinct.id_eq at_ here named]

end OpenApiCodegen.Api
