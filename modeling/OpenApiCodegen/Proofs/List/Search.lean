import Mathlib.Data.List.Forall2

namespace OpenApiCodegen

variable {α β γ : Type} {p : α → Prop} {items : List α} {a : α}

def IsFirst (p : α → Prop) (items : List α) (a : α) : Prop :=
  ∃ before after, items = before ++ a :: after ∧ p a ∧ ∀ earlier ∈ before, ¬ p earlier

theorem IsFirst.mem (first : IsFirst p items a) : a ∈ items := by
  obtain ⟨before, after, rfl, -⟩ := first
  exact List.mem_append_right _ List.mem_cons_self

theorem IsFirst.holds (first : IsFirst p items a) : p a := by
  obtain ⟨before, after, -, holds, -⟩ := first
  exact holds

theorem find?_eq_some_iff {q : α → Bool} :
    items.find? q = some a ↔ IsFirst (fun b => q b = true) items a := by
  rw [List.find?_eq_some_iff_append]
  constructor
  · rintro ⟨holds, before, after, split, none⟩
    exact ⟨before, after, split, holds, fun earlier mem => by simpa using none earlier mem⟩
  · rintro ⟨before, after, split, holds, none⟩
    exact ⟨holds, before, after, split, fun earlier mem => by simpa using none earlier mem⟩

theorem findSome?_eq_some_iff {f : α → Option β} {b : β} :
    items.findSome? f = some b ↔
      ∃ a, IsFirst (fun other => ∃ answer, f other = some answer) items a ∧ f a = some b := by
  rw [List.findSome?_eq_some_iff]
  constructor
  · rintro ⟨before, a, after, split, found, none⟩
    refine ⟨a, ⟨before, after, split, ⟨b, found⟩, fun earlier mem => ?_⟩, found⟩
    rintro ⟨answer, some⟩
    rw [none earlier mem] at some
    cases some
  · rintro ⟨a, ⟨before, after, split, -, none⟩, found⟩
    refine ⟨before, a, after, split, found, fun earlier mem => ?_⟩
    exact Option.eq_none_iff_forall_not_mem.2 fun answer some => none earlier mem ⟨answer, some⟩

theorem exists_findSome? {f : α → Option β} :
    (∃ b, items.findSome? f = some b) ↔ ∃ a ∈ items, ∃ b, f a = some b := by
  simp only [← Option.isSome_iff_exists, List.findSome?_isSome_iff]

theorem findSome?_filterMap {f : α → Option β} {g : β → Option γ} :
    (items.filterMap f).findSome? g = items.findSome? fun a => (f a).bind g := by
  rw [← List.head?_filterMap, List.filterMap_filterMap, List.head?_filterMap]

theorem findSome?_filter {q : α → Bool} {f : α → Option β} :
    (items.filter q).findSome? f = items.findSome? fun a => if q a then f a else none := by
  rw [← List.head?_filterMap, List.filterMap_filter, List.head?_filterMap]

theorem mapM_eq_some_iff {f : α → Option β} {results : List β} :
    items.mapM f = some results ↔ List.Forall₂ (fun a b => f a = some b) items results := by
  induction items generalizing results with
  | nil => cases results <;> simp
  | cons a rest ih =>
    simp only [List.mapM_cons, Option.bind_eq_bind, Option.bind_eq_some_iff, Option.pure_def,
      Option.some.injEq, List.forall₂_cons_left_iff, ih]
    constructor
    · rintro ⟨b, here, others, later, rfl⟩
      exact ⟨b, others, here, later, rfl⟩
    · rintro ⟨b, others, here, later, rfl⟩
      exact ⟨b, here, others, later, rfl⟩

theorem exists_mapM {f : α → Option β} :
    (∃ results, items.mapM f = some results) ↔ ∀ a ∈ items, ∃ b, f a = some b := by
  induction items with
  | nil => simp
  | cons a rest ih =>
    simp only [List.mapM_cons, Option.bind_eq_bind, Option.bind_eq_some_iff, Option.pure_def,
      List.forall_mem_cons, ← ih]
    constructor
    · rintro ⟨_, b, here, others, later, -⟩
      exact ⟨⟨b, here⟩, others, later⟩
    · rintro ⟨⟨b, here⟩, others, later⟩
      exact ⟨b :: others, b, here, others, later, rfl⟩

theorem exists_of_forall₂ {S : α → β → Prop} {results : List β}
    (each : List.Forall₂ S items results) {item : α} (mem : item ∈ items) :
    ∃ result ∈ results, S item result := by
  induction each with
  | nil => cases mem
  | @cons first result _ _ head _ ih =>
    rcases List.mem_cons.1 mem with rfl | mem
    · exact ⟨result, List.mem_cons_self, head⟩
    · obtain ⟨other, inside, holds⟩ := ih mem
      exact ⟨other, List.mem_cons_of_mem _ inside, holds⟩

theorem exists_of_forall₂_right {S : α → β → Prop} {results : List β}
    (each : List.Forall₂ S items results) {result : β} (mem : result ∈ results) :
    ∃ item ∈ items, S item result := by
  induction each with
  | nil => cases mem
  | @cons item first _ _ head _ ih =>
    rcases List.mem_cons.1 mem with rfl | mem
    · exact ⟨item, List.mem_cons_self, head⟩
    · obtain ⟨other, inside, holds⟩ := ih mem
      exact ⟨other, List.mem_cons_of_mem _ inside, holds⟩

end OpenApiCodegen
