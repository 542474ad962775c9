import OpenApiCodegen.List.Firsts

namespace OpenApiCodegen

variable {α : Type} [DecidableEq α]

theorem firsts_cons (a : α) (items : List α) :
    firsts (a :: items) = a :: (firsts items).filter fun b => !(b == a) :=
  rfl

theorem mem_firsts {a : α} {items : List α} : a ∈ firsts items ↔ a ∈ items := by
  induction items with
  | nil => rfl
  | cons first rest ih =>
    rw [firsts_cons]
    simp only [List.mem_cons, List.mem_filter, ih, Bool.not_eq_true', beq_eq_false_iff_ne]
    by_cases same : a = first <;> simp [same]

theorem firsts_concat (items : List α) (a : α) :
    firsts (items ++ [a]) = if a ∈ items then firsts items else firsts items ++ [a] := by
  induction items with
  | nil => rfl
  | cons first rest ih =>
    rw [List.cons_append, firsts_cons, ih, firsts_cons]
    by_cases later : a ∈ rest
    · simp [later]
    · rw [if_neg later, List.filter_append]
      by_cases same : a = first <;> simp [later, same]

theorem firsts_nodup (items : List α) : (firsts items).Nodup := by
  induction items with
  | nil => exact List.nodup_nil
  | cons a rest ih =>
    rw [firsts_cons, List.nodup_cons]
    exact ⟨by simp, ih.filter _⟩

theorem firsts_filterMap {β : Type} [DecidableEq β] {f : α → Option β} (items : List α)
    (injective : ∀ {a a' : α} {b : β}, f a = some b → f a' = some b → a = a') :
    firsts (items.filterMap f) = (firsts items).filterMap f := by
  induction items with
  | nil => rfl
  | cons a rest ih =>
    rw [firsts_cons]
    cases result : f a with
    | none =>
      rw [List.filterMap_cons_none result, List.filterMap_cons_none result, ih, List.filterMap_filter]
      congr 1
      funext other
      by_cases same : other = a
      · simp [same, result]
      · simp [same]
    | some b =>
      rw [List.filterMap_cons_some result, List.filterMap_cons_some result, firsts_cons, ih,
        List.filter_filterMap, List.filterMap_filter]
      congr 2
      funext other
      by_cases same : other = a
      · simp [same, result]
      · cases result' : f other with
        | none => simp
        | some c =>
          have apart : c ≠ b := fun equal => same (injective result' (equal ▸ result))
          simp [same, apart]

end OpenApiCodegen
