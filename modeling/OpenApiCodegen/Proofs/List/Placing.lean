import Mathlib.Data.List.Nodup
import OpenApiCodegen.Proofs.List.Firsts

namespace OpenApiCodegen

variable {α κ : Type} [DecidableEq κ]

def place (key : α → κ) (item : α) : List α → List α
  | [] => [item]
  | first :: rest => if key first = key item then item :: rest else first :: place key item rest

def placeAll (key : α → κ) (items added : List α) : List α :=
  added.foldl (fun placed item => place key item placed) items

variable {key : α → κ} {item added : α} {items : List α}

@[simp] theorem placeAll_cons (item : α) (rest : List α) :
    placeAll key items (item :: rest) = placeAll key (place key item items) rest :=
  rfl

theorem mem_place (mem : item ∈ place key added items) : item = added ∨ item ∈ items := by
  induction items with
  | nil => exact .inl (List.mem_singleton.1 mem)
  | cons first rest ih =>
    unfold place at mem
    split at mem
    · rcases List.mem_cons.1 mem with same | later
      · exact .inl same
      · exact .inr (List.mem_cons_of_mem _ later)
    · rcases List.mem_cons.1 mem with rfl | later
      · exact .inr List.mem_cons_self
      · exact (ih later).imp_right (List.mem_cons_of_mem _)

theorem mem_placeAll {added : List α} (mem : item ∈ placeAll key items added) :
    item ∈ items ∨ item ∈ added := by
  induction added generalizing items with
  | nil => exact .inl mem
  | cons first rest ih =>
    rcases ih mem with before | later
    · rcases mem_place before with rfl | before
      · exact .inr List.mem_cons_self
      · exact .inl before
    · exact .inr (List.mem_cons_of_mem _ later)

theorem keys_place (added : α) (items : List α) :
    (place key added items).map key =
      if key added ∈ items.map key then items.map key else items.map key ++ [key added] := by
  induction items with
  | nil => rfl
  | cons first rest ih =>
    by_cases same : key first = key added
    · simp [place, same]
    · have other : key added ≠ key first := Ne.symm same
      simp only [place, if_neg same, List.map_cons, ih, List.mem_cons, other, false_or]
      split
      · rfl
      · rfl

theorem keys_placeAll {known : List κ} (start : items.map key = firsts known) (added : List α) :
    (placeAll key items added).map key = firsts (known ++ added.map key) := by
  induction added generalizing items known with
  | nil => simpa [placeAll] using start
  | cons item rest ih =>
    have next : (place key item items).map key = firsts (known ++ [key item]) := by
      rw [keys_place, firsts_concat, start]
      simp only [mem_firsts]
    simpa using ih next

theorem find?_place (k : κ) (added : α) (items : List α) :
    (place key added items).find? (key · = k) =
      if key added = k then some added else items.find? (key · = k) := by
  induction items with
  | nil => by_cases same : key added = k <;> simp [place, same]
  | cons first rest ih =>
    unfold place
    by_cases same : key first = key added
    · rw [if_pos same]
      by_cases found : key added = k <;> simp [same, found]
    · rw [if_neg same, List.find?_cons, List.find?_cons, ih]
      by_cases found : key first = k
      · have other : key added ≠ k := fun equal => same (found.trans equal.symm)
        simp [found, other]
      · simp [found]

theorem find?_placeAll (k : κ) (items added : List α) :
    (placeAll key items added).find? (key · = k) =
      (added.reverse.find? (key · = k)).or (items.find? (key · = k)) := by
  induction added generalizing items with
  | nil => rfl
  | cons item rest ih =>
    rw [placeAll_cons, ih, find?_place, List.reverse_cons, List.find?_append, Option.or_assoc]
    by_cases found : key item = k <;> simp [found]

section Distinct

variable (distinct : (items.map key).Nodup)
include distinct

theorem find?_of_mem (mem : item ∈ items) : items.find? (key · = key item) = some item := by
  obtain ⟨found, first⟩ : ∃ found, items.find? (key · = key item) = some found :=
    Option.isSome_iff_exists.1 (List.find?_isSome.2 ⟨item, mem, by simp⟩)
  have same : key found = key item := by simpa using List.find?_some first
  rw [first, List.inj_on_of_nodup_map distinct (List.mem_of_find?_eq_some first) mem same]

theorem find?_reverse (k : κ) : items.reverse.find? (key · = k) = items.find? (key · = k) := by
  cases found : items.reverse.find? (key · = k) with
  | none =>
    rw [List.find?_eq_none] at found
    exact (List.find?_eq_none.2 fun item mem => found item (List.mem_reverse.2 mem)).symm
  | some item =>
    have mem := List.mem_reverse.1 (List.mem_of_find?_eq_some found)
    obtain rfl : key item = k := by simpa using List.find?_some found
    exact (find?_of_mem distinct mem).symm

end Distinct

end OpenApiCodegen
