import Mathlib.Data.List.Basic
import OpenApiCodegen.Text.Basic

namespace OpenApiCodegen.Text

variable {c d : Char} {before after text : List Char}

theorem cutAt_cons (other : d ≠ c) (text : List Char) :
    cutAt c (d :: text) = (cutAt c text).map fun found => (d :: found.1, found.2) := by
  simp [cutAt, other]

theorem cutAt_append (outside : c ∉ before) :
    cutAt c (before ++ c :: after) = some (before, after) := by
  induction before with
  | nil => simp [cutAt]
  | cons d before ih =>
    have other : d ≠ c := fun same => outside (same ▸ List.mem_cons_self)
    have found := ih fun mem => outside (List.mem_cons_of_mem d mem)
    rw [List.cons_append, cutAt_cons other, found, Option.map_some]

theorem cutAt_eq_none : cutAt c text = none ↔ c ∉ text := by
  constructor
  · intro none mem
    obtain ⟨before, after, rfl, outside⟩ := List.eq_append_cons_of_mem mem
    rw [cutAt_append outside] at none
    cases none
  · intro outside
    induction text with
    | nil => rfl
    | cons d text ih =>
      have other : d ≠ c := fun same => outside (same ▸ List.mem_cons_self)
      rw [cutAt_cons other, ih fun mem => outside (List.mem_cons_of_mem d mem), Option.map_none]

theorem first_unique {before' after' : List Char} (outside : c ∉ before) (outside' : c ∉ before')
    (same : before ++ c :: after = before' ++ c :: after') : before = before' ∧ after = after' := by
  have cut : cutAt c (before ++ c :: after) = some (before, after) := cutAt_append outside
  rw [same, cutAt_append outside'] at cut
  simpa [eq_comm] using cut

theorem splitOn_ne_nil (c : Char) (text : List Char) : splitOn c text ≠ [] := by
  cases text with
  | nil => simp [splitOn]
  | cons d text =>
    unfold splitOn
    split
    · simp
    · split
      · simp
      · simp

theorem splitOn_cons_self (c : Char) (text : List Char) :
    splitOn c (c :: text) = [] :: splitOn c text := by
  obtain ⟨piece, pieces, same⟩ := List.exists_cons_of_ne_nil (splitOn_ne_nil c text)
  simp [splitOn, same]

theorem splitOn_append (outside : c ∉ before) (text : List Char) :
    splitOn c (before ++ text) = (splitOn c text).modifyHead (before ++ ·) := by
  induction before with
  | nil =>
    rw [List.nil_append]
    cases splitOn c text <;> rfl
  | cons d before ih =>
    have other : d ≠ c := fun same => outside (same ▸ List.mem_cons_self)
    have rest := ih fun mem => outside (List.mem_cons_of_mem d mem)
    obtain ⟨piece, pieces, same⟩ := List.exists_cons_of_ne_nil (splitOn_ne_nil c text)
    simp [splitOn, rest, same, other]

theorem splitOn_append_cons (c : Char) (text rest : List Char) :
    splitOn c (text ++ c :: rest) = splitOn c text ++ splitOn c rest := by
  induction text with
  | nil => exact splitOn_cons_self c rest
  | cons d text ih =>
    obtain ⟨piece, pieces, split⟩ := List.exists_cons_of_ne_nil (splitOn_ne_nil c text)
    rw [split, List.cons_append] at ih
    rw [List.cons_append]
    simp only [splitOn, split, ih]
    split <;> rfl

theorem splitOn_eq_singleton (outside : c ∉ text) : splitOn c text = [text] := by
  have alone := splitOn_append outside []
  rw [List.append_nil] at alone
  simpa [splitOn] using alone

theorem outside_of_mem_splitOn {piece : List Char} (mem : piece ∈ splitOn c text) : c ∉ piece := by
  induction text generalizing piece with
  | nil =>
    obtain rfl := List.mem_singleton.1 mem
    exact List.not_mem_nil
  | cons d text ih =>
    obtain ⟨first, pieces, split⟩ := List.exists_cons_of_ne_nil (splitOn_ne_nil c text)
    by_cases same : d = c
    · subst same
      rw [splitOn_cons_self] at mem
      rcases List.mem_cons.1 mem with rfl | later
      · exact List.not_mem_nil
      · exact ih later
    · simp only [splitOn, split, if_neg same] at mem
      rcases List.mem_cons.1 mem with rfl | later
      · have rest : c ∉ first := ih (split ▸ List.mem_cons_self)
        simpa [Ne.symm same] using rest
      · exact ih (split ▸ List.mem_cons_of_mem first later)

theorem joinWith_cons {pieces : List (List Char)} (separator piece : List Char) (more : pieces ≠ []) :
    joinWith separator (piece :: pieces) = piece ++ separator ++ joinWith separator pieces := by
  cases pieces with
  | nil => exact absurd rfl more
  | cons other pieces => rfl

theorem mem_joinWith {separator : List Char} {pieces : List (List Char)}
    (mem : c ∈ joinWith separator pieces) : c ∈ separator ∨ ∃ piece ∈ pieces, c ∈ piece := by
  induction pieces with
  | nil => cases mem
  | cons piece pieces ih =>
    by_cases more : pieces = []
    · subst more
      exact .inr ⟨piece, List.mem_cons_self, mem⟩
    · rw [joinWith_cons _ _ more, List.append_assoc, List.mem_append, List.mem_append] at mem
      rcases mem with here | between | later
      · exact .inr ⟨piece, List.mem_cons_self, here⟩
      · exact .inl between
      · obtain found | ⟨other, listed, inside⟩ := ih later
        · exact .inl found
        · exact .inr ⟨other, List.mem_cons_of_mem _ listed, inside⟩

theorem joinWith_splitOn (c : Char) (text : List Char) : joinWith [c] (splitOn c text) = text := by
  induction text with
  | nil => rfl
  | cons d text ih =>
    by_cases same : d = c
    · subst same
      rw [splitOn_cons_self, joinWith_cons _ _ (splitOn_ne_nil d text), ih]
      rfl
    · have outside : c ∉ [d] := by simpa using Ne.symm same
      have apart := splitOn_append outside text
      rw [List.singleton_append] at apart
      rw [apart]
      obtain ⟨piece, pieces, split⟩ := List.exists_cons_of_ne_nil (splitOn_ne_nil c text)
      rw [split] at ih ⊢
      cases pieces with
      | nil => simpa [joinWith] using ih
      | cons next pieces => simpa [joinWith] using ih

theorem splitOn_joinWith {pieces : List (List Char)} (nonempty : pieces ≠ [])
    (outside : ∀ piece ∈ pieces, c ∉ piece) : splitOn c (joinWith [c] pieces) = pieces := by
  induction pieces with
  | nil => exact absurd rfl nonempty
  | cons piece pieces ih =>
    have first := outside piece List.mem_cons_self
    by_cases more : pieces = []
    · subst more
      exact splitOn_eq_singleton first
    · have rest := ih more fun other mem => outside other (List.mem_cons_of_mem _ mem)
      rw [joinWith_cons _ _ more, List.append_assoc, splitOn_append first, List.singleton_append,
        splitOn_cons_self, rest]
      simp

theorem joinWith_injective {pieces others : List (List Char)}
    (plain : ∀ piece ∈ pieces, piece ≠ [] ∧ c ∉ piece) (plain' : ∀ piece ∈ others, piece ≠ [] ∧ c ∉ piece)
    (same : joinWith [c] pieces = joinWith [c] others) : pieces = others := by
  have nonempty : ∀ {pieces : List (List Char)}, (∀ piece ∈ pieces, piece ≠ [] ∧ c ∉ piece) →
      joinWith [c] pieces = [] → pieces = [] := by
    intro pieces plain empty
    cases pieces with
    | nil => rfl
    | cons piece pieces =>
      have first := (plain piece List.mem_cons_self).1
      cases pieces <;> simp [joinWith, first] at empty
  by_cases none : pieces = []
  · subst none
    exact (nonempty plain' same.symm).symm
  · have some : others ≠ [] := by
      rintro rfl
      exact none (nonempty plain same)
    rw [← splitOn_joinWith none fun piece mem => (plain piece mem).2, same,
      splitOn_joinWith some fun piece mem => (plain' piece mem).2]

theorem dropStart?_append (start rest : List Char) :
    dropStart? start (start ++ rest) = some rest := by
  induction start with
  | nil => rfl
  | cons c start ih => simpa [dropStart?] using ih

@[simp] theorem withoutStart_append (start rest : String) : withoutStart start (start ++ rest) = rest := by
  simp [withoutStart, dropStart?_append]

end OpenApiCodegen.Text
