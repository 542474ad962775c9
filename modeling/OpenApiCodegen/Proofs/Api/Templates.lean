import OpenApiCodegen.Api.PathTemplate
import OpenApiCodegen.Proofs.Text.Cuts

namespace OpenApiCodegen.Api.PathTemplate

open Text (cutAt)

theorem template_induction {motive : List Char → Prop} (done : motive [])
    (char : ∀ c rest, c ≠ '\x7b' → motive rest → motive (c :: rest))
    (placeholder : ∀ token rest, '\x7d' ∉ token → motive rest →
      motive ('\x7b' :: (token ++ '\x7d' :: rest)))
    (unclosed : ∀ token, '\x7d' ∉ token → motive ('\x7b' :: token)) (template : List Char) :
    motive template := by
  match template with
  | [] => exact done
  | c :: rest =>
    by_cases opens : c = '\x7b'
    · subst opens
      by_cases closed : '\x7d' ∈ rest
      · obtain ⟨token, after, rfl, outside⟩ := List.eq_append_cons_of_mem closed
        exact placeholder token after outside
          (template_induction done char placeholder unclosed after)
      · exact unclosed rest closed
    · exact char c rest opens (template_induction done char placeholder unclosed rest)
termination_by template.length

section Pieces

variable {before token rest template : List Char}

theorem pieces_plain (none : cutAt '\x7b' template = none) : pieces template = [.fixed template] := by
  rw [pieces]
  split
  · rfl
  · rename_i opened
    rw [none] at opened
    cases opened

theorem pieces_unclosed {after : List Char} (opened : cutAt '\x7b' template = some (before, after))
    (unclosed : cutAt '\x7d' after = none) : pieces template = [.fixed template] := by
  rw [pieces]
  split
  · rfl
  · rename_i before' after' opened'
    obtain ⟨rfl, rfl⟩ := Prod.mk.inj (Option.some.inj (opened.symm.trans opened'))
    split
    · rfl
    · rename_i closed
      rw [unclosed] at closed
      cases closed

theorem pieces_closed {after : List Char} (opened : cutAt '\x7b' template = some (before, after))
    (closed : cutAt '\x7d' after = some (token, rest)) :
    pieces template = .fixed before :: .placeholder token :: pieces rest := by
  rw [pieces]
  split
  · rename_i none
    rw [opened] at none
    cases none
  · rename_i before' after' opened'
    obtain ⟨rfl, rfl⟩ := Prod.mk.inj (Option.some.inj (opened.symm.trans opened'))
    split
    · rename_i none
      rw [closed] at none
      cases none
    · rename_i token' rest' closed'
      obtain ⟨rfl, rfl⟩ := Prod.mk.inj (Option.some.inj (closed.symm.trans closed'))
      rfl

end Pieces

theorem placeholder?_eq_some {part name : List Char} :
    placeholder? part = some name ↔ part = '\x7b' :: (name ++ ['\x7d']) := by
  constructor
  · intro found
    unfold placeholder? at found
    split at found
    · rename_i rest
      split at found
      · rename_i last
        obtain ⟨front, rfl⟩ := List.getLast?_eq_some_iff.1 last
        cases found
        simp
      · cases found
    · cases found
  · rintro rfl
    simp [placeholder?]

theorem placeholder_of_positionFrom? {name : List Char} {segment ordinal : Nat}
    {parts : List (List Char)} {position : Position}
    (found : positionFrom? name segment ordinal parts = some position) :
    ∃ index, position.segment = segment + index ∧
      parts[index]? = some ('\x7b' :: (name ++ ['\x7d'])) := by
  induction parts generalizing segment ordinal with
  | nil => cases found
  | cons part rest ih =>
    have later : ∀ {ordinal}, positionFrom? name (segment + 1) ordinal rest = some position →
        ∃ index, position.segment = segment + index ∧
          (part :: rest)[index]? = some ('\x7b' :: (name ++ ['\x7d'])) := by
      intro ordinal found
      obtain ⟨index, place, at_⟩ := ih found
      exact ⟨index + 1, by omega, by simpa using at_⟩
    unfold positionFrom? at found
    split at found
    · exact later found
    · rename_i token own
      split at found
      · rename_i same
        cases found
        exact ⟨0, rfl, by rw [List.getElem?_cons_zero, placeholder?_eq_some.1 own, same]⟩
      · exact later found

/-- Each opening brace is closed within its segment. -/
def BracesClosed : List Char → Prop
  | [] => True
  | c :: rest => (c = '\x7b' → '\x7d' ∈ rest.takeWhile (· != '/')) ∧ BracesClosed rest

instance BracesClosed.decide : (template : List Char) → Decidable (BracesClosed template)
  | [] => inferInstanceAs (Decidable True)
  | c :: rest =>
    have := BracesClosed.decide rest
    inferInstanceAs (Decidable ((c = '\x7b' → '\x7d' ∈ rest.takeWhile (· != '/')) ∧ BracesClosed rest))

section Closed

variable {token rest template : List Char}

theorem BracesClosed.append {before after : List Char} (closed : BracesClosed (before ++ after)) :
    BracesClosed after := by
  induction before with
  | nil => exact closed
  | cons c before ih => exact ih closed.2

theorem BracesClosed.slashless (closed : BracesClosed ('\x7b' :: (token ++ '\x7d' :: rest)))
    (outside : '\x7d' ∉ token) : '/' ∉ token := by
  intro slash
  obtain ⟨before, after, rfl, none⟩ := List.eq_append_cons_of_mem slash
  have inside := closed.1 rfl
  have ends : (before ++ '/' :: after ++ '\x7d' :: rest).takeWhile (· != '/') = before := by
    rw [List.append_assoc, List.takeWhile_append_of_pos fun c mem => ?_]
    · simp
    · exact bne_iff_ne.2 fun same => none (same ▸ mem)
  rw [ends] at inside
  exact outside (List.mem_append_left _ inside)

theorem BracesClosed.not_unclosed (closed : BracesClosed ('\x7b' :: token)) : '\x7d' ∈ token :=
  (List.takeWhile_sublist _).subset (closed.1 rfl)

/-- Templates of characters and of placeholders within their segments. -/
inductive Closed : List Char → Prop
  | done : Closed []
  | char {c : Char} {rest : List Char} : c ≠ '\x7b' → Closed rest → Closed (c :: rest)
  | placeholder {token rest : List Char} : '\x7d' ∉ token → '/' ∉ token → Closed rest →
      Closed ('\x7b' :: (token ++ '\x7d' :: rest))

theorem closed_of_bracesClosed (closed : BracesClosed template) : Closed template := by
  induction template using template_induction with
  | done => exact .done
  | char c rest plain ih => exact .char plain (ih closed.2)
  | placeholder token rest outside ih =>
    have after : BracesClosed ((token ++ ['\x7d']) ++ rest) := by
      simpa using closed.2
    exact .placeholder outside (closed.slashless outside) (ih after.append)
  | unclosed token outside => exact absurd closed.not_unclosed outside

end Closed

end OpenApiCodegen.Api.PathTemplate
