import OpenApiCodegen.Proofs.Api.RequestPaths

namespace OpenApiCodegen.Api.PathTemplate

/-- The characters that mean something else in a regular expression, unless there is a backslash. -/
def metacharacters : List Char :=
  ['^', '$', '\\', '.', '*', '+', '?', '(', ')', '[', ']', '\x7b', '\x7d', '|']

/-- The texts of a regular expression without its anchors. A backslash makes the next character literal,
and what is no segment stands for itself. -/
inductive Denotes : (body text : List Char) → Prop
  | done : Denotes [] []
  | escaped {c : Char} {body text : List Char} :
      Denotes body text → Denotes ('\\' :: c :: body) (c :: text)
  | segment {body value text : List Char} :
      value ≠ [] → '/' ∉ value → Denotes body text → Denotes (segmentPattern ++ body) (value ++ text)
  | plain {c : Char} {body text : List Char} :
      c ≠ '\\' → ¬ segmentPattern <+: c :: body → Denotes body text → Denotes (c :: body) (c :: text)

/-- The pattern is anchored, and what stands between the anchors denotes the text. -/
def Matches (pattern text : String) : Prop :=
  ∃ body, pattern.toList = '^' :: (body ++ ['$']) ∧ Denotes body text.toList

/-- Metacharacters only occur behind a backslash or in segments, and nothing else has a backslash. -/
inductive Inert : (body : List Char) → Prop
  | done : Inert []
  | escaped {c : Char} {body : List Char} : c ∈ metacharacters → Inert body → Inert ('\\' :: c :: body)
  | segment {body : List Char} : Inert body → Inert (segmentPattern ++ body)
  | plain {c : Char} {body : List Char} : c ∉ metacharacters → Inert body → Inert (c :: body)

section Readings

variable {c : Char} {body text : List Char}

theorem denotes_nil : Denotes [] text ↔ text = [] := by
  constructor
  · intro denotes
    cases denotes
    rfl
  · rintro rfl
    exact .done

theorem denotes_escaped :
    Denotes ('\\' :: c :: body) text ↔ ∃ after, text = c :: after ∧ Denotes body after := by
  constructor
  · intro denotes
    cases denotes with
    | escaped after => exact ⟨_, rfl, after⟩
    | plain unescaped => exact absurd rfl unescaped
  · rintro ⟨after, rfl, denotes⟩
    exact .escaped denotes

theorem denotes_segment : Denotes (segmentPattern ++ body) text ↔
    ∃ value after, value ≠ [] ∧ '/' ∉ value ∧ text = value ++ after ∧ Denotes body after := by
  constructor
  · intro denotes
    generalize same : segmentPattern ++ body = whole at denotes
    cases denotes with
    | done => cases same
    | escaped => cases same
    | segment nonempty slashless after =>
      obtain rfl := List.append_cancel_left same
      exact ⟨_, _, nonempty, slashless, rfl, after⟩
    | plain _ noSegment => exact absurd ⟨body, same⟩ noSegment
  · rintro ⟨value, after, nonempty, slashless, rfl, denotes⟩
    exact .segment nonempty slashless denotes

theorem ne_of_literal (literal : c ∉ metacharacters) : c ≠ '\\' ∧ c ≠ '[' := by
  constructor
  · rintro rfl
    exact literal (by decide)
  · rintro rfl
    exact literal (by decide)

theorem denotes_plain (literal : c ∉ metacharacters) :
    Denotes (c :: body) text ↔ ∃ after, text = c :: after ∧ Denotes body after := by
  obtain ⟨unescaped, noBracket⟩ := ne_of_literal literal
  constructor
  · intro denotes
    generalize same : c :: body = whole at denotes
    cases denotes with
    | done => cases same
    | escaped => exact absurd (List.cons.inj same).1 unescaped
    | segment => exact absurd (List.cons.inj same).1 noBracket
    | plain _ _ after =>
      obtain ⟨rfl, rfl⟩ := List.cons.inj same
      exact ⟨_, rfl, after⟩
  · rintro ⟨after, rfl, denotes⟩
    refine .plain unescaped ?_ denotes
    rintro ⟨rest, same⟩
    exact noBracket (List.cons.inj same).1.symm

theorem fits_readAtoms (inert : Inert body) : fits (readAtoms body) text = true ↔ Denotes body text := by
  induction inert generalizing text with
  | done => rw [readAtoms, fits_nil, denotes_nil]
  | escaped _ _ ih =>
    rw [readAtoms, fits_char, denotes_escaped]
    simp only [ih]
  | @segment body _ ih =>
    have read : readAtoms (segmentPattern ++ body) = .segment :: readAtoms body := rfl
    rw [read, fits_segment, denotes_segment]
    simp only [ih]
  | plain literal _ ih =>
    obtain ⟨unescaped, noBracket⟩ := ne_of_literal literal
    rw [readAtoms_plain unescaped noBracket, fits_char, denotes_plain literal]
    simp only [ih]

end Readings

theorem mem_metacharacters {c : Char} : c ∈ metacharacters ↔ c = '\x7b' ∨ c ∈ patternSpecials := by
  have split : metacharacters ⊆ '\x7b' :: patternSpecials := by decide
  have escaped : '\x7b' :: patternSpecials ⊆ metacharacters := by decide
  rw [← List.mem_cons]
  exact ⟨fun mem => split mem, fun mem => escaped mem⟩

theorem inert_patternFrom (template : List Char) : Inert (patternFrom false template) := by
  induction template using template_induction with
  | done => exact .done
  | char c rest plain ih =>
    rw [patternFrom, if_neg plain]
    by_cases special : c ∈ patternSpecials
    · rw [if_pos special]
      exact .escaped (mem_metacharacters.2 (.inr special)) ih
    · rw [if_neg special]
      exact .plain (mt mem_metacharacters.1 (not_or.2 ⟨plain, special⟩)) ih
  | placeholder token rest outside ih =>
    rw [patternFrom, if_pos rfl, patternFrom_token outside]
    exact .segment ih
  | unclosed token outside =>
    have ends := patternFrom_token outside []
    rw [List.append_nil] at ends
    rw [patternFrom, if_pos rfl, ends]
    exact .segment .done

/-- The texts of the pattern are the request paths of the template, and no character of the template is
active in it. -/
theorem matches_pattern (path : String) :
    (∃ body, (pattern path).toList = '^' :: (body ++ ['$']) ∧ Inert body) ∧
      ∀ request : String, Matches (pattern path) request ↔ Requests path.toList request.toList := by
  have anchored : (pattern path).toList = '^' :: (patternFrom false path.toList ++ ['$']) := by
    simp [pattern]
  refine ⟨⟨_, anchored, inert_patternFrom _⟩, fun request => ?_⟩
  rw [← fits_atomsOf, atomsOf, fits_readAtoms (inert_patternFrom _)]
  constructor
  · rintro ⟨body, same, denotes⟩
    rw [anchored, List.cons.injEq, List.append_cancel_right_eq] at same
    exact same.2 ▸ denotes
  · exact fun denotes => ⟨_, anchored, denotes⟩

example : pattern "/users/{id}/v1.0" = "^/users/[^/]+/v1\\.0$" := by decide

end OpenApiCodegen.Api.PathTemplate
