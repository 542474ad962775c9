import OpenApiCodegen.Proofs.Api.Templates

namespace OpenApiCodegen.Api.PathTemplate

open Text (splitOn cutAt cutAt_cons cutAt_append cutAt_eq_none splitOn_append splitOn_cons_self)

variable {β : Type} {c : Char} {before token rest template : List Char}

theorem pieces_char (plain : c ≠ '\x7b') (rest : List Char) :
    ∃ text more, pieces rest = .fixed text :: more ∧ pieces (c :: rest) = .fixed (c :: text) :: more := by
  have cut := cutAt_cons plain rest
  cases opened : cutAt '\x7b' rest with
  | none =>
    have opened' : cutAt '\x7b' (c :: rest) = none := by rw [cut, opened, Option.map_none]
    exact ⟨rest, [], pieces_plain opened, pieces_plain opened'⟩
  | some found =>
    obtain ⟨before, after⟩ := found
    have opened' : cutAt '\x7b' (c :: rest) = some (c :: before, after) := by
      rw [cut, opened, Option.map_some]
    cases closed : cutAt '\x7d' after with
    | none => exact ⟨rest, [], pieces_unclosed opened closed, pieces_unclosed opened' closed⟩
    | some found =>
      exact ⟨before, _, pieces_closed opened closed, pieces_closed opened' closed⟩

theorem pieces_placeholder (outside : '\x7d' ∉ token) (rest : List Char) :
    pieces ('\x7b' :: (token ++ '\x7d' :: rest)) = .fixed [] :: .placeholder token :: pieces rest := by
  have opened : cutAt '\x7b' ('\x7b' :: (token ++ '\x7d' :: rest)) =
      some ([], token ++ '\x7d' :: rest) := by
    simp [cutAt]
  exact pieces_closed opened (cutAt_append outside)

theorem pieces_open (unclosed : '\x7d' ∉ token) :
    pieces ('\x7b' :: token) = [.fixed ('\x7b' :: token)] := by
  have opened : cutAt '\x7b' ('\x7b' :: token) = some ([], token) := by
    simp [cutAt]
  exact pieces_unclosed opened (cutAt_eq_none.2 unclosed)

def gather (f : Piece → List β) (template : List Char) : List β :=
  (pieces template).flatMap f

def CharWise (f : Piece → List β) : Prop :=
  f (.fixed []) = [] ∧ ∀ c text, f (.fixed (c :: text)) = f (.fixed [c]) ++ f (.fixed text)

section Gather

variable {f : Piece → List β}

theorem gather_nil (charWise : CharWise f) : gather f [] = [] := by
  rw [gather, pieces_plain rfl]
  simp [charWise.1]

theorem gather_char (charWise : CharWise f) (plain : c ≠ '\x7b') (rest : List Char) :
    gather f (c :: rest) = f (.fixed [c]) ++ gather f rest := by
  obtain ⟨text, more, here, there⟩ := pieces_char plain rest
  rw [gather, gather, here, there, List.flatMap_cons, List.flatMap_cons, charWise.2, List.append_assoc]

theorem gather_placeholder (charWise : CharWise f) (outside : '\x7d' ∉ token) (rest : List Char) :
    gather f ('\x7b' :: (token ++ '\x7d' :: rest)) = f (.placeholder token) ++ gather f rest := by
  rw [gather, pieces_placeholder outside, List.flatMap_cons, List.flatMap_cons, charWise.1]
  rfl

theorem gather_append (charWise : CharWise f) (closed : Closed before) (rest : List Char) :
    gather f (before ++ rest) = gather f before ++ gather f rest := by
  induction closed with
  | done => rw [gather_nil charWise]; rfl
  | char plain _ ih =>
    rw [List.cons_append, gather_char charWise plain, gather_char charWise plain, ih, List.append_assoc]
  | placeholder outside _ _ ih =>
    rw [List.cons_append, List.append_assoc, List.cons_append, gather_placeholder charWise outside,
      gather_placeholder charWise outside, ih, List.append_assoc]

theorem gather_segments_append (charWise : CharWise f) (closed : Closed before)
    (slashless : '/' ∉ before) (rest : List Char) :
    (splitOn '/' (before ++ rest)).flatMap (gather f) =
      gather f before ++ (splitOn '/' rest).flatMap (gather f) := by
  rw [splitOn_append slashless]
  obtain ⟨segment, segments, split⟩ := List.exists_cons_of_ne_nil (Text.splitOn_ne_nil '/' rest)
  rw [split, List.modifyHead_cons, List.flatMap_cons, List.flatMap_cons,
    gather_append charWise closed, List.append_assoc]

theorem gather_segments (charWise : CharWise f) (slash : f (.fixed ['/']) = [])
    (closed : Closed template) : gather f template = (splitOn '/' template).flatMap (gather f) := by
  induction closed with
  | done => rw [splitOn, List.flatMap_singleton]
  | @char c rest plain _ ih =>
    -- a slash opens a segment, any other character belongs to the one that is open
    by_cases same : c = '/'
    · subst same
      rw [gather_char charWise plain, splitOn_cons_self, List.flatMap_cons, gather_nil charWise, slash, ih]
    · have slashless : '/' ∉ [c] := by simpa using Ne.symm same
      have apart := gather_segments_append charWise (.char plain .done) slashless rest
      rw [List.singleton_append] at apart
      rw [apart, ← ih, ← gather_append charWise (.char plain .done), List.singleton_append]
  | @placeholder token rest outside without _ ih =>
    have alone : Closed ('\x7b' :: (token ++ ['\x7d'])) := .placeholder outside without .done
    have slashless : '/' ∉ '\x7b' :: (token ++ ['\x7d']) := by simp [without]
    have same : '\x7b' :: (token ++ '\x7d' :: rest) = '\x7b' :: (token ++ ['\x7d']) ++ rest := by simp
    rw [same, gather_segments_append charWise alone slashless, ← ih, gather_append charWise alone]

end Gather

def Piece.tokens : Piece → List (List Char)
  | .fixed _ => []
  | .placeholder token => [token]

def isBrace (c : Char) : Bool :=
  c = '\x7b' || c = '\x7d'

def Piece.braces : Piece → List Char
  | .fixed text => text.filter isBrace
  | .placeholder _ => []

def placeholders (template : List Char) : List (List Char) :=
  gather Piece.tokens template

def strayBraces (template : List Char) : List Char :=
  gather Piece.braces template

theorem charWise_tokens : CharWise Piece.tokens :=
  ⟨rfl, fun _ _ => rfl⟩

theorem charWise_braces : CharWise Piece.braces := by
  refine ⟨rfl, fun c text => ?_⟩
  show ([c] ++ text).filter isBrace = _
  exact List.filter_append [c] text

theorem Closed.append (closed : Closed before) (after : Closed rest) : Closed (before ++ rest) := by
  induction closed with
  | done => exact after
  | char plain _ ih => exact .char plain ih
  | placeholder outside slashless _ ih =>
    rw [List.cons_append, List.append_assoc, List.cons_append]
    exact .placeholder outside slashless ih

theorem closed_of_segments (closed : ∀ segment ∈ splitOn '/' template, Closed segment) :
    Closed template := by
  rw [← Text.joinWith_splitOn '/' template]
  generalize splitOn '/' template = segments at closed
  induction segments with
  | nil => exact .done
  | cons segment segments ih =>
    have first := closed segment List.mem_cons_self
    by_cases more : segments = []
    · subst more
      exact first
    · have rest := ih fun other mem => closed other (List.mem_cons_of_mem _ mem)
      rw [Text.joinWith_cons _ _ more]
      exact (first.append (.char (by decide) .done)).append rest

theorem closed_of_noStray (noStray : strayBraces template = [])
    (slashless : ∀ name ∈ placeholders template, '/' ∉ name) : Closed template := by
  induction template using template_induction with
  | done => exact .done
  | char c rest plain ih =>
    rw [strayBraces, gather_char charWise_braces plain, List.append_eq_nil_iff] at noStray
    rw [placeholders, gather_char charWise_tokens plain] at slashless
    exact .char plain (ih noStray.2 slashless)
  | placeholder token rest outside ih =>
    rw [strayBraces, gather_placeholder charWise_braces outside] at noStray
    rw [placeholders, gather_placeholder charWise_tokens outside] at slashless
    apply Closed.placeholder outside
    · exact slashless token List.mem_cons_self
    · exact ih noStray fun name mem => slashless name (List.mem_cons_of_mem _ mem)
  | unclosed token outside =>
    rw [strayBraces, gather, pieces_open outside] at noStray
    simp [Piece.braces, isBrace] at noStray

theorem strayBraces_of_placeholders (none : placeholders template = []) :
    strayBraces template = template.filter isBrace := by
  induction template using template_induction with
  | done => exact gather_nil charWise_braces
  | char c rest plain ih =>
    rw [placeholders, gather_char charWise_tokens plain] at none
    have later : strayBraces rest = rest.filter isBrace := ih none
    rw [strayBraces] at later ⊢
    rw [gather_char charWise_braces plain, later, Piece.braces, ← List.filter_append,
      List.singleton_append]
  | placeholder token rest outside ih =>
    rw [placeholders, gather_placeholder charWise_tokens outside] at none
    cases none
  | unclosed token outside =>
    rw [strayBraces, gather, pieces_open outside]
    exact List.flatMap_singleton _ _

end OpenApiCodegen.Api.PathTemplate
