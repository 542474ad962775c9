import OpenApiCodegen.Proofs.Api.Placeholders
import OpenApiCodegen.Proofs.WebClient.RequestUrls

namespace OpenApiCodegen.WebClient

open Api (Parameter)
open Api.PathTemplate
open Text (first_unique)

/-- Read from the left, a token stands between an opening brace and the next closing one, with `before` and
`after` around the braces. A brace that is never closed opens nothing. -/
inductive Scanned : (template before token after : List Char) → Prop
  | here {token after : List Char} : '\x7d' ∉ token →
      Scanned ('\x7b' :: (token ++ '\x7d' :: after)) [] token after
  | char {c : Char} {template before token after : List Char} : c ≠ '\x7b' →
      Scanned template before token after → Scanned (c :: template) (c :: before) token after
  | past {other template before token after : List Char} : '\x7d' ∉ other →
      Scanned template before token after →
      Scanned ('\x7b' :: (other ++ '\x7d' :: template)) ('\x7b' :: (other ++ '\x7d' :: before)) token after

def Url.parts : Url → List UrlPart
  | .plain path => [.fixed path]
  | .template parts => parts

def spelled (parts : List UrlPart) : List Char :=
  parts.flatMap (UrlPart.text braced)

/-- The parts are the template, cut at the tokens that name path parameters. -/
structure Reproduces (parameters : List Parameter) (template : List Char) (parts : List UrlPart) : Prop where
  text : spelled parts = template
  values : ∀ front parameter back, parts = front ++ .value parameter :: back →
    parameter ∈ parameters ∧ parameter.location = .path ∧
      Scanned template (spelled front) parameter.wireName.toList (spelled back)
  tokens : ∀ before token after, Scanned template before token after →
    ((∃ front parameter back, parts = front ++ .value parameter :: back ∧ spelled front = before) ↔
      ∃ parameter ∈ parameters, parameter.location = .path ∧ parameter.wireName.toList = token)

variable {parameters : List Parameter} {pending template before token after other rest text : List Char}
  {front back parts : List UrlPart} {parameter : Parameter} {c : Char}

namespace Scanned

theorem of_placeholder (outside : '\x7d' ∉ other)
    (scanned : Scanned ('\x7b' :: (other ++ '\x7d' :: template)) before token after) :
    (before = [] ∧ token = other) ∨ ∃ inner, before = '\x7b' :: (other ++ '\x7d' :: inner) ∧
      Scanned template inner token after := by
  generalize whole : '\x7b' :: (other ++ '\x7d' :: template) = text at scanned
  cases scanned with
  | here outside' => exact .inl ⟨rfl, (first_unique outside' outside (List.cons.inj whole.symm).2).1⟩
  | char plain => exact absurd (List.cons.inj whole).1.symm plain
  | past outside' scanned =>
    obtain ⟨rfl, rfl⟩ := first_unique outside outside' (List.cons.inj whole).2
    exact .inr ⟨_, rfl, scanned⟩

theorem token_unique {token' after' : List Char} (scanned : Scanned template before token after)
    (scanned' : Scanned template before token' after') : token' = token := by
  induction scanned with
  | here outside =>
    rcases scanned'.of_placeholder outside with ⟨-, same⟩ | ⟨inner, impossible, -⟩
    · exact same
    · cases impossible
  | char plain _ ih =>
    cases scanned' with
    | char _ scanned' => exact ih scanned'
    | past => exact absurd rfl plain
  | past outside _ ih =>
    rcases scanned'.of_placeholder outside with ⟨impossible, -⟩ | ⟨inner, same, scanned'⟩
    · cases impossible
    · obtain rfl := (List.cons.inj (List.append_cancel_left (List.cons.inj same).2)).2
      exact ih scanned'

end Scanned

section Scanning

theorem urlParts_char (plain : c ≠ '\x7b') :
    urlParts parameters pending (pieces (c :: rest)) =
      urlParts parameters (pending ++ [c]) (pieces rest) := by
  obtain ⟨text, more, here, there⟩ := pieces_char plain rest
  rw [here, there, urlParts, urlParts, List.append_assoc, List.singleton_append]

theorem urlParts_value (outside : '\x7d' ∉ token) (known : pathParameter? parameters token = some parameter) :
    urlParts parameters pending (pieces ('\x7b' :: (token ++ '\x7d' :: rest))) =
      .fixed (String.ofList pending) :: .value parameter :: urlParts parameters [] (pieces rest) := by
  rw [pieces_placeholder outside, urlParts, urlParts, known, List.append_nil]

theorem urlParts_unknown (outside : '\x7d' ∉ token) (unknown : pathParameter? parameters token = none) :
    urlParts parameters pending (pieces ('\x7b' :: (token ++ '\x7d' :: rest))) =
      urlParts parameters (pending ++ '\x7b' :: token ++ ['\x7d']) (pieces rest) := by
  rw [pieces_placeholder outside, urlParts, urlParts, unknown, List.append_nil]

theorem spelled_fixed : spelled (.fixed (String.ofList text) :: parts) = text ++ spelled parts := by
  rw [spelled, List.flatMap_cons, UrlPart.text, String.toList_ofList]
  rfl

theorem spelled_value :
    spelled (.value parameter :: parts) = '\x7b' :: (parameter.wireName.toList ++ '\x7d' :: spelled parts) := by
  rw [spelled, List.flatMap_cons, UrlPart.text, braced]
  simp [spelled]

theorem spelled_urlParts (template : List Char) :
    spelled (urlParts parameters pending (pieces template)) = pending ++ template := by
  rw [spelled, text_urlParts]
  exact congrArg (pending ++ ·) (filled_braced parameters template)

theorem ne_of_fixed (fixed : parts = [] ∨ ∃ text, parts = [.fixed text]) :
    parts ≠ front ++ .value parameter :: back := by
  rintro rfl
  rcases fixed with none | ⟨text, one⟩
  · simp at none
  · rcases front with _ | ⟨first, front⟩ <;> simp at one

theorem urlParts_fixed (pending : List Char) :
    urlParts parameters pending [.fixed text] = [] ∨
      ∃ whole, urlParts parameters pending [.fixed text] = [.fixed whole] := by
  rw [urlParts, urlParts]
  split
  · exact .inl rfl
  · exact .inr ⟨_, rfl⟩

/-- By induction on the template, with any fixed text that is still to be written. -/
theorem scanned_of_value
    (split : urlParts parameters pending (pieces template) = front ++ .value parameter :: back) :
    ∃ before, spelled front = pending ++ before ∧
      pathParameter? parameters parameter.wireName.toList = some parameter ∧
        Scanned template before parameter.wireName.toList (spelled back) := by
  induction template using template_induction generalizing pending front with
  | done =>
    rw [pieces_plain rfl] at split
    exact absurd split (ne_of_fixed (urlParts_fixed pending))
  | char c rest plain ih =>
    rw [urlParts_char plain] at split
    obtain ⟨before, written, known, scanned⟩ := ih split
    exact ⟨c :: before, by rw [written, List.append_assoc, List.singleton_append], known, .char plain scanned⟩
  | unclosed token outside =>
    rw [pieces_open outside] at split
    exact absurd split (ne_of_fixed (urlParts_fixed pending))
  | placeholder token rest outside ih =>
    cases found : pathParameter? parameters token with
    | none =>
      rw [urlParts_unknown outside found] at split
      obtain ⟨before, written, known, scanned⟩ := ih split
      exact ⟨'\x7b' :: (token ++ '\x7d' :: before), by simp [written], known, .past outside scanned⟩
    | some own =>
      have name := (name_of_pathParameter? found).2.2
      rw [urlParts_value outside found] at split
      rcases front with _ | ⟨first, _ | ⟨second, front⟩⟩
      · cases split
      · obtain ⟨rfl, rest'⟩ := List.cons.inj split
        obtain ⟨same, rfl⟩ := List.cons.inj rest'
        cases same
        refine ⟨[], by rw [spelled_fixed]; rfl, name ▸ found, ?_⟩
        rw [name, spelled_urlParts, List.nil_append]
        exact .here outside
      · obtain ⟨rfl, rest'⟩ := List.cons.inj split
        obtain ⟨rfl, later⟩ := List.cons.inj rest'
        obtain ⟨before, written, known, scanned⟩ := ih later
        refine ⟨'\x7b' :: (token ++ '\x7d' :: before), ?_, known, .past outside scanned⟩
        rw [spelled_fixed, spelled_value, written, name, List.nil_append]

theorem value_of_scanned (scanned : Scanned template before token after)
    (known : pathParameter? parameters token = some parameter) (pending : List Char) :
    ∃ front back, urlParts parameters pending (pieces template) = front ++ .value parameter :: back ∧
      spelled front = pending ++ before := by
  induction scanned generalizing pending with
  | here outside =>
    refine ⟨[.fixed (String.ofList pending)], _, urlParts_value outside known, ?_⟩
    rw [spelled_fixed]
    rfl
  | @char c _ before _ _ plain _ ih =>
    obtain ⟨front, back, split, written⟩ := ih known (pending ++ [c])
    exact ⟨front, back, by rw [urlParts_char plain, split], by simp [written]⟩
  | @past other _ before _ _ outside _ ih =>
    cases found : pathParameter? parameters other with
    | none =>
      obtain ⟨front, back, split, written⟩ := ih known (pending ++ '\x7b' :: other ++ ['\x7d'])
      exact ⟨front, back, by rw [urlParts_unknown outside found, split], by simp [written]⟩
    | some own =>
      obtain ⟨front, back, split, written⟩ := ih known []
      refine ⟨.fixed (String.ofList pending) :: .value own :: front, back, ?_, ?_⟩
      · rw [urlParts_value outside found, split, List.cons_append, List.cons_append]
      · rw [spelled_fixed, spelled_value, written, (name_of_pathParameter? found).2.2, List.nil_append]

end Scanning

theorem exists_pathParameter? (mem : parameter ∈ parameters) (path : parameter.location = .path) :
    ∃ found, pathParameter? parameters parameter.wireName.toList = some found := by
  refine Option.isSome_iff_exists.1 (List.find?_isSome.2 ⟨parameter, mem, ?_⟩)
  simp [path]

theorem reproduces_urlParts (parameters : List Parameter) (template : List Char) :
    Reproduces parameters template (urlParts parameters [] (pieces template)) := by
  have values : ∀ front parameter back,
      urlParts parameters [] (pieces template) = front ++ .value parameter :: back →
      parameter ∈ parameters ∧ parameter.location = .path ∧
        Scanned template (spelled front) parameter.wireName.toList (spelled back) := by
    intro front parameter back split
    obtain ⟨before, written, known, scanned⟩ := scanned_of_value split
    obtain ⟨mem, path, -⟩ := name_of_pathParameter? known
    exact ⟨mem, path, by rwa [written, List.nil_append]⟩
  refine ⟨by rw [spelled_urlParts, List.nil_append], values, fun before token after scanned => ⟨?_, ?_⟩⟩
  · rintro ⟨front, parameter, back, split, rfl⟩
    obtain ⟨mem, path, here⟩ := values front parameter back split
    exact ⟨parameter, mem, path, scanned.token_unique here⟩
  · rintro ⟨parameter, mem, path, rfl⟩
    obtain ⟨found, known⟩ := exists_pathParameter? mem path
    obtain ⟨front, back, split, written⟩ := value_of_scanned scanned known []
    exact ⟨front, found, back, split, written⟩

theorem urlParts_plain (plain : (urlParts parameters pending (pieces template)).any UrlPart.isValue = false) :
    urlParts parameters pending (pieces template) =
      if (pending ++ template).isEmpty then [] else [.fixed (String.ofList (pending ++ template))] := by
  induction template using template_induction generalizing pending with
  | done => rw [pieces_plain rfl, urlParts, urlParts]
  | char c rest other ih =>
    rw [urlParts_char other] at plain ⊢
    rw [ih plain, List.append_assoc, List.singleton_append]
  | unclosed token outside => rw [pieces_open outside, urlParts, urlParts]
  | placeholder token rest outside ih =>
    cases found : pathParameter? parameters token with
    | none =>
      rw [urlParts_unknown outside found] at plain ⊢
      rw [ih plain]
      simp only [List.append_assoc, List.cons_append, List.nil_append]
    | some own =>
      rw [urlParts_value outside found] at plain
      cases plain

/-- For every path, what scanning finds is the path again and has its values in the right places, and the URL
is made of it. -/
theorem url_reproduces (path : String) (parameters : List Parameter) :
    Reproduces parameters path.toList (url path parameters).parts ∧
      ((url path parameters).parts = urlParts parameters [] (pieces path.toList) ∨
        path = "" ∧ urlParts parameters [] (pieces path.toList) = []) := by
  have scan := reproduces_urlParts parameters path.toList
  unfold url
  dsimp only
  split
  · exact ⟨scan, .inl rfl⟩
  · rename_i plain
    have fixed := urlParts_plain (Bool.eq_false_iff.2 plain)
    rw [List.nil_append, String.ofList_toList] at fixed
    by_cases empty : path = ""
    · subst empty
      refine ⟨⟨rfl, ?_, ?_⟩, .inr ⟨rfl, fixed⟩⟩
      · exact fun front parameter back split => absurd split (ne_of_fixed (.inr ⟨_, rfl⟩))
      · intro before token after scanned
        cases scanned
    · rw [if_neg (by simpa using empty)] at fixed
      rw [Url.parts, ← fixed]
      exact ⟨scan, .inl rfl⟩

end OpenApiCodegen.WebClient
