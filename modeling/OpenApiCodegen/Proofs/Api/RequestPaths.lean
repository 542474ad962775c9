import OpenApiCodegen.Proofs.Api.Templates

namespace OpenApiCodegen.Api.PathTemplate

/-- A request path of a template has something without a slash for each placeholder. One that is not
closed reaches to the end. -/
inductive Requests : (template request : List Char) → Prop
  | done : Requests [] []
  | char {c : Char} {rest request : List Char} :
      c ≠ '\x7b' → Requests rest request → Requests (c :: rest) (c :: request)
  | placeholder {token rest value request : List Char} :
      '\x7d' ∉ token → value ≠ [] → '/' ∉ value → Requests rest request →
      Requests ('\x7b' :: (token ++ '\x7d' :: rest)) (value ++ request)
  | unclosed {token value : List Char} :
      '\x7d' ∉ token → value ≠ [] → '/' ∉ value → Requests ('\x7b' :: token) value

section Requests

variable {c : Char} {token rest request : List Char}

theorem requests_nil : Requests [] request ↔ request = [] := by
  constructor
  · intro requests
    cases requests
    rfl
  · rintro rfl
    exact .done

theorem requests_char (plain : c ≠ '\x7b') :
    Requests (c :: rest) request ↔ ∃ after, request = c :: after ∧ Requests rest after := by
  constructor
  · intro requests
    cases requests with
    | char _ after => exact ⟨_, rfl, after⟩
    | placeholder => exact absurd rfl plain
    | unclosed => exact absurd rfl plain
  · rintro ⟨after, rfl, requests⟩
    exact .char plain requests

theorem requests_placeholder (outside : '\x7d' ∉ token) :
    Requests ('\x7b' :: (token ++ '\x7d' :: rest)) request ↔
      ∃ value after, value ≠ [] ∧ '/' ∉ value ∧ request = value ++ after ∧ Requests rest after := by
  constructor
  · intro requests
    generalize same : '\x7b' :: (token ++ '\x7d' :: rest) = template at requests
    cases requests with
    | done => cases same
    | char plain => exact absurd (List.cons.inj same).1.symm plain
    | placeholder outside' nonempty slashless after =>
      obtain ⟨rfl, rfl⟩ := Text.first_unique outside outside' (List.cons.inj same).2
      exact ⟨_, _, nonempty, slashless, rfl, after⟩
    | unclosed unclosed =>
      refine absurd ?_ unclosed
      rw [← (List.cons.inj same).2]
      simp
  · rintro ⟨value, after, nonempty, slashless, rfl, requests⟩
    exact .placeholder outside nonempty slashless requests

theorem requests_unclosed (outside : '\x7d' ∉ token) :
    Requests ('\x7b' :: token) request ↔ request ≠ [] ∧ '/' ∉ request := by
  constructor
  · intro requests
    generalize same : '\x7b' :: token = template at requests
    cases requests with
    | done => cases same
    | char plain => exact absurd (List.cons.inj same).1.symm plain
    | placeholder =>
      refine absurd ?_ outside
      rw [(List.cons.inj same).2]
      simp
    | unclosed _ nonempty slashless => exact ⟨nonempty, slashless⟩
  · rintro ⟨nonempty, slashless⟩
    exact .unclosed outside nonempty slashless

end Requests

inductive Atom where
  | char (c : Char)
  | segment
  deriving DecidableEq

def readAtoms : List Char → List Atom
  | '\\' :: c :: rest => .char c :: readAtoms rest
  | '[' :: '^' :: '/' :: ']' :: '+' :: rest => .segment :: readAtoms rest
  | c :: rest => .char c :: readAtoms rest
  | [] => []

/-- Whether the atoms match all of a text. A segment takes one character and ends or goes on. -/
def fits : List Atom → List Char → Bool
  | [], [] => true
  | .char c :: atoms, d :: rest => d == c && fits atoms rest
  | .segment :: atoms, d :: rest => d != '/' && (fits atoms rest || fits (.segment :: atoms) rest)
  | _, _ => false

def anchored? : List Char → Option (List Char)
  | '^' :: rest => if rest.getLast? = some '$' then some rest.dropLast else none
  | _ => none

def matchesPattern (pattern request : String) : Bool :=
  match anchored? pattern.toList with
  | some body => fits (readAtoms body) request.toList
  | none => false

def atomsOf (template : List Char) : List Atom :=
  readAtoms (patternFrom false template)

section Atoms

variable {c : Char} {token rest : List Char}

theorem readAtoms_plain (unescaped : c ≠ '\\') (noBracket : c ≠ '[') :
    readAtoms (c :: rest) = .char c :: readAtoms rest := by
  rw [readAtoms]
  · rintro _ _ rfl
    exact absurd rfl unescaped
  · rintro _ rfl
    exact absurd rfl noBracket

theorem patternFrom_token (outside : '\x7d' ∉ token) (rest : List Char) :
    patternFrom true (token ++ rest) = patternFrom true rest := by
  induction token with
  | nil => rfl
  | cons c token ih =>
    have other : c ≠ '\x7d' := fun same => outside (same ▸ List.mem_cons_self)
    have goesOn : (c != '\x7d') = true := bne_iff_ne.2 other
    rw [List.cons_append, patternFrom, goesOn]
    exact ih fun mem => outside (List.mem_cons_of_mem c mem)

@[simp] theorem atomsOf_nil : atomsOf [] = [] :=
  rfl

theorem atomsOf_char (plain : c ≠ '\x7b') : atomsOf (c :: rest) = .char c :: atomsOf rest := by
  by_cases special : c ∈ patternSpecials
  · rw [atomsOf, patternFrom, if_neg plain, if_pos special]
    rfl
  · have unescaped : c ≠ '\\' := by
      rintro rfl
      exact special (by decide)
    have noBracket : c ≠ '[' := by
      rintro rfl
      exact special (by decide)
    rw [atomsOf, patternFrom, if_neg plain, if_neg special, readAtoms_plain unescaped noBracket]
    rfl

theorem atomsOf_placeholder (outside : '\x7d' ∉ token) :
    atomsOf ('\x7b' :: (token ++ '\x7d' :: rest)) = .segment :: atomsOf rest := by
  rw [atomsOf, patternFrom, if_pos rfl, patternFrom_token outside]
  rfl

theorem atomsOf_unclosed (outside : '\x7d' ∉ token) : atomsOf ('\x7b' :: token) = [.segment] := by
  have ends := patternFrom_token outside []
  rw [List.append_nil] at ends
  rw [atomsOf, patternFrom, if_pos rfl, ends]
  rfl

end Atoms

section Fits

variable {c d : Char} {atoms : List Atom} {text rest : List Char}

@[simp] theorem fits_nil : fits [] text = true ↔ text = [] := by
  cases text <;> simp [fits]

@[simp] theorem fits_char_cons :
    fits (.char c :: atoms) (d :: rest) = true ↔ d = c ∧ fits atoms rest = true := by
  simp [fits]

@[simp] theorem fits_segment_cons : fits (.segment :: atoms) (d :: rest) = true ↔
    d ≠ '/' ∧ (fits atoms rest = true ∨ fits (.segment :: atoms) rest = true) := by
  simp [fits]

@[simp] theorem fits_cons_nil {atom : Atom} : fits (atom :: atoms) [] = false := by
  cases atom <;> rfl

theorem fits_char : fits (.char c :: atoms) text = true ↔
    ∃ after, text = c :: after ∧ fits atoms after = true := by
  cases text with
  | nil => simp
  | cons d rest => simp [and_assoc]

theorem fits_segment : fits (.segment :: atoms) text = true ↔
    ∃ value after, value ≠ [] ∧ '/' ∉ value ∧ text = value ++ after ∧ fits atoms after = true := by
  induction text with
  | nil =>
    simp only [fits_cons_nil, Bool.false_eq_true, false_iff]
    rintro ⟨value, after, nonempty, -, empty, -⟩
    exact nonempty (List.append_eq_nil_iff.1 empty.symm).1
  | cons d rest ih =>
    rw [fits_segment_cons, ih]
    constructor
    · rintro ⟨slashless, ends | ⟨value, after, -, without, rfl, fitsAfter⟩⟩
      · exact ⟨[d], rest, by simp, by simpa using Ne.symm slashless, rfl, ends⟩
      · exact ⟨d :: value, after, by simp, by simp [Ne.symm slashless, without], rfl, fitsAfter⟩
    · rintro ⟨value, after, nonempty, without, same, fitsAfter⟩
      obtain ⟨first, value, rfl⟩ := List.exists_cons_of_ne_nil nonempty
      obtain ⟨rfl, rfl⟩ := List.cons.inj same
      have slashless : d ≠ '/' := fun slash => without (by simp [slash])
      refine ⟨slashless, ?_⟩
      by_cases more : value = []
      · exact .inl (by simpa [more] using fitsAfter)
      · exact .inr ⟨value, after, more, fun mem => without (List.mem_cons_of_mem d mem), rfl,
          fitsAfter⟩

end Fits

theorem fits_atomsOf (template request : List Char) :
    fits (atomsOf template) request = true ↔ Requests template request := by
  induction template using template_induction generalizing request with
  | done => rw [atomsOf_nil, fits_nil, requests_nil]
  | char c rest plain ih =>
    rw [atomsOf_char plain, fits_char, requests_char plain]
    simp only [ih]
  | placeholder token rest outside ih =>
    rw [atomsOf_placeholder outside, fits_segment, requests_placeholder outside]
    simp only [ih]
  | unclosed token outside =>
    rw [atomsOf_unclosed outside, fits_segment, requests_unclosed outside]
    simp

instance (template request : List Char) : Decidable (Requests template request) :=
  decidable_of_iff _ (fits_atomsOf template request)

theorem matchesPattern_pattern (path request : String) :
    matchesPattern (pattern path) request = true ↔ Requests path.toList request.toList := by
  have body : anchored? (pattern path).toList = some (patternFrom false path.toList) := by
    simp [pattern, anchored?]
  rw [matchesPattern, body]
  exact fits_atomsOf _ _

end OpenApiCodegen.Api.PathTemplate
