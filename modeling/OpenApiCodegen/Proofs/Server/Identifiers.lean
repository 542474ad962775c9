import OpenApiCodegen.Text.Basic

namespace OpenApiCodegen.Server

/-- Which characters are letters and digits. Beyond ASCII this is left open. -/
structure Alphabet where
  letter : Char → Bool
  digit : Char → Bool
  letter_ascii : ∀ c : Char, c.toNat < 128 → letter c = c.isAlpha
  digit_ascii : ∀ c : Char, c.toNat < 128 → digit c = c.isDigit

def keywords : List String :=
  ["break", "case", "chan", "const", "continue", "default", "defer", "else", "fallthrough", "for",
    "func", "go", "goto", "if", "import", "interface", "map", "package", "range", "return", "select",
    "struct", "switch", "type", "var"]

namespace Alphabet

def ascii : Alphabet where
  letter := Char.isAlpha
  digit := Char.isDigit
  letter_ascii _ _ := rfl
  digit_ascii _ _ := rfl

variable (alphabet : Alphabet)

def starts (c : Char) : Bool :=
  alphabet.letter c || c = '_'

def continues (c : Char) : Bool :=
  alphabet.starts c || alphabet.digit c

def isIdentifier : List Char → Bool
  | [] => false
  | c :: rest => alphabet.starts c && rest.all alphabet.continues

def Accepts (name : String) : Prop :=
  alphabet.isIdentifier name.toList = true ∧ name ∉ keywords

variable {alphabet} {c : Char} {name rest : List Char}

theorem continues_ascii (ascii : c.toNat < 128) : alphabet.continues c = (c.isAlphanum || c = '_') := by
  rw [continues, starts, alphabet.letter_ascii c ascii, alphabet.digit_ascii c ascii, Char.isAlphanum]
  cases c.isAlpha <;> cases c.isDigit <;> simp

theorem continues_of_mem (identifier : alphabet.isIdentifier name = true) (mem : c ∈ name) :
    alphabet.continues c = true := by
  cases name with
  | nil => cases mem
  | cons first rest =>
    obtain ⟨starts, continues⟩ := Bool.and_eq_true_iff.1 identifier
    rcases List.mem_cons.1 mem with rfl | mem
    · rw [Alphabet.continues, starts, Bool.true_or]
    · exact List.all_eq_true.1 continues c mem

theorem isIdentifier_append (identifier : alphabet.isIdentifier name = true)
    (continues : ∀ c ∈ rest, alphabet.continues c = true) :
    alphabet.isIdentifier (name ++ rest) = true := by
  cases name with
  | nil => cases identifier
  | cons first name =>
    obtain ⟨starts, others⟩ := Bool.and_eq_true_iff.1 identifier
    rw [List.cons_append, isIdentifier, List.all_append, starts, others, Bool.true_and, Bool.true_and]
    exact List.all_eq_true.2 continues

theorem isIdentifier_replace {ending other : List Char}
    (identifier : alphabet.isIdentifier (name ++ ending) = true)
    (identifier' : alphabet.isIdentifier other = true) :
    alphabet.isIdentifier (name ++ other) = true := by
  cases name with
  | nil => exact identifier'
  | cons first name =>
    rw [List.cons_append, isIdentifier, List.all_append] at identifier
    obtain ⟨starts, others⟩ := Bool.and_eq_true_iff.1 identifier
    have kept : alphabet.isIdentifier (first :: name) = true :=
      Bool.and_eq_true_iff.2 ⟨starts, (Bool.and_eq_true_iff.1 others).1⟩
    exact isIdentifier_append kept fun c mem => continues_of_mem identifier' mem

theorem isIdentifier_of_ascii (small : ∀ c ∈ name, c.toNat < 128)
    (identifier : ascii.isIdentifier name = true) : alphabet.isIdentifier name = true := by
  cases name with
  | nil => cases identifier
  | cons first name =>
    obtain ⟨starts, others⟩ := Bool.and_eq_true_iff.1 identifier
    refine Bool.and_eq_true_iff.2 ⟨?_, List.all_eq_true.2 fun c mem => ?_⟩
    · rw [Alphabet.starts, alphabet.letter_ascii first (small first List.mem_cons_self)]
      exact starts
    · have here := small c (List.mem_cons_of_mem first mem)
      have goesOn : ascii.continues c = true := List.all_eq_true.1 others c mem
      rwa [continues_ascii here] at goesOn ⊢

theorem not_keyword {name : String} {c : Char} (mem : c ∈ name.toList) (other : c.isLower = false) :
    name ∉ keywords := by
  have small : ∀ word ∈ keywords, word.toList.all Char.isLower = true := by
    simp only [keywords, List.forall_mem_cons]
    repeat rw [String.toList_ofList]
    simp
  intro listed
  have lower := List.all_eq_true.1 (small name listed) c mem
  rw [other] at lower
  cases lower

theorem not_mem_of_isIdentifier (identifier : alphabet.isIdentifier name = true)
    (ascii : c.toNat < 128) (other : (c.isAlphanum || c = '_') = false) : c ∉ name := by
  intro mem
  have continues := continues_of_mem identifier mem
  rw [continues_ascii ascii, other] at continues
  cases continues

end Alphabet

end OpenApiCodegen.Server
