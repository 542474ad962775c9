import OpenApiCodegen.Proofs.Text.Casing

namespace OpenApiCodegen.Text

def NameChar (c : Char) : Prop :=
  c = '_' ∨ Spelled Char.isAlpha c

/-- No small letter of ASCII comes first, and all characters can be in names. -/
structure Capitalized (name : List Char) : Prop where
  first : ∀ c ∈ name.head?, Spelled Char.isUpper c
  chars : ∀ c ∈ name, NameChar c

variable {c : Char} {name rest word text : List Char}

theorem Spelled.upper (spelled : Spelled Char.isUpper c) : Spelled Char.isAlpha c :=
  spelled.mono fun _ upper => Bool.or_eq_true_iff.2 (.inl upper)

theorem Spelled.lower (spelled : Spelled Char.isLower c) : Spelled Char.isAlpha c :=
  spelled.mono fun _ lower => Bool.or_eq_true_iff.2 (.inr lower)

namespace Capitalized

theorem nil : Capitalized [] :=
  ⟨by simp, by simp⟩

theorem append (first : Capitalized name) (second : Capitalized rest) : Capitalized (name ++ rest) := by
  constructor
  · cases name with
    | nil => exact second.first
    | cons c name => exact first.first
  · intro c mem
    rcases List.mem_append.1 mem with mem | mem
    · exact first.chars c mem
    · exact second.chars c mem

theorem digits (digits : ∀ c ∈ name, c.isDigit = true) : Capitalized name := by
  refine ⟨fun c mem => ?_, fun c mem => .inr (.inr (.inl (digits c mem)))⟩
  exact .inr (.inl (digits c (List.mem_of_mem_head? mem)))

theorem letters (upper : name.head?.all Char.isUpper = true) (letters : name.all Char.isAlpha = true) :
    Capitalized name := by
  refine ⟨fun c mem => .inl ?_, fun c mem => .inr (.inl (List.all_eq_true.1 letters c mem))⟩
  rw [Option.mem_def.1 mem] at upper
  exact upper

theorem ne_cons (capitalized : Capitalized name) (lower : c.isLower = true) : name ≠ c :: rest := by
  rintro rfl
  obtain ⟨low, high⟩ := Bool.and_eq_true_iff.1 lower
  have low : 97 ≤ c.toNat := UInt32.le_iff_toNat_le.1 (of_decide_eq_true low)
  have high : c.toNat ≤ 122 := UInt32.le_iff_toNat_le.1 (of_decide_eq_true high)
  rcases capitalized.first c rfl with upper | digit | beyond
  · have below : c.toNat ≤ 90 := UInt32.le_iff_toNat_le.1 (of_decide_eq_true upper).2
    omega
  · have below : c.toNat ≤ 57 := UInt32.le_iff_toNat_le.1 (of_decide_eq_true (Bool.and_eq_true_iff.1 digit).2)
    omega
  · omega

end Capitalized

theorem upperOf_ne_nil (c : Char) : upperOf c ≠ [] := by
  unfold upperOf
  split
  · simp
  · exact imageOf_ne_nil (by rfl) c

theorem capitalized_upperOf (spelled : Spelled Char.isAlpha c) (chars : ∀ d ∈ rest, NameChar d) :
    Capitalized (upperOf c ++ rest) := by
  have upper : ∀ d ∈ upperOf c, Spelled Char.isUpper d :=
    fun d mem => spelled_of_mem_upperOf spelled mem
  obtain ⟨d, others, image⟩ := List.exists_cons_of_ne_nil (upperOf_ne_nil c)
  constructor
  · rw [image]
    rintro _ ⟨⟩
    exact upper d (image ▸ List.mem_cons_self)
  · intro e mem
    rcases List.mem_append.1 mem with mem | mem
    · exact .inr (upper e mem).upper
    · exact chars e mem

theorem capitalized_capitalizeChars (first : ∀ c ∈ name.head?, Spelled Char.isAlpha c)
    (chars : ∀ c ∈ name, NameChar c) : Capitalized (capitalizeChars name) := by
  cases name with
  | nil => exact .nil
  | cons c rest =>
    exact capitalized_upperOf (first c rfl) fun d mem => chars d (List.mem_cons_of_mem c mem)

theorem capitalized_of_spelled (spelled : ∀ c ∈ name, Spelled Char.isAlpha c) :
    Capitalized (capitalizeChars name) :=
  capitalized_capitalizeChars (fun c mem => spelled c (List.mem_of_mem_head? mem))
    fun c mem => .inr (spelled c mem)

theorem capitalized_capitalizeWord (spelled : ∀ c ∈ word, Spelled Char.isAlpha c) :
    Capitalized (capitalizeWord word) := by
  cases word with
  | nil => exact .nil
  | cons c rest =>
    apply capitalized_upperOf (spelled c List.mem_cons_self)
    intro d mem
    obtain ⟨e, inside, mem⟩ := List.mem_flatMap.1 mem
    exact .inr (spelled_of_mem_lowerOf (spelled e (List.mem_cons_of_mem c inside)) mem).lower

theorem capitalized_words {words : List (List Char)}
    (spelled : ∀ word ∈ words, ∀ c ∈ word, Spelled Char.isAlpha c) :
    Capitalized (words.flatMap capitalizeWord) := by
  induction words with
  | nil => exact .nil
  | cons word words ih =>
    have first := capitalized_capitalizeWord (spelled word List.mem_cons_self)
    exact first.append (ih fun other mem => spelled other (List.mem_cons_of_mem word mem))

theorem capitalized_pascalCase (name : String) : Capitalized (pascalCase name).toList := by
  rw [pascalCase, String.toList_ofList]
  exact capitalized_words fun _ mem => (mem_words mem).2

theorem capitalized_camelCase (name : String) : Capitalized (capitalize (camelCase name)).toList := by
  rw [capitalize, camelCase, String.toList_ofList, String.toList_ofList, camelChars]
  cases written : words name.toList with
  | nil => exact .nil
  | cons first others =>
    have spelled : ∀ word ∈ first :: others, word ≠ [] ∧ ∀ c ∈ word, Spelled Char.isAlpha c :=
      fun word mem => mem_words (written ▸ mem)
    obtain ⟨nonempty, own⟩ := spelled first List.mem_cons_self
    have small : ∀ c ∈ lowerAll first, Spelled Char.isAlpha c :=
      fun c mem => (spelled_of_mem_lowerFrom own mem).lower
    have later := capitalized_words fun word mem => (spelled word (List.mem_cons_of_mem first mem)).2
    obtain ⟨c, rest, begun⟩ : ∃ c rest, lowerAll first = c :: rest :=
      List.exists_cons_of_ne_nil (lowerFrom_ne_nil nonempty)
    dsimp only
    apply capitalized_capitalizeChars
    · rw [begun]
      rintro _ ⟨⟩
      exact small c (begun ▸ List.mem_cons_self)
    · intro d mem
      rcases List.mem_append.1 mem with mem | mem
      · exact .inr (small d mem)
      · exact later.chars d mem

end OpenApiCodegen.Text
