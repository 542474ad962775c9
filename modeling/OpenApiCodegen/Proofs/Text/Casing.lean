import Mathlib.Data.List.Basic
import OpenApiCodegen.Proofs.Text.Cuts
import OpenApiCodegen.Proofs.Text.Words

namespace OpenApiCodegen.Text

def Spelled (letter : Char → Bool) (c : Char) : Prop :=
  letter c = true ∨ c.isDigit = true ∨ 128 ≤ c.toNat

theorem Spelled.mono {letter other : Char → Bool} {c : Char} (spelled : Spelled letter c)
    (allows : ∀ c, letter c = true → other c = true) : Spelled other c :=
  spelled.imp_left (allows c)

theorem spelled_of_isAlphanumeric {c : Char} (alphanumeric : isAlphanumeric c = true) :
    Spelled Char.isAlpha c := by
  unfold isAlphanumeric at alphanumeric
  split at alphanumeric
  · rcases Bool.or_eq_true_iff.1 alphanumeric with alpha | digit
    · exact .inl alpha
    · exact .inr (.inl digit)
  · exact .inr (.inr (by omega))

theorem digit_bounds {c : Char} (digit : c.isDigit = true) : 48 ≤ c.toNat ∧ c.toNat ≤ 57 := by
  obtain ⟨low, high⟩ := Bool.and_eq_true_iff.1 digit
  exact ⟨UInt32.le_iff_toNat_le.1 (of_decide_eq_true low), UInt32.le_iff_toNat_le.1 (of_decide_eq_true high)⟩

theorem forall_digit {c : Char} {P : Char → Prop} (each : ∀ n < 10, P (Char.ofNat (n + 48)))
    (digit : c.isDigit = true) : P c := by
  obtain ⟨low, high⟩ := digit_bounds digit
  have here := each (c.toNat - 48) (by omega)
  rwa [Nat.sub_add_cancel low, Char.ofNat_toNat] at here

def isScalarEnd (first last : Nat) : Bool :=
  last < 0xD800 || (0xDFFF < first && last < 0x110000)

def MappedRun.leadsTo (letter : Char → Bool) (run : MappedRun) : Bool :=
  isScalarEnd run.image (run.image + (run.source.last - run.source.first)) &&
    (128 ≤ run.image || (run.source.first == run.source.last && letter (Char.ofNat run.image)))

def codesLeadTo (letter : Char → Bool) (expansion : Nat × List Nat) : Bool :=
  expansion.2.all fun code =>
    isScalarEnd code code && (128 ≤ code || letter (Char.ofNat code))

theorem toNat_ofNat {first last n : Nat} (scalar : isScalarEnd first last = true) (lower : first ≤ n)
    (upper : n ≤ last) : (Char.ofNat n).toNat = n := by
  have valid : n.isValidChar := by
    simp [isScalarEnd] at scalar
    unfold Nat.isValidChar
    omega
  rw [Char.ofNat, dif_pos valid]
  rfl

theorem spelled_of_mem_imageOf {letter : Char → Bool} {images : List MappedRun}
    {expansions : List (Nat × List Nat)} {c d : Char} (beyond : 128 ≤ c.toNat)
    (runs : images.all (·.leadsTo letter) = true) (codes : expansions.all (codesLeadTo letter) = true)
    (mem : d ∈ imageOf images expansions c) : Spelled letter d := by
  unfold imageOf at mem
  -- a run moves its characters together, an expansion replaces one, and the others stay
  split at mem
  · rename_i run found
    have leads := List.all_eq_true.1 runs run (List.mem_of_find?_eq_some found)
    have contains := List.find?_some found
    simp [Run.contains] at contains
    obtain rfl := List.mem_singleton.1 mem
    obtain ⟨scalar, target⟩ := Bool.and_eq_true_iff.1 leads
    have code := toNat_ofNat scalar (n := run.image + (c.toNat - run.source.first)) (by omega) (by omega)
    simp at target
    rcases target with high | ⟨single, allowed⟩
    · exact .inr (.inr (by omega))
    · have here : run.image + (c.toNat - run.source.first) = run.image := by omega
      rw [here]
      exact .inl allowed
  · split at mem
    · rename_i codes' found
      obtain ⟨code, listed, rfl⟩ := List.mem_map.1 mem
      have pair : (c.toNat, codes') ∈ expansions := by
        obtain ⟨before, after, rfl, -⟩ := List.lookup_eq_some_iff.1 found
        simp
      have leads := List.all_eq_true.1 (List.all_eq_true.1 codes _ pair) code listed
      obtain ⟨scalar, target⟩ := Bool.and_eq_true_iff.1 leads
      simp at target
      rcases target with high | allowed
      · exact .inr (.inr (by rw [toNat_ofNat scalar (Nat.le_refl code) (Nat.le_refl code)]; exact high))
      · exact .inl allowed
    · obtain rfl := List.mem_singleton.1 mem
      exact .inr (.inr beyond)

theorem spelled_of_table {letter : Char → Bool} {change : Char → Char}
    (table : ∀ n < 128, (Char.ofNat n).isAlphanum = true →
      (letter (change (Char.ofNat n)) || (change (Char.ofNat n)).isDigit) = true)
    {c : Char} (ascii : c.toNat < 128) (spelled : Spelled Char.isAlpha c) :
    Spelled letter (change c) := by
  have here := table c.toNat ascii
  rw [Char.ofNat_toNat, Char.isAlphanum, Bool.or_eq_true, Bool.or_eq_true] at here
  rcases spelled with alpha | digit | beyond
  · exact (here (.inl alpha)).imp_right .inl
  · exact (here (.inr digit)).imp_right .inl
  · omega

theorem spelled_of_mem_lowerOf {c d : Char} (spelled : Spelled Char.isAlpha c) (mem : d ∈ lowerOf c) :
    Spelled Char.isLower d := by
  unfold lowerOf at mem
  split at mem
  · rename_i ascii
    obtain rfl := List.mem_singleton.1 mem
    exact spelled_of_table (by decide) ascii spelled
  · exact spelled_of_mem_imageOf (by omega) (by decide) (by decide) mem

theorem spelled_of_mem_upperOf {c d : Char} (spelled : Spelled Char.isAlpha c) (mem : d ∈ upperOf c) :
    Spelled Char.isUpper d := by
  unfold upperOf at mem
  split at mem
  · rename_i ascii
    obtain rfl := List.mem_singleton.1 mem
    exact spelled_of_table (by decide) ascii spelled
  · exact spelled_of_mem_imageOf (by omega) (by decide) (by decide) mem

theorem spelled_of_mem_lowerFrom {before text : List Char} {d : Char}
    (spelled : ∀ c ∈ text, Spelled Char.isAlpha c) (mem : d ∈ lowerFrom before text) :
    Spelled Char.isLower d := by
  induction text generalizing before with
  | nil => cases mem
  | cons c rest ih =>
    rcases List.mem_append.1 mem with here | later
    · split at here
      · -- either form of the small sigma
        split at here <;> obtain rfl := List.mem_singleton.1 here <;> exact .inr (.inr (by decide))
      · exact spelled_of_mem_lowerOf (spelled c List.mem_cons_self) here
    · exact ih (fun other inside => spelled other (List.mem_cons_of_mem c inside)) later

theorem imageOf_ne_nil {images : List MappedRun} {expansions : List (Nat × List Nat)}
    (codes : expansions.all (!·.2.isEmpty) = true) (c : Char) : imageOf images expansions c ≠ [] := by
  unfold imageOf
  split
  · simp
  · split
    · rename_i found
      obtain ⟨before, after, rfl, -⟩ := List.lookup_eq_some_iff.1 found
      simp at codes
      simpa using codes.2.1
    · simp

theorem lowerOf_ne_nil (c : Char) : lowerOf c ≠ [] := by
  unfold lowerOf
  split
  · simp
  · exact imageOf_ne_nil (by decide) c

theorem lowerFrom_ne_nil {before text : List Char} (some : text ≠ []) : lowerFrom before text ≠ [] := by
  obtain ⟨c, rest, rfl⟩ := List.exists_cons_of_ne_nil some
  unfold lowerFrom
  intro empty
  have first := (List.append_eq_nil_iff.1 empty).1
  split at first
  · split at first <;> cases first
  · exact lowerOf_ne_nil c first

section Words

variable {word text : List Char}

theorem mem_words (mem : word ∈ words text) : word ≠ [] ∧ ∀ c ∈ word, Spelled Char.isAlpha c := by
  obtain ⟨nonempty, alphanumeric⟩ := mem_wordsFrom (by simp) mem
  exact ⟨nonempty, fun c inside => spelled_of_isAlphanumeric (alphanumeric c inside)⟩

theorem camelChars_ne_nil {c : Char} (mem : c ∈ text) (alphanumeric : isAlphanumeric c = true) :
    camelChars text ≠ [] := by
  have written := words_ne_nil mem alphanumeric
  unfold camelChars
  cases split : words text with
  | nil => exact absurd split written
  | cons first others =>
    obtain ⟨nonempty, -⟩ : first ≠ [] ∧ _ := mem_words (split ▸ List.mem_cons_self)
    exact List.append_ne_nil_of_left_ne_nil (lowerFrom_ne_nil nonempty) _

def loweredWords (text : List Char) : List (List Char) :=
  (words text).map lowerAll

theorem mem_loweredWords (mem : word ∈ loweredWords text) :
    word ≠ [] ∧ ∀ c ∈ word, Spelled Char.isLower c := by
  obtain ⟨origin, inside, rfl⟩ := List.mem_map.1 mem
  obtain ⟨nonempty, spelled⟩ := mem_words inside
  exact ⟨lowerFrom_ne_nil nonempty, fun c mem => spelled_of_mem_lowerFrom spelled mem⟩

theorem separatedChars_injective {separator : Char} (apart : ¬Spelled Char.isLower separator)
    {other : List Char} : separatedChars separator text = separatedChars separator other ↔
      loweredWords text = loweredWords other := by
  constructor
  · apply joinWith_injective
    · exact fun word mem => ⟨(mem_loweredWords mem).1, fun c => apart ((mem_loweredWords mem).2 _ c)⟩
    · exact fun word mem => ⟨(mem_loweredWords mem).1, fun c => apart ((mem_loweredWords mem).2 _ c)⟩
  · intro same
    exact congrArg (joinWith [separator]) same

theorem mem_separatedChars {separator c : Char} (mem : c ∈ separatedChars separator text) :
    c = separator ∨ Spelled Char.isLower c := by
  rcases mem_joinWith mem with between | ⟨word, listed, inside⟩
  · exact .inl (List.mem_singleton.1 between)
  · exact .inr ((mem_loweredWords listed).2 c inside)

theorem separatedChars_ne_cons {separator : Char} (apart : ¬Spelled Char.isLower separator)
    (rest : List Char) : separatedChars separator text ≠ separator :: rest := by
  unfold separatedChars
  intro same
  have named : ∀ word ∈ loweredWords text, word ≠ [] ∧ ∀ c ∈ word, Spelled Char.isLower c :=
    fun word mem => mem_loweredWords mem
  cases written : loweredWords text with
  | nil =>
    rw [loweredWords] at written
    rw [written] at same
    cases same
  | cons word more =>
    obtain ⟨nonempty, spelled⟩ := named word (written ▸ List.mem_cons_self)
    obtain ⟨c, tail, rfl⟩ := List.exists_cons_of_ne_nil nonempty
    rw [loweredWords] at written
    rw [written] at same
    have first : c = separator := by
      cases more <;> exact (List.cons.inj same).1
    exact apart (first ▸ spelled c List.mem_cons_self)

end Words

end OpenApiCodegen.Text
