import Mathlib.Data.List.Basic
import OpenApiCodegen.Text.Words

namespace OpenApiCodegen.Text

section Reading

variable {current front more rest text word word' : List Char} {done done' : List (List Char)} {c : Char}

theorem mem_wordsFrom (begun : ∀ c ∈ current, isAlphanumeric c = true)
    (mem : word ∈ wordsFrom current text) : word ≠ [] ∧ ∀ c ∈ word, isAlphanumeric c = true := by
  fun_induction wordsFrom current text with
  | case1 current empty => cases mem
  | case2 current nonempty =>
    obtain rfl := List.mem_singleton.1 mem
    exact ⟨by simpa using nonempty, by simpa using begun⟩
  | case3 c rest alphanumeric ih => exact ih (by simpa using alphanumeric) mem
  | case4 c rest alphanumeric previous earlier opens ih =>
    rcases List.mem_cons.1 mem with rfl | mem
    · exact ⟨by simp, fun c inside => begun c (List.mem_reverse.1 inside)⟩
    · exact ih (by simpa using alphanumeric) mem
  | case5 c rest alphanumeric previous earlier goesOn ih =>
    exact ih (List.forall_mem_cons.2 ⟨alphanumeric, begun⟩) mem
  | case6 current c rest separator empty ih => exact ih (by simp) mem
  | case7 current c rest separator nonempty ih =>
    rcases List.mem_cons.1 mem with rfl | mem
    · exact ⟨by simpa using nonempty, by simpa using begun⟩
    · exact ih (by simp) mem

theorem wordsFrom_begun (c : Char) (text : List Char) : ∃ rest others, ∀ front,
    wordsFrom (c :: front) text = (front.reverse ++ c :: rest) :: others := by
  induction text generalizing c with
  | nil => exact ⟨[], [], fun front => by simp [wordsFrom]⟩
  | cons d text ih =>
    by_cases alphanumeric : isAlphanumeric d = true
    · by_cases opens : (isUppercase d && opensWord c text) = true
      · refine ⟨[], wordsFrom [d] text, fun front => ?_⟩
        simp [wordsFrom, alphanumeric, opens]
      · obtain ⟨rest, others, goesOn⟩ := ih d
        refine ⟨d :: rest, others, fun front => ?_⟩
        rw [wordsFrom, if_pos alphanumeric, if_neg opens, goesOn]
        simp
    · refine ⟨[], wordsFrom [] text, fun front => ?_⟩
      simp [wordsFrom, alphanumeric]

/-- Once `front` has been read, the words `done` are finished and `word` is under way. -/
structure Reads (current front rest : List Char) (done : List (List Char)) (word : List Char) : Prop where
  goesOn : wordsFrom current (front ++ rest) = done ++ wordsFrom word rest
  kept : done.flatten ++ word.reverse = current.reverse ++ front.filter isAlphanumeric

theorem Reads.trans (first : Reads current front (more ++ rest) done word)
    (second : Reads word more rest done' word') :
    Reads current (front ++ more) rest (done ++ done') word' where
  goesOn := by rw [List.append_assoc, first.goesOn, second.goesOn, List.append_assoc]
  kept := by
    rw [List.flatten_append, List.append_assoc, second.kept, ← List.append_assoc, first.kept,
      List.append_assoc, List.filter_append]

theorem reads_alphanumeric (alphanumeric : isAlphanumeric c = true) (current rest : List Char) :
    ∃ done before, Reads current [c] rest done (c :: before) := by
  cases current with
  | nil => exact ⟨[], [], by simp [wordsFrom, alphanumeric], by simp [alphanumeric]⟩
  | cons previous earlier =>
    by_cases opens : (isUppercase c && opensWord previous rest) = true
    · refine ⟨[(previous :: earlier).reverse], [], ?_, by simp [alphanumeric]⟩
      simp [wordsFrom, alphanumeric, opens]
    · refine ⟨[], previous :: earlier, ?_, by simp [alphanumeric]⟩
      rw [List.singleton_append, wordsFrom, if_pos alphanumeric, if_neg opens, List.nil_append]

theorem reads_separator (separator : isAlphanumeric c ≠ true) (current rest : List Char) :
    ∃ done, Reads current [c] rest done [] := by
  cases current with
  | nil => exact ⟨[], by simp [wordsFrom, separator], by simp [separator]⟩
  | cons previous earlier =>
    exact ⟨[(previous :: earlier).reverse], by simp [wordsFrom, separator], by simp [separator]⟩

/-- By induction on what is read: every character leads to a state from which the rest is read. -/
theorem exists_reads (current front rest : List Char) : ∃ done word, Reads current front rest done word := by
  induction front generalizing current with
  | nil => exact ⟨[], current, rfl, by simp⟩
  | cons c front ih =>
    by_cases alphanumeric : isAlphanumeric c = true
    · obtain ⟨done, before, step⟩ := reads_alphanumeric alphanumeric current (front ++ rest)
      obtain ⟨done', word, run⟩ := ih (c :: before)
      exact ⟨done ++ done', word, step.trans run⟩
    · obtain ⟨done, step⟩ := reads_separator alphanumeric current (front ++ rest)
      obtain ⟨done', word, run⟩ := ih []
      exact ⟨done ++ done', word, step.trans run⟩

theorem flatten_wordsFrom (current text : List Char) :
    (wordsFrom current text).flatten = current.reverse ++ text.filter isAlphanumeric := by
  obtain ⟨done, word, run⟩ := exists_reads current text []
  have read := run.goesOn
  have ended : (wordsFrom word []).flatten = word.reverse := by cases word <;> simp [wordsFrom]
  rw [List.append_nil] at read
  rw [read, List.flatten_append, ended, run.kept]

theorem flatten_words (text : List Char) : (words text).flatten = text.filter isAlphanumeric :=
  flatten_wordsFrom [] text

theorem mem_of_mem_words (mem : word ∈ words text) (inside : c ∈ word) : c ∈ text := by
  have kept : c ∈ (words text).flatten := List.mem_flatten.2 ⟨word, mem, inside⟩
  rw [flatten_words] at kept
  exact List.mem_of_mem_filter kept

theorem words_ne_nil (mem : c ∈ text) (alphanumeric : isAlphanumeric c = true) : words text ≠ [] := by
  intro none
  have kept : c ∈ (words text).flatten := by
    rw [flatten_words]
    exact List.mem_filter.2 ⟨mem, alphanumeric⟩
  rw [none] at kept
  cases kept

end Reading

section Places

variable {text word : List Char} {earlier later ws : List (List Char)} {c d : Char} {i j k n : Nat}

structure AlphanumericAt (text : List Char) (i : Nat) (c : Char) : Prop where
  here : text[i]? = some c
  alphanumeric : isAlphanumeric c = true

def alphanumericsBefore (text : List Char) (i : Nat) : Nat :=
  ((text.take i).filter isAlphanumeric).length

def numberedFrom (k : Nat) (ws : List (List Char)) : List (Char × Nat) :=
  (ws.zipIdx k).flatMap fun (word, number) => word.map (·, number)

/-- The number of the word that has the letter or digit at a place of the text. -/
def wordAt (text : List Char) (i : Nat) : Option Nat :=
  ((numberedFrom 0 (words text))[alphanumericsBefore text i]?).map (·.2)

theorem map_fst_numberedFrom (k : Nat) (ws : List (List Char)) :
    (numberedFrom k ws).map (·.1) = ws.flatten := by
  induction ws generalizing k with
  | nil => rfl
  | cons word ws ih =>
    have later := ih (k + 1)
    simp only [numberedFrom] at later
    simp [numberedFrom, later, Function.comp_def]

theorem length_numberedFrom (k : Nat) (ws : List (List Char)) :
    (numberedFrom k ws).length = ws.flatten.length := by
  rw [← map_fst_numberedFrom k ws, List.length_map]

theorem numberedFrom_append (k : Nat) (earlier later : List (List Char)) :
    numberedFrom k (earlier ++ later) =
      numberedFrom k earlier ++ numberedFrom (k + earlier.length) later := by
  simp [numberedFrom, List.zipIdx_append]

theorem mem_numberedFrom (mem : (c, n) ∈ numberedFrom k ws) :
    k ≤ n ∧ ∃ word, ws[n - k]? = some word ∧ c ∈ word := by
  obtain ⟨⟨word, number⟩, listed, inside⟩ := List.mem_flatMap.1 mem
  obtain ⟨c', written, same⟩ := List.mem_map.1 inside
  obtain ⟨rfl, rfl⟩ := Prod.mk.inj same
  obtain ⟨above, there⟩ := List.mem_zipIdx_iff_le_and_getElem?_sub.1 listed
  exact ⟨above, word, there, written⟩

theorem take_append_cons_drop (here : text[i]? = some c) : text.take i ++ c :: text.drop (i + 1) = text := by
  obtain ⟨below, rfl⟩ := List.getElem?_eq_some_iff.1 here
  rw [← List.drop_eq_getElem_cons below, List.take_append_drop]

theorem alphanumericsBefore_mono (le : i ≤ j) : alphanumericsBefore text i ≤ alphanumericsBefore text j :=
  ((List.take_sublist_take_left le).filter isAlphanumeric).length_le

theorem AlphanumericAt.before_succ (place : AlphanumericAt text i c) :
    alphanumericsBefore text (i + 1) = alphanumericsBefore text i + 1 := by
  simp [alphanumericsBefore, List.take_add_one, place.here, place.alphanumeric]

theorem AlphanumericAt.kept (place : AlphanumericAt text i c) :
    (text.filter isAlphanumeric)[alphanumericsBefore text i]? = some c := by
  have split := congrArg (List.filter isAlphanumeric) (take_append_cons_drop place.here)
  rw [List.filter_append, List.filter_cons_of_pos place.alphanumeric] at split
  rw [← split]
  simp [alphanumericsBefore]

theorem AlphanumericAt.exists_wordAt (place : AlphanumericAt text i c) :
    ∃ k word, wordAt text i = some k ∧ (words text)[k]? = some word ∧ c ∈ word := by
  have kept := place.kept
  rw [← flatten_words, ← map_fst_numberedFrom 0, List.getElem?_map] at kept
  obtain ⟨⟨c', k⟩, numbered, rfl⟩ := Option.map_eq_some_iff.1 kept
  obtain ⟨-, word, there, inside⟩ := mem_numberedFrom (List.mem_of_getElem? numbered)
  exact ⟨k, word, by rw [wordAt, numbered, Option.map_some], there, inside⟩

theorem wordAt_ne_of_cut (cut : words text = earlier ++ later)
    (before : alphanumericsBefore text i < earlier.flatten.length)
    (behind : earlier.flatten.length ≤ alphanumericsBefore text j) : wordAt text i ≠ wordAt text j := by
  rw [← length_numberedFrom 0] at before behind
  obtain ⟨⟨c, k⟩, first⟩ : ∃ first, (numberedFrom 0 earlier)[alphanumericsBefore text i]? = some first :=
    ⟨_, List.getElem?_eq_getElem before⟩
  obtain ⟨-, word, there, -⟩ := mem_numberedFrom (List.mem_of_getElem? first)
  have below := (List.getElem?_eq_some_iff.1 there).1
  intro same
  rw [wordAt, wordAt, cut, numberedFrom_append, List.getElem?_append_left before,
    List.getElem?_append_right behind, first, Option.map_some] at same
  obtain ⟨⟨d, l⟩, second, number⟩ := Option.map_eq_some_iff.1 same.symm
  obtain ⟨above, -⟩ := mem_numberedFrom (List.mem_of_getElem? second)
  dsimp only at number
  omega

theorem wordAt_of_word (written : words text = earlier ++ word :: later)
    (lower : earlier.flatten.length ≤ alphanumericsBefore text i)
    (upper : alphanumericsBefore text i < earlier.flatten.length + word.length) :
    wordAt text i = some earlier.length := by
  have own : numberedFrom (0 + earlier.length) (word :: later) =
      word.map (·, earlier.length) ++ numberedFrom (earlier.length + 1) later := by
    simp [numberedFrom]
  have inside : alphanumericsBefore text i - earlier.flatten.length <
      (word.map (·, earlier.length)).length := by
    rw [List.length_map]
    omega
  rw [← length_numberedFrom 0] at lower inside
  rw [wordAt, written, numberedFrom_append, List.getElem?_append_right lower, own,
    List.getElem?_append_left inside, List.getElem?_eq_getElem inside]
  simp

theorem AlphanumericAt.reads (place : AlphanumericAt text i c) : ∃ done front,
    words text = done ++ wordsFrom (c :: front) (text.drop (i + 1)) ∧
      done.flatten.length + front.length = alphanumericsBefore text i := by
  obtain ⟨done, word, run⟩ := exists_reads [] (text.take i) ([c] ++ text.drop (i + 1))
  obtain ⟨done', front, step⟩ := reads_alphanumeric place.alphanumeric word (text.drop (i + 1))
  obtain ⟨goesOn, kept⟩ := run.trans step
  rw [List.append_assoc, List.singleton_append, take_append_cons_drop place.here] at goesOn
  have lengths : (done ++ done').flatten.length + front.length + 1 = alphanumericsBefore text i + 1 := by
    simpa [alphanumericsBefore, place.alphanumeric, Nat.add_assoc] using congrArg List.length kept
  exact ⟨done ++ done', front, goesOn, Nat.succ.inj lengths⟩

theorem reads_of_separator (here : text[i]? = some c) (separator : isAlphanumeric c ≠ true) : ∃ done,
    words text = done ++ wordsFrom [] (text.drop (i + 1)) ∧
      done.flatten.length = alphanumericsBefore text i := by
  obtain ⟨done, word, run⟩ := exists_reads [] (text.take i) ([c] ++ text.drop (i + 1))
  obtain ⟨done', step⟩ := reads_separator separator word (text.drop (i + 1))
  obtain ⟨goesOn, kept⟩ := run.trans step
  rw [List.append_assoc, List.singleton_append, take_append_cons_drop here] at goesOn
  have lengths : (done ++ done').flatten.length = alphanumericsBefore text i := by
    simpa [alphanumericsBefore, separator] using congrArg List.length kept
  exact ⟨done ++ done', goesOn, lengths⟩

theorem wordAt_ne_succ_iff (first : AlphanumericAt text i c) (second : AlphanumericAt text (i + 1) d) :
    wordAt text i ≠ wordAt text (i + 1) ↔ (isUppercase d && opensWord c (text.drop (i + 2))) = true := by
  obtain ⟨done, front, goesOn, read⟩ := first.reads
  have next := first.before_succ
  obtain ⟨below, rfl⟩ := List.getElem?_eq_some_iff.1 second.here
  rw [List.drop_eq_getElem_cons below, wordsFrom, if_pos second.alphanumeric] at goesOn
  constructor
  · -- the word under way takes the second along
    intro other
    by_contra closed
    obtain ⟨rest, others, begun⟩ := wordsFrom_begun text[i + 1] (text.drop (i + 2))
    rw [if_neg closed, begun] at goesOn
    have long : front.length + 2 ≤ ((c :: front).reverse ++ text[i + 1] :: rest).length := by
      simp
    have here := wordAt_of_word (i := i) goesOn (by omega) (by omega)
    have there := wordAt_of_word (i := i + 1) goesOn (by omega) (by omega)
    exact other (here.trans there.symm)
  · -- the word under way is finished between the two
    intro opens
    rw [if_pos opens, ← List.singleton_append, ← List.append_assoc] at goesOn
    have ended : (done ++ [(c :: front).reverse]).flatten.length = alphanumericsBefore text (i + 1) := by
      rw [next, ← read]
      simp [Nat.add_assoc]
    exact wordAt_ne_of_cut goesOn (by omega) (by omega)

theorem wordAt_ne_of_separator (place : AlphanumericAt text i c) (between : text[j]? = some d)
    (separator : isAlphanumeric d ≠ true) (before : i < j) (behind : j < k) :
    wordAt text i ≠ wordAt text k := by
  obtain ⟨done, goesOn, read⟩ := reads_of_separator between separator
  have first := place.before_succ
  have most : alphanumericsBefore text (i + 1) ≤ alphanumericsBefore text j := alphanumericsBefore_mono before
  have least : alphanumericsBefore text j ≤ alphanumericsBefore text k :=
    alphanumericsBefore_mono (Nat.le_of_lt behind)
  exact wordAt_ne_of_cut goesOn (by omega) (by omega)

theorem opens_iff : (isUppercase d && opensWord c (text.drop i)) = true ↔ isUppercase d = true ∧
    (isLowercase c = true ∨ c.isDigit = true ∨
      isUppercase c = true ∧ ∃ e, text[i]? = some e ∧ isLowercase e = true) := by
  simp [opensWord, or_assoc, List.head?_drop, Option.any_eq_true]

/-- The words of a name are not empty and consist of all its letters and digits in their order. Neighbours
are in different words if and only if the second is a capital behind a small letter or a digit, or a capital
between a capital and a small letter. What stands on different sides of a separator is in different words. -/
theorem splitWords_cuts (name : String) :
    (∀ word ∈ splitWords name, word ≠ "" ∧ ∀ c ∈ word.toList, isAlphanumeric c = true) ∧
    (splitWords name).flatMap String.toList = name.toList.filter isAlphanumeric ∧
    (∀ i c, AlphanumericAt name.toList i c → ∃ k word, wordAt name.toList i = some k ∧
      (splitWords name)[k]? = some word ∧ c ∈ word.toList) ∧
    (∀ i c d, AlphanumericAt name.toList i c → AlphanumericAt name.toList (i + 1) d →
      (wordAt name.toList i ≠ wordAt name.toList (i + 1) ↔ isUppercase d = true ∧
        (isLowercase c = true ∨ c.isDigit = true ∨
          isUppercase c = true ∧ ∃ e, name.toList[i + 2]? = some e ∧ isLowercase e = true))) ∧
    ∀ i j k c separator d, i < j → j < k → AlphanumericAt name.toList i c →
      name.toList[j]? = some separator → isAlphanumeric separator ≠ true → AlphanumericAt name.toList k d →
        wordAt name.toList i ≠ wordAt name.toList k := by
  refine ⟨?_, ?_, ?_, fun i c d first second => (wordAt_ne_succ_iff first second).trans opens_iff, ?_⟩
  · intro word mem
    obtain ⟨chars, listed, rfl⟩ := List.mem_map.1 mem
    obtain ⟨nonempty, alphanumeric⟩ := mem_wordsFrom (by simp) listed
    exact ⟨by simpa using nonempty, by simpa using alphanumeric⟩
  · rw [← flatten_words, splitWords, List.flatMap_map]
    simp
  · intro i c place
    obtain ⟨k, word, found, there, inside⟩ := place.exists_wordAt
    exact ⟨k, String.ofList word, found, by simp [splitWords, there], by simpa using inside⟩
  · intro i j k c separator d before behind place between apart _
    exact wordAt_ne_of_separator place between apart before behind

/-- A capital that closes an abbreviation, and one that opens the word behind it. -/
theorem httpServer_cuts : splitWords "HTTPServer-v2" = ["HTTP", "Server", "v2"] ∧
    wordAt "HTTPServer-v2".toList 2 = wordAt "HTTPServer-v2".toList 3 ∧
    wordAt "HTTPServer-v2".toList 3 ≠ wordAt "HTTPServer-v2".toList 4 ∧
    wordAt "HTTPServer-v2".toList 9 ≠ wordAt "HTTPServer-v2".toList 11 := by
  obtain ⟨-, -, -, neighbours, separated⟩ := splitWords_cuts "HTTPServer-v2"
  have apart := neighbours 3 'P' 'S' ⟨by decide, by decide⟩ ⟨by decide, by decide⟩
  refine ⟨by rfl, by rfl, ?_, ?_⟩
  · exact apart.2 ⟨by decide, .inr (.inr ⟨by decide, 'e', by decide, by decide⟩)⟩
  · exact separated 9 10 11 'r' '-' 'v' (by decide) (by decide) ⟨by decide, by decide⟩ (by decide) (by decide)
      ⟨by decide, by decide⟩

end Places

end OpenApiCodegen.Text
