import OpenApiCodegen.Proofs.Lowering.FreshNames

namespace OpenApiCodegen.Text

open Lowering (numbered numbered_injective)

variable {names : List String} {name : String} {i j k l : Nat}

theorem length_numberRepeatsAfter (seen names : List String) :
    (numberRepeatsAfter seen names).length = names.length := by
  induction names generalizing seen with
  | nil => rfl
  | cons name rest ih => simp [numberRepeatsAfter, ih]

theorem length_numberRepeats (names : List String) : (numberRepeats names).length = names.length :=
  length_numberRepeatsAfter [] names

theorem getElem?_numberRepeatsAfter (seen names : List String) (i : Nat) :
    (numberRepeatsAfter seen names)[i]? =
      names[i]?.map fun name => numbered name (seen.count name + (names.take i).count name + 1) := by
  induction names generalizing seen i with
  | nil => rfl
  | cons first rest ih =>
    rw [numberRepeatsAfter]
    cases i with
    | zero => simp [numbered]
    | succ i =>
      rw [List.getElem?_cons_succ, List.getElem?_cons_succ, ih, List.take_succ_cons]
      congr 1
      funext name
      simp only [List.count_cons]
      congr 1
      omega

theorem getElem?_numberRepeats (names : List String) (i : Nat) :
    (numberRepeats names)[i]? =
      names[i]?.map fun name => numbered name ((names.take i).count name + 1) := by
  simpa [numberRepeats] using getElem?_numberRepeatsAfter [] names i

theorem count_take_succ (here : names[i]? = some name) :
    (names.take (i + 1)).count name = (names.take i).count name + 1 := by
  simp [List.take_add_one, here]

theorem count_take_lt (here : names[i]? = some name) : (names.take i).count name < names.count name := by
  have through := ((List.take_sublist (i + 1) names).count_le name)
  rw [count_take_succ here] at through
  omega

theorem exists_occurrence (often : k < names.count name) :
    ∃ i, names[i]? = some name ∧ (names.take i).count name = k := by
  induction names generalizing k with
  | nil => simp at often
  | cons first rest ih =>
    by_cases same : first = name
    · subst same
      cases k with
      | zero => exact ⟨0, by simp⟩
      | succ k =>
        rw [List.count_cons_self] at often
        obtain ⟨i, here, before⟩ := ih (by omega : k < rest.count first)
        exact ⟨i + 1, by simpa using here, by simp [before]⟩
    · rw [List.count_cons_of_ne same] at often
      obtain ⟨i, here, before⟩ := ih often
      exact ⟨i + 1, by simpa using here, by simp [List.count_cons_of_ne same, before]⟩

theorem occurrence_unique (here : names[i]? = some name) (there : names[j]? = some name)
    (same : (names.take i).count name = (names.take j).count name) : i = j := by
  have ordered : ∀ {i j : Nat}, names[i]? = some name → i < j →
      (names.take i).count name < (names.take j).count name := by
    intro i j here before
    have through : (names.take (i + 1)).Sublist (names.take j) :=
      List.take_sublist_take_left (by omega)
    have more := through.count_le name
    rw [count_take_succ here] at more
    omega
  rcases Nat.lt_trichotomy i j with before | equal | behind
  · have less := ordered here before
    omega
  · exact equal
  · have less := ordered there behind
    omega

/-- No two numbered names, as often as the names repeat, are spelled alike by `spell`. -/
def ToldApart (spell : String → String) (names : List String) : Prop :=
  ∀ a ∈ names, ∀ b ∈ names, ∀ i < names.count a, ∀ j < names.count b,
    spell (numbered a (i + 1)) = spell (numbered b (j + 1)) → a = b ∧ i = j

instance (spell : String → String) (names : List String) : Decidable (ToldApart spell names) := by
  unfold ToldApart
  infer_instance

theorem nodup_numberRepeats_iff (spell : String → String) (names : List String) :
    ((numberRepeats names).map spell).Nodup ↔ ToldApart spell names := by
  have place : ∀ i, ((numberRepeats names).map spell)[i]? =
      names[i]?.map fun name => spell (numbered name ((names.take i).count name + 1)) := by
    intro i
    simp [getElem?_numberRepeats, Function.comp_def]
  rw [List.nodup_iff_getElem?_ne_getElem?]
  constructor
  · intro distinct a memA b memB i lessA j lessB same
    obtain ⟨p, hereA, beforeA⟩ := exists_occurrence lessA
    obtain ⟨q, hereB, beforeB⟩ := exists_occurrence lessB
    have alike : ((numberRepeats names).map spell)[p]? = ((numberRepeats names).map spell)[q]? := by
      simp [place, hereA, hereB, beforeA, beforeB, same]
    have equal : p = q := by
      have below : ∀ {p name}, names[p]? = some name → p < ((numberRepeats names).map spell).length := by
        intro p name here
        rw [List.length_map, length_numberRepeats]
        exact (List.getElem?_eq_some_iff.1 here).1
      rcases Nat.lt_trichotomy p q with before | equal | behind
      · exact absurd alike (distinct p q before (below hereB))
      · exact equal
      · exact absurd alike.symm (distinct q p behind (below hereA))
    subst equal
    obtain rfl : a = b := Option.some.inj (hereA.symm.trans hereB)
    exact ⟨rfl, beforeA.symm.trans beforeB⟩
  · intro apart p q before below alike
    rw [List.length_map, length_numberRepeats] at below
    have hereA := List.getElem?_eq_getElem (Nat.lt_trans before below)
    have hereB := List.getElem?_eq_getElem below
    rw [place, place, hereA, hereB, Option.map_some, Option.map_some] at alike
    obtain ⟨same, number⟩ := apart _ (List.mem_of_getElem? hereA) _ (List.mem_of_getElem? hereB) _
      (count_take_lt hereA) _ (count_take_lt hereB) (Option.some.inj alike)
    rw [same] at hereA number
    have equal := occurrence_unique hereA hereB number
    omega

def ordinal (n : Nat) : String :=
  if n ≤ 1 then "" else toString n

theorem numbered_eq (base : String) (n : Nat) : numbered base n = base ++ ordinal n := by
  unfold numbered ordinal
  split <;> simp

theorem isDigit_of_mem_ordinal {n : Nat} {c : Char} (mem : c ∈ (ordinal n).toList) : c.isDigit = true := by
  unfold ordinal at mem
  split at mem
  · cases mem
  · rw [Nat.toString_eq_repr, Nat.toList_repr] at mem
    exact Nat.isDigit_of_mem_toDigits (by decide) (by decide) mem

def AreDigits (text : String) : Prop :=
  text ≠ "" ∧ ∀ c ∈ text.toList, c.isDigit = true

/-- The `k`-th of several `a` is spelled like the `l`-th of the names that are `a` with digits behind it: the
number begins with these digits, and goes on like the number of the other name. -/
structure Misread (names : List String) (a digits : String) (k l : Nat) : Prop where
  added : AreDigits digits
  repeats : 2 ≤ k ∧ k ≤ names.count a
  occurs : 1 ≤ l ∧ l ≤ names.count (a ++ digits)
  spelled : toString k = digits ++ ordinal l

theorem Misread.numbered_eq {digits : String} (misread : Misread names name digits k l) :
    numbered name k = numbered (name ++ digits) l := by
  have later : ordinal k = toString k := if_neg (by have := misread.repeats.1; omega)
  rw [Text.numbered_eq, Text.numbered_eq, later, misread.spelled, String.append_assoc]

theorem exists_digits {a b : String} (other : a ≠ b) (same : numbered a i = numbered b j) :
    (∃ digits, AreDigits digits ∧ b = a ++ digits ∧ ordinal i = digits ++ ordinal j) ∨
      ∃ digits, AreDigits digits ∧ a = b ++ digits ∧ ordinal j = digits ++ ordinal i := by
  -- one of the names is a beginning of the other, and what it lacks is part of its number
  have half : ∀ {a b : String} {i j : Nat} {part : List Char}, a ≠ b → b.toList = a.toList ++ part →
      (ordinal i).toList = part ++ (ordinal j).toList →
        ∃ digits, AreDigits digits ∧ b = a ++ digits ∧ ordinal i = digits ++ ordinal j := by
    intro a b i j part other longer number
    have whole : b = a ++ String.ofList part := String.toList_inj.1 (by simpa using longer)
    refine ⟨String.ofList part, ⟨?_, ?_⟩, whole, String.toList_inj.1 (by simpa using number)⟩
    · intro empty
      rw [empty, String.append_empty] at whole
      exact other whole.symm
    · intro c mem
      rw [String.toList_ofList] at mem
      exact isDigit_of_mem_ordinal (number ▸ List.mem_append_left _ mem)
  have chars := congrArg String.toList same
  rw [numbered_eq, numbered_eq, String.toList_append, String.toList_append] at chars
  rcases List.append_eq_append_iff.1 chars with ⟨part, longer, number⟩ | ⟨part, longer, number⟩
  · exact .inl (half other longer number)
  · exact .inr (half other.symm longer number)

theorem misread_of_numbered {a b : String} (other : a ≠ b) (occursA : 1 ≤ k ∧ k ≤ names.count a)
    (occursB : 1 ≤ l ∧ l ≤ names.count b) (same : numbered a k = numbered b l) :
    (∃ digits, b = a ++ digits ∧ Misread names a digits k l) ∨
      ∃ digits, a = b ++ digits ∧ Misread names b digits l k := by
  have half : ∀ {a b : String} {k l : Nat}, 1 ≤ k ∧ k ≤ names.count a → 1 ≤ l ∧ l ≤ names.count b →
      (∃ digits, AreDigits digits ∧ b = a ++ digits ∧ ordinal k = digits ++ ordinal l) →
        ∃ digits, b = a ++ digits ∧ Misread names a digits k l := by
    rintro a b k l occursA occursB ⟨digits, added, rfl, number⟩
    have later : ¬k ≤ 1 := by
      intro first
      rw [ordinal, if_pos first] at number
      exact added.1 (String.append_eq_empty_iff.1 number.symm).1
    rw [ordinal, if_neg later] at number
    exact ⟨digits, rfl, added, ⟨by omega, occursA.2⟩, occursB, number⟩
  exact (exists_digits other same).imp (half occursA occursB) (half occursB occursA)

/-- Numbering leaves two names alike only where digits at the end of one are taken for the number of
another. -/
theorem nodup_numberRepeats_iff_not_misread (names : List String) :
    (numberRepeats names).Nodup ↔ ∀ a digits k l, ¬Misread names a digits k l := by
  have told := nodup_numberRepeats_iff id names
  rw [List.map_id] at told
  rw [told]
  constructor
  · intro apart a digits k l misread
    obtain ⟨two, often⟩ := misread.repeats
    obtain ⟨one, listed⟩ := misread.occurs
    have memA : a ∈ names := List.count_pos_iff.1 (by omega)
    have memB : a ++ digits ∈ names := List.count_pos_iff.1 (by omega)
    have alike : numbered a (k - 1 + 1) = numbered (a ++ digits) (l - 1 + 1) := by
      rw [Nat.sub_add_cancel (by omega), Nat.sub_add_cancel one]
      exact misread.numbered_eq
    obtain ⟨equal, -⟩ := apart a memA _ memB (k - 1) (by omega) (l - 1) (by omega) alike
    exact misread.added.1 (String.append_right_inj a |>.1 (equal.symm.trans String.append_empty.symm))
  · intro apart a memA b memB i lessA j lessB same
    by_cases equal : a = b
    · subst equal
      have number := numbered_injective (by omega) (by omega) same
      exact ⟨rfl, by omega⟩
    · rcases misread_of_numbered equal ⟨by omega, lessA⟩ ⟨by omega, lessB⟩ same with
        ⟨digits, -, misread⟩ | ⟨digits, -, misread⟩
      · exact absurd misread (apart a digits (i + 1) (j + 1))
      · exact absurd misread (apart b digits (j + 1) (i + 1))

section Occurrences

variable {text : String}

/-- The name stands at a place for the `k`-th time. -/
structure Occurrence (names : List String) (i : Nat) (name : String) (k : Nat) : Prop where
  here : names[i]? = some name
  number : (names.take (i + 1)).count name = k

theorem Occurrence.numbered (occurrence : Occurrence names i name k) :
    (numberRepeats names)[i]? = some (numbered name k) := by
  rw [getElem?_numberRepeats, occurrence.here, Option.map_some, ← count_take_succ occurrence.here,
    occurrence.number]

theorem Occurrence.bounds (occurrence : Occurrence names i name k) : 1 ≤ k ∧ k ≤ names.count name := by
  have number := occurrence.number
  rw [count_take_succ occurrence.here] at number
  have less := count_take_lt occurrence.here
  omega

theorem Occurrence.unique (first : Occurrence names i name k) (second : Occurrence names j name k) :
    i = j := by
  have number := first.number.trans second.number.symm
  rw [count_take_succ first.here, count_take_succ second.here] at number
  exact occurrence_unique first.here second.here (Nat.succ.inj number)

theorem exists_occurrence_of_numbered (written : (numberRepeats names)[i]? = some text) :
    ∃ name k, Occurrence names i name k ∧ text = Lowering.numbered name k := by
  have below := (List.getElem?_eq_some_iff.1 written).1
  rw [length_numberRepeats] at below
  have occurrence : Occurrence names i names[i] _ := ⟨List.getElem?_eq_getElem below, rfl⟩
  exact ⟨_, _, occurrence, Option.some.inj (written.symm.trans occurrence.numbered)⟩

theorem misread_of_alike (other : i ≠ j) (first : (numberRepeats names)[i]? = some text)
    (second : (numberRepeats names)[j]? = some text) : ∃ a digits k l, Misread names a digits k l ∧
      (Occurrence names i a k ∧ Occurrence names j (a ++ digits) l ∨
        Occurrence names j a k ∧ Occurrence names i (a ++ digits) l) := by
  obtain ⟨a, k, here, rfl⟩ := exists_occurrence_of_numbered first
  obtain ⟨b, l, there, same⟩ := exists_occurrence_of_numbered second
  have apart : a ≠ b := by
    rintro rfl
    obtain rfl := numbered_injective here.bounds.1 there.bounds.1 same
    exact other (here.unique there)
  rcases misread_of_numbered apart here.bounds there.bounds same with
    ⟨digits, rfl, misread⟩ | ⟨digits, rfl, misread⟩
  · exact ⟨a, digits, k, l, misread, .inl ⟨here, there⟩⟩
  · exact ⟨b, digits, l, k, misread, .inr ⟨there, here⟩⟩

/-- Numbers names one after the other, with a table of how often each has been met. -/
def numberCounting (counts : Std.HashMap String Nat) : List String → List String
  | [] => []
  | name :: rest =>
    let count := counts.getD name 0 + 1
    (if count = 1 then name else name ++ toString count) :: numberCounting (counts.insert name count) rest

/-- By induction on the names: a table that has counted the names met so far does so with the next one. -/
theorem numberCounting_eq {counts : Std.HashMap String Nat} {seen : List String}
    (counted : ∀ name, counts.getD name 0 = seen.count name) (names : List String) :
    numberCounting counts names = numberRepeatsAfter seen names := by
  induction names generalizing counts seen with
  | nil => rfl
  | cons first rest ih =>
    have next : ∀ name, (counts.insert first (counts.getD first 0 + 1)).getD name 0 =
        (first :: seen).count name := by
      intro name
      rw [Std.HashMap.getD_insert, List.count_cons, counted, counted]
      by_cases same : first = name
      · subst same
        simp
      · simp [same]
    rw [numberCounting, numberRepeatsAfter, ih next, counted]
    simp

/-- The `k`-th occurrence of a name has `k` behind it unless it is the first. Two places are called alike only
if one has a name that repeats, and the other has the same name with digits behind it. A table that counts the
names gives them the same numbers. -/
theorem numberRepeats_alike (names : List String) :
    (numberRepeats names).length = names.length ∧
    (∀ i name k, Occurrence names i name k →
      (numberRepeats names)[i]? = some (if k = 1 then name else name ++ toString k)) ∧
    (∀ (i j : Nat) (text : String), i ≠ j → (numberRepeats names)[i]? = some text →
      (numberRepeats names)[j]? = some text →
      ∃ a ∈ names, ∃ b ∈ names, 2 ≤ names.count a ∧ (∃ digits, AreDigits digits ∧ b = a ++ digits) ∧
        (names[i]? = some a ∧ names[j]? = some b ∨ names[j]? = some a ∧ names[i]? = some b)) ∧
    numberCounting ∅ names = numberRepeats names := by
  refine ⟨length_numberRepeats names, ?_, ?_, numberCounting_eq (by simp) names⟩
  · intro i name k occurrence
    have one := occurrence.bounds.1
    rw [occurrence.numbered, Lowering.numbered]
    by_cases first : k = 1
    · rw [if_pos (by omega), if_pos first]
    · rw [if_neg (by omega), if_neg first]
  · intro i j text other first second
    obtain ⟨a, digits, k, l, misread, places⟩ := misread_of_alike other first second
    have often := misread.repeats
    have occurs := misread.occurs
    have memA : a ∈ names := List.count_pos_iff.1 (by omega)
    have memB : a ++ digits ∈ names := List.count_pos_iff.1 (by omega)
    refine ⟨a, memA, a ++ digits, memB, by omega, ⟨digits, misread.added, rfl⟩, ?_⟩
    exact places.imp (fun found => ⟨found.1.here, found.2.here⟩) fun found => ⟨found.1.here, found.2.here⟩

/-- The second of two names is called like a name with a number of its own. -/
theorem reds_alike : (numberRepeats ["Red", "Red", "Red2"])[1]? = some "Red2" ∧
    (numberRepeats ["Red", "Red", "Red2"])[2]? = some "Red2" ∧
    ∃ a ∈ ["Red", "Red", "Red2"], ∃ b ∈ ["Red", "Red", "Red2"], 2 ≤ ["Red", "Red", "Red2"].count a ∧
      ∃ digits, AreDigits digits ∧ b = a ++ digits := by
  have second : (numberRepeats ["Red", "Red", "Red2"])[1]? = some "Red2" := by decide
  have third : (numberRepeats ["Red", "Red", "Red2"])[2]? = some "Red2" := by decide
  obtain ⟨-, -, alike, -⟩ := numberRepeats_alike ["Red", "Red", "Red2"]
  obtain ⟨a, memA, b, memB, often, longer, -⟩ := alike 1 2 "Red2" (by decide) second third
  exact ⟨second, third, a, memA, b, memB, often, longer⟩

end Occurrences

end OpenApiCodegen.Text
