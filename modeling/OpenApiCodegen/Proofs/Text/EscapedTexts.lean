import Mathlib.Data.List.Nodup
import OpenApiCodegen.Proofs.Text.Literals
import OpenApiCodegen.Target

namespace OpenApiCodegen

namespace Text

/-- How a character stands in an escaped text: on its own, or behind a backslash. -/
inductive Mark where
  | bare (c : Char)
  | escaped (c : Char)

def Mark.char : Mark → Char
  | bare c => c
  | escaped c => c

/-- Reads an escaped text. There has to be a character behind every backslash. -/
def marks? : List Char → Option (List Mark)
  | [] => some []
  | [c] => if c = backslash then none else some [.bare c]
  | c :: d :: rest =>
    if c = backslash then (marks? rest).map (.escaped d :: ·)
    else (marks? (d :: rest)).map (.bare c :: ·)

def replaceChar (c : Char) (image text : List Char) : List Char :=
  text.flatMap fun d => if d = c then image else [d]

/-- Replaces one character after the other throughout the text by itself behind a backslash. -/
def markEach (order text : List Char) : List Char :=
  order.foldl (fun marked c => replaceChar c [backslash, c] marked) text

section Reading

variable {special : List Char} {c : Char}

def markOf (special : List Char) (c : Char) : Mark :=
  if c = backslash ∨ c ∈ special then .escaped c else .bare c

@[simp] theorem char_markOf (special : List Char) (c : Char) : (markOf special c).char = c := by
  unfold markOf
  split <;> rfl

theorem markOf_ne_bare (inside : c ∈ special) (d : Char) : markOf special d ≠ .bare c := by
  unfold markOf
  split
  · exact nofun
  · rename_i plain
    rintro ⟨⟩
    exact plain (.inr inside)

theorem marks?_escaped (c : Char) (rest : List Char) :
    marks? (backslash :: c :: rest) = (marks? rest).map (.escaped c :: ·) := by
  rw [marks?, if_pos rfl]

theorem marks?_bare (other : c ≠ backslash) (rest : List Char) :
    marks? (c :: rest) = (marks? rest).map (.bare c :: ·) := by
  cases rest with
  | nil => simp [marks?, other]
  | cons d rest => rw [marks?, if_neg other]

/-- By induction on the text: what escaping writes for a character is read as one mark. -/
theorem marks?_escapeChars (special text : List Char) :
    marks? (escapeChars special text) = some (text.map (markOf special)) := by
  induction text with
  | nil => rfl
  | cons c text ih =>
    by_cases marked : c = backslash ∨ c ∈ special
    · rw [escapeChars, if_pos marked, marks?_escaped, ih, List.map_cons, markOf, if_pos marked,
        Option.map_some]
    · have other : c ≠ backslash := fun same => marked (.inl same)
      rw [escapeChars, if_neg marked, marks?_bare other, ih, List.map_cons, markOf, if_neg marked,
        Option.map_some]

theorem escapeChars_injective (special : List Char) : Function.Injective (escapeChars special) := by
  intro text text' same
  have marks := marks?_escapeChars special text
  rw [same, marks?_escapeChars, Option.some_inj] at marks
  have chars := congrArg (List.map Mark.char) marks
  simpa [Function.comp_def] using chars.symm

end Reading

section Replacing

variable {special image : List Char} {c d : Char}

theorem replaceChar_self (c : Char) (image rest : List Char) :
    replaceChar c image (c :: rest) = image ++ replaceChar c image rest := by
  simp [replaceChar]

theorem replaceChar_other (apart : d ≠ c) (rest : List Char) :
    replaceChar c image (d :: rest) = d :: replaceChar c image rest := by
  simp [replaceChar, apart]

theorem escapeChars_nil (text : List Char) :
    escapeChars [] text = replaceChar backslash [backslash, backslash] text := by
  induction text with
  | nil => rfl
  | cons d text ih =>
    by_cases same : d = backslash
    · subst same
      rw [escapeChars, if_pos (.inl rfl), ih, replaceChar_self]
      rfl
    · have plain : ¬(d = backslash ∨ d ∈ []) := by simpa using same
      rw [escapeChars, if_neg plain, ih, replaceChar_other same]

/-- A character that nothing was done about can be replaced later: the backslashes that are there already
are none of its occurrences. -/
theorem replaceChar_escapeChars (other : c ≠ backslash) (fresh : c ∉ special) (text : List Char) :
    replaceChar c [backslash, c] (escapeChars special text) = escapeChars (special ++ [c]) text := by
  induction text with
  | nil => rfl
  | cons d text ih =>
    by_cases same : d = c
    · subst same
      have before : ¬(d = backslash ∨ d ∈ special) := not_or.2 ⟨other, fresh⟩
      have after : d = backslash ∨ d ∈ special ++ [d] := .inr (by simp)
      rw [escapeChars, if_neg before, escapeChars, if_pos after, replaceChar_self, ih]
      rfl
    · have alike : (d = backslash ∨ d ∈ special ++ [c]) ↔ (d = backslash ∨ d ∈ special) := by
        simp [same]
      by_cases marked : d = backslash ∨ d ∈ special
      · rw [escapeChars, if_pos marked, escapeChars, if_pos (alike.2 marked),
          replaceChar_other other.symm, replaceChar_other same, ih]
      · rw [escapeChars, if_neg marked, escapeChars, if_neg (mt alike.1 marked), replaceChar_other same, ih]

theorem markEach_escapeChars {rest : List Char} (distinct : (special ++ rest).Nodup)
    (unlike : backslash ∉ rest) (text : List Char) :
    markEach rest (escapeChars special text) = escapeChars (special ++ rest) text := by
  induction rest generalizing special with
  | nil => rw [List.append_nil, markEach, List.foldl_nil]
  | cons c rest ih =>
    have other : c ≠ backslash := fun same => unlike (same ▸ List.mem_cons_self)
    have fresh : c ∉ special := fun inside =>
      List.disjoint_of_nodup_append distinct inside List.mem_cons_self
    have regrouped : special ++ c :: rest = (special ++ [c]) ++ rest := by simp
    have step : markEach (c :: rest) (escapeChars special text) =
        markEach rest (replaceChar c [backslash, c] (escapeChars special text)) := rfl
    rw [step, replaceChar_escapeChars other fresh, regrouped]
    exact ih (regrouped ▸ distinct) fun inside => unlike (List.mem_cons_of_mem c inside)

theorem escapeChars_eq_markEach (distinct : special.Nodup) (unlike : backslash ∉ special)
    (text : List Char) : escapeChars special text = markEach (backslash :: special) text := by
  have nodup : ([] ++ special).Nodup := distinct
  have later := markEach_escapeChars nodup unlike text
  rw [escapeChars_nil] at later
  exact later.symm

end Replacing

end Text

namespace Target

def quoting : Target → Text.Quoting
  | mobileClient => Text.singleQuotes
  | server => Text.doubleQuotes
  | webClient => Text.doubleQuotes

def escape : Target → String → String
  | mobileClient => Text.escapeDart
  | server => Text.escapeGo
  | webClient => Text.escapeJavaScript

theorem toList_escape (target : Target) (text : String) :
    (target.escape text).toList = Text.escapeChars target.quoting.special text.toList := by
  cases target <;> exact String.toList_ofList

end Target

open Text (Mark marks? markEach)

/-- An escaped text has a character behind every backslash, and is read as the text that was escaped. A
delimiter is always behind a backslash, and so is the mark of interpolation where there is one. -/
theorem escaped_reads_back (target : Target) :
    (∀ text, ∃ marks, marks? (target.escape text).toList = some marks ∧
      marks.map Mark.char = text.toList ∧ .bare target.quoting.delimiter ∉ marks ∧
      (target = .mobileClient → .bare '$' ∉ marks)) ∧
    Function.Injective target.escape ∧
    ∀ text, (target.escape text).toList =
      markEach (Text.backslash :: target.quoting.special) text.toList := by
  have behind : ∀ {c}, c ∈ target.quoting.special → ∀ text : String,
      .bare c ∉ text.toList.map (Text.markOf target.quoting.special) := by
    intro c inside text mem
    obtain ⟨d, -, same⟩ := List.mem_map.1 mem
    exact Text.markOf_ne_bare inside d same
  refine ⟨fun text => ⟨text.toList.map (Text.markOf target.quoting.special), ?_, ?_, ?_, ?_⟩, ?_, ?_⟩
  · rw [Target.toList_escape, Text.marks?_escapeChars]
  · simp [Function.comp_def]
  · exact behind target.quoting.delimited text
  · rintro rfl
    exact behind (by decide) text
  · intro text text' same
    have chars := congrArg String.toList same
    rw [Target.toList_escape, Target.toList_escape] at chars
    exact String.toList_inj.1 (Text.escapeChars_injective _ chars)
  · intro text
    have distinct : target.quoting.special.Nodup := by cases target <;> decide
    have unlike : Text.backslash ∉ target.quoting.special := by cases target <;> decide
    rw [Target.toList_escape, Text.escapeChars_eq_markEach distinct unlike]

/-- A backslash of the text does not pass for the one in front of the quote behind it. -/
example : (Target.webClient.escape "\\\"").toList = ['\\', '\\', '\\', '"'] := by
  decide

end OpenApiCodegen
