import OpenApiCodegen.Lowering.Names
import OpenApiCodegen.MobileClient.Models
import OpenApiCodegen.Proofs.Text.Capitals
import OpenApiCodegen.Server.Models
import OpenApiCodegen.Target
import OpenApiCodegen.WebClient.Requests

namespace OpenApiCodegen

namespace Text

variable {word name other suffix : String} {c : Char}

theorem startsWithDigit_iff : startsWithDigit name = true ↔ ∃ d rest, name.toList = d :: rest ∧ d.isDigit = true := by
  unfold startsWithDigit
  cases name.toList <;> simp

theorem toList_afterLetter (digit : startsWithDigit name = true) : (afterLetter name).toList = 'n' :: name.toList := by
  simp [afterLetter, digit]

theorem afterLetter_inj (same : afterLetter name = afterLetter other) : name = other ∨
    startsWithDigit name = true ∧ other = "n" ++ name ∨ startsWithDigit other = true ∧ name = "n" ++ other := by
  unfold afterLetter at same
  split at same
  · rename_i digit
    split at same
    · exact .inl ((String.append_right_inj "n").1 same)
    · exact .inr (.inl ⟨digit, same.symm⟩)
  · split at same
    · rename_i digit
      exact .inr (.inr ⟨digit, same⟩)
    · exact .inl same

theorem orValue_of_ne (some : name ≠ "") : orValue name = name := by
  simp [orValue, some]

theorem escape_underscore_iff (reserved : ReservedWords) (plain : '_' ∉ (afterLetter (orValue name)).toList)
    (plain' : '_' ∉ (afterLetter (orValue other)).toList) :
    reserved.escape "_" name = reserved.escape "_" other ↔
      afterLetter (orValue name) = afterLetter (orValue other) := by
  have marked : ∀ {a b : String}, '_' ∉ b.toList → a ++ "_" ≠ b := by
    rintro a b plain rfl
    simp at plain
  constructor
  · intro same
    unfold ReservedWords.escape at same
    dsimp only at same
    split at same
    · split at same
      · exact (String.append_left_inj "_").1 same
      · exact absurd same (marked plain')
    · split at same
      · exact absurd same.symm (marked plain)
      · exact same
  · intro same
    simp [ReservedWords.escape, same]

theorem words_digit {d : Char} (digit : d.isDigit = true) (text : List Char) : ∃ rest others,
    words (d :: text) = (d :: rest) :: others ∧ words ('n' :: d :: text) = ('n' :: d :: rest) :: others := by
  have alphanumeric : isAlphanumeric d = true := forall_digit (P := fun d => isAlphanumeric d = true) (by decide) digit
  have small : isUppercase d = false := forall_digit (P := fun d => isUppercase d = false) (by decide) digit
  obtain ⟨rest, others, begun⟩ := wordsFrom_begun d text
  refine ⟨rest, others, ?_, ?_⟩
  · rw [words, wordsFrom, if_pos alphanumeric]
    exact begun []
  · have letter : isAlphanumeric 'n' = true := by decide
    rw [words, wordsFrom, if_pos letter, wordsFrom, if_pos alphanumeric, small, Bool.false_and, if_neg Bool.false_ne_true]
    exact begun ['n']

theorem pascalCase_digit (digit : startsWithDigit name = true) :
    startsWithDigit (pascalCase name) = true ∧ pascalCase ("n" ++ name) = "N" ++ pascalCase name := by
  obtain ⟨d, text, written, digit⟩ := startsWithDigit_iff.1 digit
  obtain ⟨rest, others, own, behind⟩ := words_digit digit text
  have upper : upperOf d = [d] := forall_digit (P := fun d => upperOf d = [d]) (by decide) digit
  have lower : lowerOf d = [d] := forall_digit (P := fun d => lowerOf d = [d]) (by decide) digit
  have front : ("n" ++ name).toList = 'n' :: d :: text := by simp [written]
  have letter : upperOf 'n' = ['N'] := by decide
  constructor
  · apply startsWithDigit_iff.2
    refine ⟨d, rest.flatMap lowerOf ++ others.flatMap capitalizeWord, ?_, digit⟩
    simp [pascalCase, pascalChars, written, own, capitalizeWord, upper]
  · refine String.toList_inj.1 ?_
    simp [pascalCase, pascalChars, front, written, own, behind, capitalizeWord, upper, lower, letter]

theorem capitalize_n (name : String) : capitalize ("n" ++ name) = "N" ++ name := by
  refine String.toList_inj.1 ?_
  have letter : upperOf 'n' = ['N'] := by decide
  simp [capitalize, capitalizeChars, letter]

theorem capitalize_N (name : String) : capitalize ("N" ++ name) = "N" ++ name := by
  refine String.toList_inj.1 ?_
  have letter : upperOf 'N' = ['N'] := by decide
  simp [capitalize, capitalizeChars, letter]

end Text

namespace Lowering

open Text

theorem spelled_of_mem_capitalizeWord {word : List Char} {d : Char}
    (spelled : ∀ c ∈ word, Spelled Char.isAlpha c) (mem : d ∈ capitalizeWord word) :
    Spelled Char.isAlpha d := by
  cases word with
  | nil => cases mem
  | cons c rest =>
    rcases List.mem_append.1 mem with first | later
    · exact (spelled_of_mem_upperOf (spelled c List.mem_cons_self) first).upper
    · obtain ⟨e, inside, mem⟩ := List.mem_flatMap.1 later
      exact (spelled_of_mem_lowerOf (spelled e (List.mem_cons_of_mem c inside)) mem).lower

structure Plain (name : String) : Prop where
  nonempty : name ≠ ""
  spelled : ∀ c ∈ name.toList, Spelled Char.isAlpha c

theorem plain_identifier (wireName : String) : Plain (identifier wireName) := by
  have spelled : ∀ c ∈ (camelCase wireName).toList, Spelled Char.isAlpha c := by
    intro c mem
    rw [camelCase, String.toList_ofList, camelChars] at mem
    split at mem
    · cases mem
    · rename_i first others written
      have words : ∀ word ∈ first :: others, ∀ c ∈ word, Spelled Char.isAlpha c :=
        fun word inside => (mem_words (written ▸ inside)).2
      rcases List.mem_append.1 mem with start | later
      · exact (spelled_of_mem_lowerFrom (words first List.mem_cons_self) start).lower
      · obtain ⟨word, inside, mem⟩ := List.mem_flatMap.1 later
        exact spelled_of_mem_capitalizeWord (words word (List.mem_cons_of_mem first inside)) mem
  unfold identifier orValue
  split
  · have letters : "value".toList.all Char.isAlpha = true := by rfl
    exact ⟨by decide, fun c mem => .inl (List.all_eq_true.1 letters c mem)⟩
  · rename_i some
    exact ⟨fun empty => some (by simp [empty]), spelled⟩

namespace Plain

variable {name other : String}

theorem no_underscore (plain : Plain name) : '_' ∉ (afterLetter (orValue name)).toList := by
  have outside : '_' ∉ name.toList := by
    intro mem
    rcases plain.spelled '_' mem with alpha | digit | beyond
    · cases alpha
    · cases digit
    · revert beyond
      decide
  rw [orValue_of_ne plain.nonempty]
  unfold afterLetter
  split <;> simp [outside]

end Plain

end Lowering

open Lowering (Plain)

def fieldSpelling : Target → String → String
  | .mobileClient => MobileClient.fieldName
  | .server => Server.fieldName
  | .webClient => Text.afterLetter

variable {name other : String}

theorem MobileClient.fieldName_eq_iff (plain : Plain name) (plain' : Plain other) :
    fieldName name = fieldName other ↔ Text.afterLetter name = Text.afterLetter other := by
  have compared := Text.escape_underscore_iff Text.dartReserved plain.no_underscore plain'.no_underscore
  rw [Text.orValue_of_ne plain.nonempty, Text.orValue_of_ne plain'.nonempty] at compared
  exact compared

namespace Server

theorem not_reserved {c : Char} {rest : List Char} (begun : c = 'n' ∨ c.isLower = false)
    (written : name.toList = c :: rest) : Text.goReserved.contains name = false := by
  have small : Text.goReserved.words.all (fun word => word.toList.head?.any fun c => c != 'n' && c.isLower) =
      true := by
    rfl
  apply Bool.eq_false_iff.2
  intro found
  have begins := List.all_eq_true.1 small name (List.contains_iff_mem.1 found)
  rw [written, List.head?_cons, Option.any_some] at begins
  rcases begun with rfl | capital
  · cases begins
  · simp [capital] at begins

theorem fieldName_eq (name : String) :
    fieldName name = Text.capitalize (Text.afterLetter (Text.orValue (Text.pascalCase name))) := by
  have capitalized := Text.capitalized_pascalCase name
  unfold fieldName
  generalize Text.pascalCase name = base at capitalized
  have free : Text.goReserved.contains (Text.afterLetter (Text.orValue base)) = false := by
    by_cases empty : base = ""
    · subst empty
      rfl
    · rw [Text.orValue_of_ne empty]
      by_cases digit : Text.startsWithDigit base = true
      · exact not_reserved (.inl rfl) (Text.toList_afterLetter digit)
      · have kept : Text.afterLetter base = base := if_neg digit
        rw [kept]
        obtain ⟨c, rest, written⟩ := List.exists_cons_of_ne_nil (mt String.toList_eq_nil_iff.1 empty)
        apply not_reserved (.inr _) written
        exact Bool.eq_false_iff.2 fun lower => capitalized.ne_cons lower written
  rw [Text.ReservedWords.escape]
  simp [free]

theorem fieldName_digit (digit : Text.startsWithDigit name = true) :
    fieldName ("n" ++ name) = fieldName name := by
  obtain ⟨begins, behind⟩ := Text.pascalCase_digit digit
  rw [fieldName_eq, fieldName_eq, behind]
  generalize Text.pascalCase name = base at begins
  have some : base ≠ "" := by
    rintro rfl
    cases begins
  have letter : Text.afterLetter ("N" ++ base) = "N" ++ base := by
    apply if_neg
    simp [Text.startsWithDigit]
  have before : Text.afterLetter base = "n" ++ base := if_pos begins
  rw [Text.orValue_of_ne some, Text.orValue_of_ne (by simp), letter, before, Text.capitalize_n,
    Text.capitalize_N]

theorem fieldName_of_afterLetter (same : Text.afterLetter name = Text.afterLetter other) :
    fieldName name = fieldName other := by
  rcases Text.afterLetter_inj same with rfl | ⟨digit, rfl⟩ | ⟨digit, rfl⟩
  · rfl
  · exact (fieldName_digit digit).symm
  · exact fieldName_digit digit

end Server

end OpenApiCodegen
