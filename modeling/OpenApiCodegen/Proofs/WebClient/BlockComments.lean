import OpenApiCodegen.Proofs.Output.CodeText
import OpenApiCodegen.Proofs.Text.Lines
import OpenApiCodegen.WebClient.Syntax

namespace OpenApiCodegen.WebClient

open Text

variable {text other comment before after : List Char}

def Unclosed (text : List Char) : Prop :=
  ¬ ['*', '/'] <:+: text

/-- One block comment from its first character to its last one. -/
structure BlockComment (comment : List Char) : Prop where
  opens : ['/', '*', '*'] <+: comment
  closes : ['*', '/'] <:+ comment
  once : ∀ before after, comment = before ++ ['*', '/'] ++ after → after = []

def readClosed : List Char → Option (List Char × List Char)
  | [] => none
  | [_] => none
  | c :: d :: rest =>
    if c = '*' ∧ d = '/' then some ([c, d], rest)
    else (readClosed (d :: rest)).map fun found => (c :: found.1, found.2)

/-- The block comment in front, as a compiler finds it, and the code that follows it. -/
def readComment? (cs : List Char) : Option (List Char × List Char) :=
  (dropStart? ['/', '*'] cs).bind fun rest =>
    (readClosed rest).map fun found => ('/' :: '*' :: found.1, found.2)

namespace Unclosed

theorem of_notMem (outside : '*' ∉ text) : Unclosed text :=
  fun closed => outside (closed.subset (by simp))

theorem of_infix (unclosed : Unclosed text) (inside : other <:+: text) : Unclosed other :=
  fun closed => unclosed (closed.trans inside)

theorem cons_iff {c : Char} :
    Unclosed (c :: text) ↔ ¬ (c = '*' ∧ text.head? = some '/') ∧ Unclosed text := by
  have pair : ['*', '/'] <+: c :: text ↔ c = '*' ∧ text.head? = some '/' := by
    cases text <;> simp [List.cons_prefix_cons, eq_comm]
  unfold Unclosed
  rw [List.infix_cons_iff, pair, not_or]

theorem append_cons {c : Char} (first : Unclosed before) (second : Unclosed after)
    (plain : c ≠ '*' ∧ c ≠ '/') : Unclosed (before ++ c :: after) := by
  induction before with
  | nil => exact cons_iff.2 ⟨fun same => plain.1 same.1, second⟩
  | cons d before ih =>
    obtain ⟨apart, later⟩ := cons_iff.1 first
    apply cons_iff.2
    refine ⟨?_, ih later⟩
    cases before with
    | nil => simpa using fun _ => plain.2
    | cons e before => simpa using apart

end Unclosed

theorem head?_replacePair (c d : Char) (more text : List Char) :
    (replacePair c d (c :: more) text).head? = text.head? := by
  fun_cases replacePair c d (c :: more) text with
  | case1 => rfl
  | case2 e => rfl
  | case3 e f rest same => simp [same]
  | case4 e f rest other => rfl

theorem unclosed_replacePair (text : List Char) :
    Unclosed (replacePair '*' '/' ['*', '\\', '/'] text) := by
  -- a star that is kept may stand before a slash afterwards only if it did so before
  induction text using replacePair.induct '*' '/' with
  | case1 => exact .of_notMem (by simp [replacePair])
  | case2 c => simp [replacePair, Unclosed.cons_iff, Unclosed.of_notMem]
  | case3 c d rest pair ih =>
    have slash : Unclosed ('/' :: replacePair '*' '/' ['*', '\\', '/'] rest) :=
      Unclosed.cons_iff.2 ⟨by simp, ih⟩
    have star : Unclosed ['*'] := Unclosed.cons_iff.2 ⟨by simp, .of_notMem (by simp)⟩
    rw [replacePair, if_pos pair]
    exact star.append_cons slash (by decide : '\\' ≠ '*' ∧ '\\' ≠ '/')
  | case4 c d rest apart ih =>
    rw [replacePair, if_neg apart]
    apply Unclosed.cons_iff.2
    rw [head?_replacePair]
    exact ⟨by simpa using apart, ih⟩

theorem unclosed_of_mem_docLines {doc : Option String} {deprecated : Bool} {line : String}
    (mem : line ∈ docLines doc deprecated) : Unclosed line.toList := by
  rcases List.mem_append.1 mem with ofText | marker
  · obtain ⟨chars, listed, rfl⟩ := List.mem_map.1 ofText
    have escaped : Unclosed ((doc.map keepOpen).getD "").toList := by
      cases doc with
      | none => exact .of_notMem (by decide)
      | some text => simpa [keepOpen] using unclosed_replacePair text.toList
    have inside := (of_mem_lines listed).1.trans (trim_within _)
    simpa using escaped.of_infix inside
  · cases deprecated with
    | false => cases marker
    | true =>
      rw [List.mem_singleton.1 marker]
      exact .of_notMem (by decide)

theorem blockComment_of_unclosed (opens : ['/', '*', '*'] <+: text) (unclosed : Unclosed text) :
    BlockComment (text ++ [' ', '*', '/']) where
  opens := opens.trans (List.prefix_append text _)
  closes := ⟨text ++ [' '], by simp⟩
  once := by
    intro before after same
    rcases List.eq_nil_or_concat after with empty | ⟨rest, last, rfl⟩
    · exact empty
    · exfalso
      have shorter : text ++ ' ' :: ['*'] = before ++ ['*', '/'] ++ rest := by
        have ends := congrArg List.dropLast same
        rw [List.concat_eq_append, ← List.append_assoc, List.dropLast_concat] at ends
        rw [← ends, List.dropLast_append_of_ne_nil (by simp)]
        rfl
      have inner : Unclosed (text ++ ' ' :: ['*']) :=
        unclosed.append_cons (Unclosed.cons_iff.2 (by simp [Unclosed])) (by decide)
      exact inner ⟨before, rest, shorter.symm⟩

theorem readClosed_append (unclosed : Unclosed text) (code : List Char) :
    readClosed (text ++ ' ' :: '*' :: '/' :: code) = some (text ++ [' ', '*', '/'], code) := by
  induction text with
  | nil => simp [readClosed]
  | cons c text ih =>
    obtain ⟨apart, later⟩ := Unclosed.cons_iff.1 unclosed
    have found := ih later
    cases text with
    | nil => simp [readClosed]
    | cons d text =>
      have other : ¬ (c = '*' ∧ d = '/') := by simpa using apart
      rw [List.cons_append] at found
      rw [List.cons_append, List.cons_append, readClosed, if_neg other, found]
      rfl

theorem readComment?_append (opens : ['/', '*', '*'] <+: text) (unclosed : Unclosed text)
    (code : List Char) :
    readComment? (text ++ [' ', '*', '/'] ++ code) = some (text ++ [' ', '*', '/'], code) := by
  obtain ⟨inner, rfl⟩ := opens
  have behind : Unclosed ('*' :: inner) := by
    apply unclosed.of_infix
    exact ⟨['/', '*'], [], by simp⟩
  have read := readClosed_append behind code
  rw [readComment?, List.append_assoc, List.append_assoc]
  rw [List.cons_append] at read
  simp [dropStart?, read]

def starred (line : List Char) : List Char :=
  ' ' :: '*' :: if line = [] then [] else ' ' :: line

def openComment (indentation : List Char) : List (List Char) → List Char
  | [line] => ['/', '*', '*', ' '] ++ line
  | lines =>
    ['/', '*', '*', '\n'] ++ (lines.flatMap fun line => indentation ++ starred line ++ ['\n']) ++ indentation

theorem text_starred (depth : Nat) (lines : List String) :
    (Code.textOfAll indent depth
        (lines.map fun line => .line (if line.isEmpty then " *" else " * " ++ line))).toList =
      (lines.map String.toList).flatMap fun line =>
        (Code.indentation indent depth).toList ++ starred line ++ ['\n'] := by
  have row : ∀ line : String, (if line.isEmpty then " *" else " * " ++ line).toList = starred line.toList := by
    intro line
    by_cases empty : line = ""
    · subst empty
      rfl
    · simp [starred, empty]
  induction lines with
  | nil => rfl
  | cons line lines ih =>
    rw [List.map_cons, Code.textOfAll, Code.text, String.toList_append, String.toList_append,
      String.toList_append, row, ih]
    rfl

theorem text_docComment {doc : Option String} {deprecated : Bool} (depth : Nat)
    (some : docLines doc deprecated ≠ []) :
    let indentation := (Code.indentation indent depth).toList
    (Code.textOfAll indent depth (docComment doc deprecated)).toList =
      indentation ++ (openComment indentation ((docLines doc deprecated).map String.toList) ++ [' ', '*', '/']) ++
        ['\n'] := by
  intro indentation
  unfold docComment
  generalize docLines doc deprecated = lines at some
  match lines with
  | [] => contradiction
  | [line] => simp [indentation, openComment, Code.textOfAll, Code.text, toString]
  | first :: second :: lines =>
    simp only
    rw [List.cons_append, Code.textOfAll, Code.textOfAll_append, String.toList_append,
      String.toList_append, text_starred]
    simp [indentation, openComment, Code.textOfAll, Code.text]

theorem opens_openComment (indentation : List Char) (lines : List (List Char)) :
    ['/', '*', '*'] <+: openComment indentation lines := by
  unfold openComment
  split <;> simp

theorem unclosed_openComment {indentation : List Char} {lines : List (List Char)}
    (plain : '*' ∉ indentation) (unclosed : ∀ line ∈ lines, Unclosed line) :
    Unclosed (openComment indentation lines) := by
  have opening : Unclosed ['/', '*', '*'] := by simp [Unclosed.cons_iff, Unclosed.of_notMem]
  have star : Unclosed ['*'] := by simp [Unclosed.cons_iff, Unclosed.of_notMem]
  have marked : ∀ line, Unclosed line → Unclosed (indentation ++ starred line) := by
    intro line unclosed
    apply Unclosed.append_cons (.of_notMem plain) _ (by decide)
    split
    · exact star
    · exact star.append_cons unclosed (by decide)
  have rows : Unclosed ((lines.flatMap fun line => indentation ++ starred line ++ ['\n']) ++ indentation) := by
    induction lines with
    | nil => exact .of_notMem plain
    | cons line lines ih =>
      have first := marked line (unclosed line List.mem_cons_self)
      have later := ih fun other mem => unclosed other (List.mem_cons_of_mem line mem)
      rw [List.flatMap_cons, List.append_assoc, List.append_assoc, List.singleton_append]
      exact first.append_cons later (by decide)
  unfold openComment
  split
  · rename_i line
    exact opening.append_cons (unclosed line (by simp)) (by decide : ' ' ≠ '*' ∧ ' ' ≠ '/')
  · rw [List.append_assoc]
    exact opening.append_cons rows (by decide : '\n' ≠ '*' ∧ '\n' ≠ '/')

theorem infix_openComment {indentation line : List Char} {lines : List (List Char)} (mem : line ∈ lines) :
    line <:+: openComment indentation lines := by
  unfold openComment
  split
  · rw [List.mem_singleton.1 mem]
    exact ⟨['/', '*', '*', ' '], [], by simp⟩
  · have inside : line <:+: indentation ++ starred line ++ ['\n'] := by
      unfold starred
      split
      · simp [*]
      · exact ⟨indentation ++ [' ', '*', ' '], ['\n'], by simp⟩
    have among := List.infix_of_mem_flatten
      (List.mem_map_of_mem (f := fun line => indentation ++ starred line ++ ['\n']) mem)
    rw [← List.flatMap_def] at among
    exact List.infix_append_of_infix_left (List.infix_append_of_infix_right (inside.trans among))

/-- Nothing is written for a declaration without a description that is not deprecated. Otherwise it is
one block comment behind the indentation, which holds every line of the description; a compiler that has
read it is at the code behind its last character. -/
theorem docComment_contained (doc : Option String) (deprecated : Bool) (depth : Nat) :
    let text := Code.textOfAll indent depth (docComment doc deprecated)
    (docLines doc deprecated = [] ∧ text = "") ∨
      ∃ comment, text.toList = (Code.indentation indent depth).toList ++ comment ++ ['\n'] ∧
        BlockComment comment ∧
        (∀ line ∈ docLines doc deprecated, line.toList <:+: comment) ∧
        ∀ code, readComment? (comment ++ code) = some (comment, code) := by
  intro text
  by_cases empty : docLines doc deprecated = []
  · left
    refine ⟨empty, ?_⟩
    simp [text, docComment, empty, Code.textOfAll]
  · right
    have plain : '*' ∉ (Code.indentation indent depth).toList := by
      simp [Code.indentation, String.toList_join, indent]
    have unclosed : Unclosed (openComment (Code.indentation indent depth).toList
        ((docLines doc deprecated).map String.toList)) := by
      apply unclosed_openComment plain
      intro line mem
      obtain ⟨source, listed, rfl⟩ := List.mem_map.1 mem
      exact unclosed_of_mem_docLines listed
    have opens := opens_openComment (Code.indentation indent depth).toList
      ((docLines doc deprecated).map String.toList)
    refine ⟨_, text_docComment depth empty, blockComment_of_unclosed opens unclosed, ?_,
      readComment?_append opens unclosed⟩
    intro line mem
    have written := List.mem_map_of_mem mem (f := String.toList)
    have inside : line.toList <:+: openComment (Code.indentation indent depth).toList
        ((docLines doc deprecated).map String.toList) := infix_openComment written
    exact List.infix_append_of_infix_left inside

end OpenApiCodegen.WebClient
