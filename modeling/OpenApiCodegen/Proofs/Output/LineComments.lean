import OpenApiCodegen.MobileClient.Syntax
import OpenApiCodegen.Proofs.Text.Lines
import OpenApiCodegen.Server.Syntax

namespace OpenApiCodegen.Code

open Text

variable {unit mark : String} {lead text line : List Char}

/-- The indentation and the mark in front of every line. -/
def lineStart (unit : String) (depth : Nat) (mark : String) : List Char :=
  (indentation unit depth).toList ++ mark.toList

def marked (lead line : List Char) : List Char :=
  lead ++ if line = [] then [] else ' ' :: line

/-- The characters of a comment without the blanks around it. -/
def trimmed (comment : Option String) : List Char :=
  trim (comment.getD "").toList

/-- How a comment may go on behind a CR: with the rest of an end of line, which is not a line of its own,
or with the mark. -/
def GoesOn (lead after : List Char) : Prop :=
  ['\n'] <+: after ∨ ['\r', '\n'] <+: after ∨ lead <+: after

theorem toList_markedComment (unit : String) (depth : Nat) (mark : String) (comment : Option String) :
    (textOfAll unit depth (markedComment mark comment)).toList =
      ((lines (trimmed comment)).map (marked (lineStart unit depth mark))).flatMap fun row => row ++ ['\n'] := by
  unfold markedComment commentLines trimmed
  induction lines (trim (comment.getD "").toList) with
  | nil => rfl
  | cons line others ih =>
    rw [List.map_cons, List.map_cons, textOfAll, String.toList_append, ih, List.map_cons, List.flatMap_cons]
    by_cases empty : line = []
    · subst empty
      simp [text, marked, lineStart]
    · simp [text, marked, lineStart, empty]

theorem notMem_lineStart {c : Char} (depth : Nat) (inside : c ∉ unit.toList) (outside : c ∉ mark.toList) :
    c ∉ lineStart unit depth mark := by
  simp [lineStart, indentation, String.toList_join, inside, outside]

theorem notMem_marked (outside : '\n' ∉ lead) (mem : line ∈ lines text) : '\n' ∉ marked lead line := by
  have plain := (of_mem_lines mem).2
  unfold marked
  split
  · simpa using outside
  · simp [outside, plain]

theorem linesAtFeeds_markedComment {depth : Nat} (comment : Option String)
    (outside : '\n' ∉ lineStart unit depth mark) :
    linesAtFeeds (textOfAll unit depth (markedComment mark comment)).toList =
      (lines (trimmed comment)).map (marked (lineStart unit depth mark)) := by
  rw [toList_markedComment]
  apply linesAtFeeds_flatMap
  intro row mem
  obtain ⟨line, listed, rfl⟩ := List.mem_map.1 mem
  exact notMem_marked outside listed

theorem splitOn_marked (returns : '\r' ∉ lead) :
    (∀ piece ∈ splitOn '\r' (dropCarriageReturn (marked lead line)), lead <+: piece) ↔
      EachAfter '\r' (lead <+: ·) (dropCarriageReturn line) := by
  by_cases empty : line = []
  · subst empty
    have bare : marked lead [] = lead := by simp [marked]
    have kept : dropCarriageReturn lead = lead := by
      apply dropCarriageReturn_of_ne
      intro last
      exact returns (List.mem_of_getLast? last)
    rw [bare, kept, EachAfter.splitOn_iff returns]
    exact iff_of_true ⟨List.prefix_rfl, .of_notMem returns⟩ (.of_notMem (by decide))
  · have full : marked lead line = (lead ++ [' ']) ++ line := by simp [marked, empty]
    have start : lead <+: (lead ++ [' ']) ++ dropCarriageReturn line := by simp
    rw [full, dropCarriageReturn_append _ empty, EachAfter.splitOn_iff returns, and_iff_right start]
    exact EachAfter.append_of_notMem (by simp [returns])

theorem splitOn_lines (feeds : '\n' ∉ lead) (returns : '\r' ∉ lead) (last : text.getLast? ≠ some '\r') :
    (∀ line ∈ lines text, ∀ piece ∈ splitOn '\r' (dropCarriageReturn (marked lead line)), lead <+: piece) ↔
      EachAfter '\r' (GoesOn lead) text := by
  simp only [splitOn_marked returns]
  -- an end of line is dropped twice, when the text is cut and when the comment is read back
  induction text using pieces_induction '\n' with
  | last piece outside =>
    have mark : ∀ after, after <:+ piece → (lead <+: after ↔ GoesOn lead after) := by
      intro after behind
      have plain : '\n' ∉ after := fun mem => outside (behind.subset mem)
      have feed : ¬ ['\n'] <+: after := fun found => plain (found.subset (by simp))
      have both : ¬ ['\r', '\n'] <+: after := fun found => plain (found.subset (by simp))
      simp [GoesOn, feed, both]
    rw [lines_last outside, ← EachAfter.congr_suffix mark]
    split
    · rename_i empty
      subst empty
      exact iff_of_true (by simp) (.of_notMem (by simp))
    · simp [dropCarriageReturn_of_ne last]
  | cut piece rest outside ih =>
    have mark : ∀ after, after <:+ piece →
        (after = [] ∨ dropCarriageReturn after = [] ∨ lead <+: dropCarriageReturn (dropCarriageReturn after) ↔
          GoesOn lead (after ++ '\n' :: rest)) := by
      intro after behind
      have plain : '\n' ∉ after := fun mem => outside (behind.subset mem)
      have feed : ['\n'] <+: after ++ '\n' :: rest ↔ after = [] := by
        cases after with
        | nil => simp
        | cons c after => simpa using fun same : '\n' = c => plain (same ▸ List.mem_cons_self)
      have both : ['\r', '\n'] <+: after ++ '\n' :: rest ↔ after = ['\r'] := by
        match after with
        | [] => simp
        | [c] => simp [eq_comm]
        | c :: d :: after =>
          have inner : '\n' ≠ d := by
            rintro rfl
            exact plain (by simp)
          simp [inner]
      rw [GoesOn, feed, both, prefix_append_cons_iff feeds, prefix_dropCarriageReturn_iff returns,
        prefix_dropCarriageReturn_iff returns, dropCarriageReturn_eq_nil, or_assoc, or_self_left]
    have later : rest.getLast? ≠ some '\r' := by
      intro found
      apply last
      simp [List.getLast?_append, List.getLast?_cons, found]
    rw [lines_cut outside, List.forall_mem_cons, ih later, EachAfter.dropCarriageReturn_iff,
      EachAfter.dropCarriageReturn_iff, EachAfter.congr_suffix mark, EachAfter.append_iff]
    have front : ['\n'] ++ rest = '\n' :: rest := rfl
    rw [← front, EachAfter.append_of_notMem (by decide : '\r' ∉ ['\n'])]

/-- To a reader who ends lines at CR too, every line of a comment is marked if and only if no CR in it is
followed by anything else than the rest of an end of line or a mark. -/
theorem linesAtEnds_markedComment {depth : Nat} (comment : Option String)
    (feeds : '\n' ∉ lineStart unit depth mark) (returns : '\r' ∉ lineStart unit depth mark) :
    (∀ line ∈ linesAtEnds (textOfAll unit depth (markedComment mark comment)).toList,
        lineStart unit depth mark <+: line) ↔
      EachAfter '\r' (GoesOn (lineStart unit depth mark)) (trimmed comment) := by
  have plain : ∀ row ∈ (lines (trimmed comment)).map (marked (lineStart unit depth mark)), '\n' ∉ row := by
    intro row mem
    obtain ⟨line, listed, rfl⟩ := List.mem_map.1 mem
    exact notMem_marked feeds listed
  have last : (trimmed comment).getLast? ≠ some '\r' := getLast?_trim_ne (by decide) _
  rw [toList_markedComment, linesAtEnds_flatMap plain, ← splitOn_lines feeds returns last]
  simp only [List.mem_flatMap, List.mem_map]
  constructor
  · intro every line listed piece mem
    exact every piece ⟨_, ⟨line, listed, rfl⟩, mem⟩
  · rintro every piece ⟨row, ⟨line, listed, rfl⟩, mem⟩
    exact every line listed piece mem

/-- Every line of a Go comment is marked, and it is a line of the text. A line of a Dart comment is not
marked where a CR without LF ends it. -/
theorem lineComments_marked (comment : Option String) (depth : Nat) :
    let inGo := (textOfAll Server.indent depth (Server.lineComment comment)).toList
    let inDart := (textOfAll MobileClient.indent depth (MobileClient.docComment comment)).toList
    linesAtFeeds inGo = (lines (trimmed comment)).map (marked (lineStart Server.indent depth "//")) ∧
      (∀ line ∈ linesAtFeeds inGo, lineStart Server.indent depth "//" <+: line) ∧
      ((∀ line ∈ linesAtEnds inDart, lineStart MobileClient.indent depth "///" <+: line) ↔
        EachAfter '\r' (GoesOn (lineStart MobileClient.indent depth "///")) (trimmed comment)) := by
  intro inGo inDart
  have go : linesAtFeeds inGo = (lines (trimmed comment)).map (marked (lineStart Server.indent depth "//")) :=
    linesAtFeeds_markedComment comment (notMem_lineStart depth (by decide) (by decide))
  refine ⟨go, ?_, ?_⟩
  · intro row mem
    rw [go] at mem
    obtain ⟨line, -, rfl⟩ := List.mem_map.1 mem
    exact List.prefix_append _ _
  · have feeds : '\n' ∉ lineStart MobileClient.indent depth "///" := notMem_lineStart depth (by decide) (by decide)
    have returns : '\r' ∉ lineStart MobileClient.indent depth "///" := notMem_lineStart depth (by decide) (by decide)
    exact linesAtEnds_markedComment comment feeds returns

theorem carriageReturn_unmarked :
    let text := textOfAll MobileClient.indent 0 (MobileClient.docComment (some "fast\rslow"))
    linesAtEnds text.toList = ["/// fast".toList, "slow".toList] ∧
      ¬ lineStart MobileClient.indent 0 "///" <+: "slow".toList := by
  decide +kernel

end OpenApiCodegen.Code
