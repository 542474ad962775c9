import Mathlib.Data.List.Infix
import OpenApiCodegen.Proofs.Text.Cuts

namespace OpenApiCodegen.Text

variable {c d : Char} {text piece rest front lead : List Char}

theorem pieces_induction (c : Char) {motive : List Char → Prop}
    (last : ∀ piece, c ∉ piece → motive piece)
    (cut : ∀ piece rest, c ∉ piece → motive rest → motive (piece ++ c :: rest)) (text : List Char) :
    motive text := by
  induction size : text.length using Nat.strong_induction_on generalizing text with
  | _ size ih =>
    by_cases mem : c ∈ text
    · obtain ⟨piece, rest, rfl, outside⟩ := List.eq_append_cons_of_mem mem
      apply cut piece rest outside
      apply ih rest.length _ rest rfl
      rw [List.length_append, List.length_cons] at size
      omega
    · exact last text mem

theorem splitOn_cut (outside : c ∉ piece) (rest : List Char) :
    splitOn c (piece ++ c :: rest) = piece :: splitOn c rest := by
  rw [splitOn_append_cons, splitOn_eq_singleton outside, List.singleton_append]

theorem lines_last (outside : '\n' ∉ piece) : lines piece = if piece = [] then [] else [piece] := by
  simp [lines, splitOn_eq_singleton outside]

theorem lines_cut (outside : '\n' ∉ piece) (rest : List Char) :
    lines (piece ++ '\n' :: rest) = dropCarriageReturn piece :: lines rest := by
  have more := splitOn_ne_nil '\n' rest
  have last : (piece :: splitOn '\n' rest).getLast? = (splitOn '\n' rest).getLast? := by
    simp [List.getLast?_cons, List.getLast?_eq_some_getLast more]
  simp only [lines, splitOn_cut outside, List.dropLast_cons_of_ne_nil more, last, List.map_cons]
  split
  · split <;> rfl
  · rfl

theorem dropCarriageReturn_concat (line : List Char) : dropCarriageReturn (line ++ ['\r']) = line := by
  simp [dropCarriageReturn]

theorem dropCarriageReturn_of_ne (other : text.getLast? ≠ some '\r') : dropCarriageReturn text = text :=
  if_neg other

theorem dropCarriageReturn_cases (text : List Char) :
    (text = dropCarriageReturn text ++ ['\r']) ∨
      text.getLast? ≠ some '\r' ∧ dropCarriageReturn text = text := by
  by_cases ended : text.getLast? = some '\r'
  · left
    obtain ⟨line, rfl⟩ := List.getLast?_eq_some_iff.1 ended
    rw [dropCarriageReturn_concat]
  · right
    exact ⟨ended, dropCarriageReturn_of_ne ended⟩

theorem dropCarriageReturn_start (text : List Char) : dropCarriageReturn text <+: text := by
  unfold dropCarriageReturn
  split
  · exact List.dropLast_prefix text
  · exact List.prefix_rfl

theorem trim_within (text : List Char) : trim text <:+: text := by
  have start : trimStart text <:+: text := (List.dropWhile_suffix _).isInfix
  have ending : trim text <:+: trimStart text := by
    rw [trim, trimEnd, ← List.reverse_infix, List.reverse_reverse]
    exact (List.dropWhile_suffix _).isInfix
  exact ending.trans start

theorem getLast?_trim_ne (blank : isWhitespace c = true) (text : List Char) :
    (trim text).getLast? ≠ some c := by
  rw [trim, trimEnd, List.getLast?_reverse]
  intro found
  have kept := List.head?_dropWhile_not isWhitespace (trimStart text).reverse
  rw [found] at kept
  simp [blank] at kept

theorem of_mem_lines {line : List Char} (mem : line ∈ lines text) : line <:+: text ∧ '\n' ∉ line := by
  induction text using pieces_induction '\n' with
  | last piece outside =>
    rw [lines_last outside] at mem
    split at mem
    · cases mem
    · rw [List.mem_singleton.1 mem]
      exact ⟨List.infix_rfl, outside⟩
  | cut piece rest outside ih =>
    rw [lines_cut outside, List.mem_cons] at mem
    rcases mem with rfl | later
    · have start := dropCarriageReturn_start piece
      have inside : dropCarriageReturn piece <:+: piece ++ '\n' :: rest :=
        List.infix_append_of_infix_left start.isInfix
      exact ⟨inside, fun found => outside (start.subset found)⟩
    · obtain ⟨inside, ended⟩ := ih later
      have behind : rest <:+: piece ++ '\n' :: rest :=
        List.infix_append_of_infix_right (List.infix_cons List.infix_rfl)
      exact ⟨inside.trans behind, ended⟩

/-- The lines of a text for a reader to whom every LF and nothing else ends a line. -/
def linesAtFeeds (text : List Char) : List (List Char) :=
  let pieces := splitOn '\n' text
  if pieces.getLast? = some [] then pieces.dropLast else pieces

def unifyEnds : List Char → List Char
  | [] => []
  | [c] => [if c = '\r' then '\n' else c]
  | c :: d :: rest =>
    if c = '\r' then
      if d = '\n' then '\n' :: unifyEnds rest else '\n' :: unifyEnds (d :: rest)
    else c :: unifyEnds (d :: rest)

/-- The lines of a text for a reader to whom LF, CR and CR LF end a line. -/
def linesAtEnds (text : List Char) : List (List Char) :=
  linesAtFeeds (unifyEnds text)

theorem linesAtFeeds_append_cons (text rest : List Char) :
    linesAtFeeds (text ++ '\n' :: rest) = splitOn '\n' text ++ linesAtFeeds rest := by
  have more := splitOn_ne_nil '\n' rest
  simp only [linesAtFeeds, splitOn_append_cons, List.getLast?_append_of_ne_nil _ more,
    List.dropLast_append_of_ne_nil more]
  split <;> rfl

theorem linesAtFeeds_flatMap {rows : List (List Char)} (plain : ∀ row ∈ rows, '\n' ∉ row) :
    linesAtFeeds (rows.flatMap fun row => row ++ ['\n']) = rows := by
  induction rows with
  | nil => rfl
  | cons row rows ih =>
    have first := splitOn_eq_singleton (plain row List.mem_cons_self)
    have later := ih fun other mem => plain other (List.mem_cons_of_mem row mem)
    rw [List.flatMap_cons, List.append_assoc, List.singleton_append, linesAtFeeds_append_cons, first,
      later, List.singleton_append]

theorem unifyEnds_append_cons (outside : '\n' ∉ piece) (rest : List Char) :
    unifyEnds (piece ++ '\n' :: rest) =
      (dropCarriageReturn piece).map (fun c => if c = '\r' then '\n' else c) ++ '\n' :: unifyEnds rest := by
  induction piece with
  | nil => cases rest <;> simp [unifyEnds, dropCarriageReturn]
  | cons c piece ih =>
    have others : '\n' ∉ piece := fun mem => outside (List.mem_cons_of_mem c mem)
    cases piece with
    | nil =>
      by_cases ended : c = '\r'
      · subst ended
        simp [unifyEnds, dropCarriageReturn]
      · have start := ih others
        rw [List.nil_append] at start
        simp [unifyEnds, dropCarriageReturn, ended, start]
    | cons d piece =>
      have dropped : dropCarriageReturn (c :: d :: piece) = c :: dropCarriageReturn (d :: piece) := by
        unfold dropCarriageReturn
        rw [List.getLast?_cons_cons]
        split <;> rfl
      have inner : d ≠ '\n' := fun same => others (same ▸ List.mem_cons_self)
      have later := ih others
      rw [List.cons_append] at later
      rw [dropped, List.map_cons, List.cons_append, List.cons_append, List.cons_append, ← later, unifyEnds,
        if_neg inner]
      split <;> rfl

theorem splitOn_map (outside : d ∉ text) :
    splitOn d (text.map fun e => if e = c then d else e) = splitOn c text := by
  induction text with
  | nil => rfl
  | cons e text ih =>
    have other : e ≠ d := fun same => outside (same ▸ List.mem_cons_self)
    have later := ih fun mem => outside (List.mem_cons_of_mem e mem)
    by_cases same : e = c
    · subst same
      simp [splitOn_cons_self, later]
    · simp [splitOn, later, same, other]

theorem linesAtEnds_flatMap {rows : List (List Char)} (plain : ∀ row ∈ rows, '\n' ∉ row) :
    linesAtEnds (rows.flatMap fun row => row ++ ['\n']) =
      rows.flatMap fun row => splitOn '\r' (dropCarriageReturn row) := by
  induction rows with
  | nil => rfl
  | cons row rows ih =>
    have outside := plain row List.mem_cons_self
    have kept : '\n' ∉ dropCarriageReturn row := fun mem => outside ((dropCarriageReturn_start row).subset mem)
    have later := ih fun other mem => plain other (List.mem_cons_of_mem row mem)
    rw [linesAtEnds] at later ⊢
    rw [List.flatMap_cons, List.append_assoc, List.singleton_append, unifyEnds_append_cons outside,
      linesAtFeeds_append_cons, later, splitOn_map kept, List.flatMap_cons]

theorem prefix_append_cons_iff (outside : c ∉ lead) (text rest : List Char) :
    lead <+: text ++ c :: rest ↔ lead <+: text := by
  constructor
  · rintro ⟨behind, same⟩
    rcases List.append_eq_append_iff.1 same with ⟨more, rfl, -⟩ | ⟨more, rfl, split⟩
    · exact List.prefix_append lead more
    · cases more with
      | nil => simp
      | cons e more =>
        obtain ⟨rfl, -⟩ := List.cons.inj split
        simp at outside
  · intro start
    exact start.trans (List.prefix_append text _)

theorem dropCarriageReturn_append (front : List Char) (some : text ≠ []) :
    dropCarriageReturn (front ++ text) = front ++ dropCarriageReturn text := by
  unfold dropCarriageReturn
  rw [List.getLast?_append_of_ne_nil front some]
  split
  · exact List.dropLast_append_of_ne_nil some
  · rfl

theorem dropCarriageReturn_eq_nil : dropCarriageReturn text = [] ↔ text = [] ∨ text = ['\r'] := by
  rcases dropCarriageReturn_cases text with ended | ⟨other, same⟩
  · generalize dropCarriageReturn text = line at ended ⊢
    subst ended
    simp
  · rw [same]
    have alone : text ≠ ['\r'] := fun same => other (by rw [same]; rfl)
    simp [alone]

theorem prefix_dropCarriageReturn_iff (outside : '\r' ∉ lead) :
    lead <+: dropCarriageReturn text ↔ lead <+: text := by
  rcases dropCarriageReturn_cases text with ended | ⟨-, same⟩
  · generalize dropCarriageReturn text = line at ended ⊢
    rw [ended, prefix_append_cons_iff outside]
  · rw [same]

/-- What follows each `c` of the text is as told. -/
def EachAfter (c : Char) (P : List Char → Prop) (text : List Char) : Prop :=
  ∀ before after, text = before ++ c :: after → P after

namespace EachAfter

variable {P Q : List Char → Prop}

theorem of_notMem (outside : c ∉ text) : EachAfter c P text := by
  intro before after same
  exact absurd (by simp [same]) outside

theorem congr_suffix (same : ∀ after, after <:+ text → (P after ↔ Q after)) :
    EachAfter c P text ↔ EachAfter c Q text := by
  constructor
  all_goals
    intro each before after split
    have behind : after <:+ text := ⟨before ++ [c], by simp [split]⟩
    have holds := each before after split
  · exact (same after behind).1 holds
  · exact (same after behind).2 holds

theorem append_iff : EachAfter c P (front ++ text) ↔
    EachAfter c (fun after => P (after ++ text)) front ∧ EachAfter c P text := by
  constructor
  · intro each
    constructor
    · rintro before after rfl
      exact each before (after ++ text) (by simp)
    · rintro before after rfl
      exact each (front ++ before) after (by simp)
  · rintro ⟨first, second⟩ before after same
    rcases List.append_eq_append_iff.1 same with ⟨more, rfl, behind⟩ | ⟨more, rfl, behind⟩
    · exact second more after behind
    · cases more with
      | nil => exact second [] after behind.symm
      | cons e more =>
        obtain ⟨rfl, rfl⟩ := List.cons.inj behind
        exact first before more rfl

theorem append_of_notMem (outside : c ∉ front) : EachAfter c P (front ++ text) ↔ EachAfter c P text := by
  rw [append_iff]
  exact and_iff_right (of_notMem outside)

theorem cons_self_iff : EachAfter c P (c :: text) ↔ P text ∧ EachAfter c P text := by
  have single : EachAfter c (fun after => P (after ++ text)) [c] ↔ P text := by
    constructor
    · intro each
      exact each [] [] rfl
    · intro holds before after same
      have empty : after = [] := by
        have size := congrArg List.length same
        simp only [List.length_append, List.length_cons, List.length_nil] at size
        exact List.length_eq_zero_iff.1 (by omega)
      simpa [empty] using holds
  rw [← List.singleton_append, append_iff, single]

theorem dropCarriageReturn_iff : EachAfter '\r' P (dropCarriageReturn text) ↔
    EachAfter '\r' (fun after => after = [] ∨ P (dropCarriageReturn after)) text := by
  rcases dropCarriageReturn_cases text with ended | ⟨other, same⟩
  · generalize dropCarriageReturn text = line at ended ⊢
    subst ended
    have inside : ∀ after, after ++ ['\r'] = [] ∨ P (dropCarriageReturn (after ++ ['\r'])) ↔ P after := by
      intro after
      simp [dropCarriageReturn_concat]
    have final : EachAfter '\r' (fun after => after = [] ∨ P (dropCarriageReturn after)) ['\r'] :=
      cons_self_iff.2 ⟨.inl rfl, of_notMem (by simp)⟩
    rw [append_iff, and_iff_left final]
    simp only [inside]
  · rw [same]
    constructor
    all_goals
      intro each before after split
      have kept : after.getLast? ≠ some '\r' ∧ after ≠ [] := by
        constructor
        · intro last
          apply other
          simp [split, List.getLast?_append, List.getLast?_cons, last]
        · rintro rfl
          apply other
          simp [split]
      have holds := each before after split
    · rw [dropCarriageReturn_of_ne kept.1]
      exact .inr holds
    · simpa [kept.2, dropCarriageReturn_of_ne kept.1] using holds

theorem splitOn_iff (outside : c ∉ lead) : (∀ piece ∈ splitOn c text, lead <+: piece) ↔
    lead <+: text ∧ EachAfter c (lead <+: ·) text := by
  induction text using pieces_induction c with
  | last piece alone =>
    rw [splitOn_eq_singleton alone, and_iff_left (of_notMem alone)]
    simp
  | cut piece rest alone ih =>
    rw [splitOn_cut alone, List.forall_mem_cons, ih, append_of_notMem alone, cons_self_iff,
      prefix_append_cons_iff outside]

end EachAfter

end OpenApiCodegen.Text
