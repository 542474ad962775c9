import OpenApiCodegen.Output.Code

namespace OpenApiCodegen.Code

/-- The part is a run of lines of the code, or of what is nested in it. -/
inductive Within (part : List Code) : List Code → Prop
  | whole : Within part part
  | behind {code : List Code} (front : List Code) : Within part code → Within part (front ++ code)
  | before {code : List Code} (rest : List Code) : Within part code → Within part (code ++ rest)
  | nested {body : List Code} : Within part body → Within part [nested body]
  | block {body : List Code} (head tail : String) : Within part body →
      Within part [block head body tail]

/-- The lines of the part are in the text, at some indentation. -/
def Printed (unit : String) (part : List Code) (output : String) : Prop :=
  ∃ depth before after, output = before ++ textOfAll unit depth part ++ after

variable {unit output : String} {part code other : List Code}

namespace Within

theorem trans (inner : Within part code) (outer : Within code other) : Within part other := by
  induction outer with
  | whole => exact inner
  | behind front _ ih => exact ih.behind front
  | before rest _ ih => exact ih.before rest
  | nested _ ih => exact ih.nested
  | block head tail _ ih => exact ih.block head tail

theorem cons (first : Code) (inner : Within part code) : Within part (first :: code) :=
  inner.behind [first]

theorem of_mem_flatMap {α : Type} {items : List α} {item : α} (mem : item ∈ items)
    (f : α → List Code) : Within (f item) (items.flatMap f) := by
  obtain ⟨front, rest, rfl⟩ := List.append_of_mem mem
  rw [List.flatMap_append, List.flatMap_cons]
  exact (whole.before _).behind _

theorem of_mem_spaced {pieces : List (List Code)} (mem : part ∈ pieces) :
    Within part (spaced pieces) := by
  induction pieces with
  | nil => cases mem
  | cons first rest ih =>
    cases rest with
    | nil =>
      rw [List.mem_singleton.1 mem]
      exact whole
    | cons second rest =>
      rw [spaced]
      · rcases List.mem_cons.1 mem with rfl | later
        · exact whole.before _
        · exact ((ih later).cons blank).behind first
      · intro impossible
        cases impossible

end Within

theorem spaced_cons {pieces : List (List Code)} (first : List Code) (some : pieces ≠ []) :
    spaced (first :: pieces) = first ++ blank :: spaced pieces := by
  obtain ⟨second, rest, rfl⟩ := List.exists_cons_of_ne_nil some
  rw [spaced]
  exact some

theorem spaced_append {pieces more : List (List Code)} (some : pieces ≠ []) (some' : more ≠ []) :
    spaced (pieces ++ more) = spaced pieces ++ blank :: spaced more := by
  induction pieces with
  | nil => exact absurd rfl some
  | cons first pieces ih =>
    by_cases alone : pieces = []
    · subst alone
      exact spaced_cons first some'
    · rw [List.cons_append, spaced_cons first (by simp [some']), ih alone, spaced_cons first alone,
        List.append_assoc, List.cons_append]

theorem textOfAll_append (depth : Nat) (code other : List Code) :
    textOfAll unit depth (code ++ other) = textOfAll unit depth code ++ textOfAll unit depth other := by
  induction code with
  | nil => simp [textOfAll]
  | cons first rest ih => rw [List.cons_append, textOfAll, textOfAll, ih, String.append_assoc]

theorem textOfAll_singleton (depth : Nat) (first : Code) :
    textOfAll unit depth [first] = text unit depth first := by
  simp [textOfAll]

namespace Printed

theorem behind (printed : Printed unit part output) (front : String) :
    Printed unit part (front ++ output) := by
  obtain ⟨depth, before, after, rfl⟩ := printed
  exact ⟨depth, front ++ before, after, by simp only [String.append_assoc]⟩

theorem before (printed : Printed unit part output) (rest : String) :
    Printed unit part (output ++ rest) := by
  obtain ⟨depth, front, after, rfl⟩ := printed
  exact ⟨depth, front, after ++ rest, by simp only [String.append_assoc]⟩

theorem join {outputs : List String} (printed : Printed unit part output) (mem : output ∈ outputs) :
    Printed unit part (String.join outputs) := by
  obtain ⟨front, rest, rfl⟩ := List.append_of_mem mem
  rw [String.join_append, String.join_cons]
  exact (printed.before _).behind _

end Printed

theorem Within.printed (within : Within part code) (depth : Nat) :
    Printed unit part (textOfAll unit depth code) := by
  induction within generalizing depth with
  | whole => exact ⟨depth, "", "", by simp⟩
  | behind front _ ih =>
    rw [textOfAll_append]
    exact (ih depth).behind _
  | before rest _ ih =>
    rw [textOfAll_append]
    exact (ih depth).before _
  | nested _ ih =>
    rw [textOfAll_singleton, Code.text]
    exact ih (depth + 1)
  | block head tail _ ih =>
    rw [textOfAll_singleton, Code.text]
    exact ((((ih (depth + 1)).behind _).before _ |>.before _).before _).before _

theorem Within.rendered (within : Within part code) : Printed unit part (render unit code) :=
  within.printed 0

end OpenApiCodegen.Code
