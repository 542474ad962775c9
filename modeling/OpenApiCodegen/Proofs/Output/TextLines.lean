import OpenApiCodegen.Output.Unit
import OpenApiCodegen.Proofs.Output.CodeText
import Mathlib.Data.List.Forall2

namespace OpenApiCodegen

theorem forall₂_mapped {α β : Type} {R : α → β → Prop} {f : α → β} {items : List α} (each : ∀ item, R item (f item)) :
    List.Forall₂ R items (items.map f) :=
  List.forall₂_map_right_iff.2 (List.forall₂_same.2 fun item _ => each item)

def linesText (lines : List String) : String :=
  String.join (lines.map (· ++ "\n"))

def IsLines (text : String) : Prop :=
  ∃ lines, text = linesText lines

def HasLines (indent : String) (lines : List String) (text : String) : Prop :=
  ∃ depth before after, IsLines before ∧ text =
    before ++ linesText (lines.map (String.join (List.replicate depth indent) ++ ·)) ++ after

theorem linesText_append (lines more : List String) :
    linesText (lines ++ more) = linesText lines ++ linesText more := by
  simp [linesText]

@[simp] theorem linesText_nil : linesText [] = "" :=
  rfl

@[simp] theorem linesText_singleton (line : String) : linesText [line] = line ++ "\n" := by
  simp [linesText]

namespace IsLines

variable {text more : String}

theorem append (front : IsLines text) (rest : IsLines more) : IsLines (text ++ more) := by
  obtain ⟨lines, rfl⟩ := front
  obtain ⟨others, rfl⟩ := rest
  exact ⟨lines ++ others, (linesText_append lines others).symm⟩

theorem line (s : String) : IsLines (s ++ "\n") :=
  ⟨[s], (linesText_singleton s).symm⟩

theorem opening (s : String) : IsLines (s ++ " \x7b\n") := by
  refine ⟨[s ++ " \x7b"], ?_⟩
  rw [linesText_singleton, String.append_assoc]
  rfl

theorem join {texts : List String} (each : ∀ text ∈ texts, IsLines text) : IsLines (String.join texts) := by
  induction texts with
  | nil => exact ⟨[], rfl⟩
  | cons first rest ih =>
    rw [String.join_cons]
    exact (each first (by simp)).append (ih fun text mem => each text (by simp [mem]))

end IsLines

theorem isLines_header : IsLines Output.header :=
  ⟨["// Code generated by apigen. DO NOT EDIT.", ""], rfl⟩

namespace HasLines

variable {indent text front : String} {lines : List String}

theorem behind (has : HasLines indent lines text) (isLines : IsLines front) :
    HasLines indent lines (front ++ text) := by
  obtain ⟨depth, before, after, isLines', rfl⟩ := has
  exact ⟨depth, front ++ before, after, isLines.append isLines', by simp only [String.append_assoc]⟩

theorem before (has : HasLines indent lines text) (rest : String) :
    HasLines indent lines (text ++ rest) := by
  obtain ⟨depth, front, after, isLines, rfl⟩ := has
  exact ⟨depth, front, after ++ rest, isLines, by simp only [String.append_assoc]⟩

theorem join {texts : List String} (each : ∀ text ∈ texts, IsLines text)
    (has : HasLines indent lines text) (mem : text ∈ texts) :
    HasLines indent lines (String.join texts) := by
  obtain ⟨front, rest, rfl⟩ := List.append_of_mem mem
  rw [String.join_append, String.join_cons]
  exact (has.before _).behind (.join fun text mem => each text (by simp [mem]))

end HasLines

namespace Code

/-- The code is written as these lines, whatever the depth. -/
def Spells (indent : String) (code : List Code) (lines : List String) : Prop :=
  ∀ depth, textOfAll indent depth code = linesText (lines.map (indentation indent depth ++ ·))

variable {indent : String} {part code other : List Code} {lines more : List String}

theorem indentation_succ (indent : String) (depth : Nat) :
    indentation indent (depth + 1) = indentation indent depth ++ indent := by
  simp [indentation, List.replicate_succ']

theorem spells_nil : Spells indent [] [] :=
  fun _ => rfl

theorem spells_line (indent line : String) : Spells indent [.line line] [line] := by
  intro depth
  simp [textOfAll, text]

namespace Spells

theorem append (first : Spells indent code lines) (second : Spells indent other more) :
    Spells indent (code ++ other) (lines ++ more) := by
  intro depth
  rw [textOfAll_append, first, second, List.map_append, linesText_append]

theorem cons {first : Code} {line : String} (head : Spells indent [first] [line])
    (tail : Spells indent code lines) : Spells indent (first :: code) (line :: lines) :=
  head.append tail

theorem nested (body : Spells indent code lines) :
    Spells indent [.nested code] (lines.map (indent ++ ·)) := by
  intro depth
  rw [textOfAll_singleton, text, body, List.map_map]
  simp only [indentation_succ, Function.comp_def, String.append_assoc]

theorem block (body : Spells indent code lines) (head : String) (tail : String) :
    Spells indent [.block head code tail]
      ((head ++ " \x7b") :: lines.map (indent ++ ·) ++ ["\x7d" ++ tail]) := by
  intro depth
  have inner := body.nested depth
  rw [textOfAll_singleton, text] at inner
  rw [textOfAll_singleton, text, inner]
  simp [linesText, String.append_assoc]

theorem flatMap {α : Type} {items : List α} {f : α → List Code} {g : α → List String}
    (each : ∀ item ∈ items, Spells indent (f item) (g item)) :
    Spells indent (items.flatMap f) (items.flatMap g) := by
  induction items with
  | nil => exact spells_nil
  | cons first rest ih =>
    simp only [List.flatMap_cons]
    exact (each first (by simp)).append (ih fun item mem => each item (by simp [mem]))

end Spells

theorem spells_map (indent : String) {α : Type} (line : α → String) (items : List α) :
    Spells indent (items.map fun item => .line (line item)) (items.map line) := by
  induction items with
  | nil => exact spells_nil
  | cons first rest ih => exact (spells_line indent _).append ih

mutual

theorem isLines_text (indent : String) (depth : Nat) : ∀ code : Code, IsLines (text indent depth code)
  | .line s => .line (indentation indent depth ++ s)
  | .blank => .line ""
  | .nested body => isLines_textOfAll indent (depth + 1) body
  | .block head body tail => by
    have opened := IsLines.opening (indentation indent depth ++ head)
    have closed := IsLines.line (indentation indent depth ++ "\x7d" ++ tail)
    have whole := (opened.append (isLines_textOfAll indent (depth + 1) body)).append closed
    simpa only [text, String.append_assoc] using whole

theorem isLines_textOfAll (indent : String) (depth : Nat) :
    ∀ code : List Code, IsLines (textOfAll indent depth code)
  | [] => ⟨[], rfl⟩
  | first :: rest => (isLines_text indent depth first).append (isLines_textOfAll indent depth rest)

end

theorem isLines_render (indent : String) (code : List Code) : IsLines (render indent code) :=
  isLines_textOfAll indent 0 code

theorem Within.hasLines (within : Within part code) (spells : Spells indent part lines) (depth : Nat) :
    HasLines indent lines (textOfAll indent depth code) := by
  induction within generalizing depth with
  | whole => exact ⟨depth, "", "", ⟨[], rfl⟩, by rw [spells]; simp [indentation]⟩
  | behind front _ ih =>
    rw [textOfAll_append]
    exact (ih depth).behind (isLines_textOfAll indent depth front)
  | before rest _ ih =>
    rw [textOfAll_append]
    exact (ih depth).before _
  | nested _ ih =>
    rw [textOfAll_singleton, Code.text]
    exact ih (depth + 1)
  | block head tail _ ih =>
    have opened := IsLines.opening (indentation indent depth ++ head)
    rw [textOfAll_singleton, Code.text]
    exact (((ih (depth + 1)).behind opened).before _ |>.before _).before _ |>.before _

theorem textOfAll_spaced {pieces : List (List Code)} {texts : List (List String)}
    (each : List.Forall₂ (Spells indent) pieces texts) (depth : Nat) :
    textOfAll indent depth (spaced pieces) = String.intercalate "\n"
      (texts.map fun lines => linesText (lines.map (indentation indent depth ++ ·))) := by
  induction each with
  | nil => rfl
  | @cons first lines pieces texts spells each ih =>
    cases each with
    | nil =>
      rw [spaced, spells]
      simp
    | @cons second more pieces texts spells' each =>
      rw [spaced_cons first (by simp), textOfAll_append, spells, textOfAll, ih, text,
        @List.map_cons _ _ _ lines (more :: texts), String.intercalate_cons_of_ne_nil (by simp), String.append_assoc]

theorem render_spaced {pieces : List (List Code)} {texts : List (List String)}
    (each : List.Forall₂ (Spells indent) pieces texts) :
    render indent (spaced pieces) = String.intercalate "\n" (texts.map linesText) := by
  rw [render, textOfAll_spaced each]
  simp [indentation]

end Code

end OpenApiCodegen
