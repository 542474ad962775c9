import Mathlib.Logic.Basic
import OpenApiCodegen.MobileClient.Syntax
import OpenApiCodegen.Proofs.Text.Cuts
import OpenApiCodegen.Server.Syntax
import OpenApiCodegen.WebClient.Syntax

namespace OpenApiCodegen

namespace Text

/-- What a literal stands between, and the characters that may only be in it behind a backslash. -/
structure Quoting where
  delimiter : Char
  special : List Char
  delimited : delimiter ∈ special
  unlike : delimiter ≠ backslash

def doubleQuotes : Quoting := ⟨'"', doubleQuoteSpecial, by decide, by decide⟩

def singleQuotes : Quoting := ⟨'\x27', interpolatedSpecial, by decide, by decide⟩

namespace Quoting

variable (quoting : Quoting)

def literal (text : String) : String :=
  String.ofList (quoting.delimiter :: escapeChars quoting.special text.toList ++ [quoting.delimiter])

def readChars : List Char → Option (List Char × List Char)
  | [] => none
  | [c] => if c = quoting.delimiter then some ([], []) else none
  | c :: d :: rest =>
    if c = quoting.delimiter then some ([], d :: rest)
    else if c = backslash then (readChars rest).map fun found => (d :: found.1, found.2)
    else if c ∈ quoting.special then none
    else (readChars (d :: rest)).map fun found => (c :: found.1, found.2)

/-- The text of the literal in front, and what follows it. -/
def read? (cs : List Char) : Option (String × List Char) :=
  (dropStart? [quoting.delimiter] cs).bind fun rest =>
    (quoting.readChars rest).map fun found => (String.ofList found.1, found.2)

variable {quoting} {c : Char}

theorem readChars_escaped (rest : List Char) :
    quoting.readChars (backslash :: c :: rest) =
      (quoting.readChars rest).map fun found => (c :: found.1, found.2) := by
  have other : backslash ≠ quoting.delimiter := Ne.symm quoting.unlike
  rw [readChars, if_neg other, if_pos rfl]

theorem readChars_plain (other : c ≠ backslash) (ordinary : c ∉ quoting.special) {rest : List Char}
    (more : rest ≠ []) :
    quoting.readChars (c :: rest) =
      (quoting.readChars rest).map fun found => (c :: found.1, found.2) := by
  have inside : c ≠ quoting.delimiter := fun same => ordinary (same ▸ quoting.delimited)
  obtain ⟨d, rest, rfl⟩ := List.exists_cons_of_ne_nil more
  rw [readChars, if_neg inside, if_neg other, if_neg ordinary]

theorem readChars_delimiter (rest : List Char) :
    quoting.readChars (quoting.delimiter :: rest) = some ([], rest) := by
  cases rest <;> simp [readChars]

/-- By induction on the text: each of its characters is read back, with a backslash or without. -/
theorem readChars_escapeChars (text after : List Char) :
    quoting.readChars (escapeChars quoting.special text ++ quoting.delimiter :: after) =
      some (text, after) := by
  induction text with
  | nil => exact readChars_delimiter after
  | cons c text ih =>
    by_cases marked : c = backslash ∨ c ∈ quoting.special
    · rw [escapeChars, if_pos marked, List.cons_append, List.cons_append, readChars_escaped, ih,
        Option.map_some]
    · obtain ⟨other, ordinary⟩ := not_or.1 marked
      have more : escapeChars quoting.special text ++ quoting.delimiter :: after ≠ [] := by simp
      rw [escapeChars, if_neg marked, List.cons_append, readChars_plain other ordinary more, ih,
        Option.map_some]

theorem read?_literal (text : String) (after : List Char) :
    quoting.read? ((quoting.literal text).toList ++ after) = some (text, after) := by
  have start : (quoting.literal text).toList ++ after =
      [quoting.delimiter] ++ (escapeChars quoting.special text.toList ++ quoting.delimiter :: after) := by
    simp [literal]
  rw [read?, start, dropStart?_append, Option.bind_some, readChars_escapeChars, Option.map_some,
    String.ofList_toList]

def Quotes (quoting : Quoting) (text literal : String) : Prop :=
  quoting.read? literal.toList = some (text, [])

theorem quotes_literal (text : String) : quoting.Quotes text (quoting.literal text) := by
  have read := quoting.read?_literal text []
  rwa [List.append_nil] at read

end Quoting

theorem doubleQuotes_literal (text : String) :
    doubleQuotes.literal text = inDoubleQuotes (escapeJavaScript text) := by
  refine String.toList_inj.1 ?_
  simp [Quoting.literal, inDoubleQuotes, escapeJavaScript, doubleQuotes]

theorem singleQuotes_literal (text : String) :
    singleQuotes.literal text = "'" ++ escapeDart text ++ "'" := by
  refine String.toList_inj.1 ?_
  simp [Quoting.literal, escapeDart, singleQuotes]

theorem quotes_inDoubleQuotes (text : String) :
    doubleQuotes.Quotes text (inDoubleQuotes (escapeJavaScript text)) :=
  doubleQuotes_literal text ▸ Quoting.quotes_literal text

end Text

theorem WebClient.quoted_eq (text : String) : quoted text = Text.doubleQuotes.literal text :=
  (Text.doubleQuotes_literal text).symm

theorem Server.quoted_eq (text : String) : quoted text = Text.doubleQuotes.literal text :=
  (Text.doubleQuotes_literal text).symm

theorem MobileClient.quoted_eq (text : String) : quoted text = Text.singleQuotes.literal text :=
  (Text.singleQuotes_literal text).symm

theorem WebClient.quotes_quoted (text : String) : Text.doubleQuotes.Quotes text (quoted text) :=
  quoted_eq text ▸ Text.Quoting.quotes_literal text

theorem Server.quotes_quoted (text : String) : Text.doubleQuotes.Quotes text (quoted text) :=
  quoted_eq text ▸ Text.Quoting.quotes_literal text

theorem MobileClient.quotes_quoted (text : String) : Text.singleQuotes.Quotes text (quoted text) :=
  quoted_eq text ▸ Text.Quoting.quotes_literal text

end OpenApiCodegen
