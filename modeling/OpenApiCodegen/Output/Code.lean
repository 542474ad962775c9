import OpenApiCodegen.Text.Basic

namespace OpenApiCodegen

inductive Code where
  | line (text : String)
  | blank
  | nested (body : List Code)
  | block (head : String) (body : List Code) (tail : String := "")

namespace Code

def indentation (unit : String) (depth : Nat) : String :=
  String.join (List.replicate depth unit)

mutual

def text (unit : String) (depth : Nat) : Code → String
  | line s => indentation unit depth ++ s ++ "\n"
  | blank => "\n"
  | nested body => textOfAll unit (depth + 1) body
  | block head body tail =>
    indentation unit depth ++ head ++ " \x7b\n" ++ textOfAll unit (depth + 1) body ++
      indentation unit depth ++ "\x7d" ++ tail ++ "\n"

def textOfAll (unit : String) (depth : Nat) : List Code → String
  | [] => ""
  | code :: rest => text unit depth code ++ textOfAll unit depth rest

end

def render (unit : String) (code : List Code) : String :=
  textOfAll unit 0 code

def lineOrBlank (text : String) : Code :=
  if text.isEmpty then blank else line text

def ofText (text : String) : List Code :=
  (Text.lines text.toList).map fun chars => lineOrBlank (String.ofList chars)

def spaced : List (List Code) → List Code
  | [] => []
  | [code] => code
  | code :: rest => code ++ blank :: spaced rest

/-- The lines of a comment without the blanks around it; none if nothing is left. -/
def commentLines (comment : Option String) : List String :=
  (Text.lines (Text.trim (comment.getD "").toList)).map String.ofList

def markedComment (mark : String) (comment : Option String) : List Code :=
  (commentLines comment).map fun s => line (if s.isEmpty then mark else mark ++ " " ++ s)

end Code

def commaSeparated (items : List String) : String :=
  String.intercalate ", " items

end OpenApiCodegen
