import OpenApiCodegen.Output.Code
import OpenApiCodegen.Text.Escape

namespace OpenApiCodegen.Server

inductive GoType where
  | named (name : String)
  | applied (name : String) (arguments : List GoType)
  | pointer (target : GoType)
  | slice (item : GoType)
  | table (value : GoType)

namespace GoType

def isNilable : GoType → Bool
  | named name => name == "any"
  | applied .. => false
  | pointer _ => true
  | slice _ => true
  | table _ => true

def orNil (type : GoType) : GoType :=
  if type.isNilable then type else pointer type

def isPointer : GoType → Bool
  | pointer _ => true
  | _ => false

mutual

def code : GoType → String
  | named name => name
  | applied name arguments => name ++ "[" ++ commaSeparated (codes arguments) ++ "]"
  | pointer target => "*" ++ target.code
  | slice item => "[]" ++ item.code
  | table value => "map[string]" ++ value.code

def codes : List GoType → List String
  | [] => []
  | type :: rest => type.code :: codes rest

end

end GoType

structure Field where
  name : String
  type : GoType
  tag : Option String
  doc : Option String
  deprecated : Bool

structure Record where
  name : String
  doc : Option String
  deprecated : Bool
  parameters : List String
  fields : List Field

/-- The types of parameters are texts, since they can be function types. -/
structure Function where
  doc : Option String
  receiver : Option String
  name : String
  parameters : List (String × String)
  results : List String
  body : List Code

def indent : String := "\t"

def quoted (s : String) : String :=
  Text.inDoubleQuotes (Text.escapeGo s)

def lineComment (doc : Option String) : List Code :=
  Code.markedComment "//" doc

def docComment (doc : Option String) (deprecated : Bool) (name : String) : List Code :=
  let comment := lineComment doc
  if deprecated then
    comment ++ (if comment.isEmpty then [] else [.line "//"]) ++
      [.line s!"// Deprecated: {name} is deprecated."]
  else comment

def tagCode (tag : String) : String :=
  " `json:" ++ Text.inDoubleQuotes tag ++ " form:" ++ Text.inDoubleQuotes tag ++ "`"

def Field.code (field : Field) : List Code :=
  docComment field.doc field.deprecated field.name ++
    [.line (field.name ++ " " ++ field.type.code ++ ((field.tag.map tagCode).getD ""))]

def typeParameters (parameters : List String) : String :=
  if parameters.isEmpty then ""
  else "[" ++ commaSeparated (parameters.map fun name => name ++ " any") ++ "]"

def Record.code (record : Record) : List Code :=
  let head := "type " ++ record.name ++ typeParameters record.parameters ++ " struct"
  let definition : Code :=
    if record.fields.isEmpty then .line (head ++ "\x7b\x7d")
    else .block head (record.fields.flatMap Field.code)
  docComment record.doc record.deprecated record.name ++ [definition]

def resultsCode : List String → String
  | [] => ""
  | [result] => " " ++ result
  | results => " (" ++ commaSeparated results ++ ")"

def Function.code (function : Function) : List Code :=
  let receiver := match function.receiver with
    | some receiver => "(" ++ receiver ++ ") "
    | none => ""
  let head := "func " ++ receiver ++ function.name ++ "("
  let parameters := function.parameters.map fun (name, type) => name ++ " " ++ type
  let close := ")" ++ resultsCode function.results
  let definition : List Code :=
    if 1 < parameters.length then
      [.line head, .nested (parameters.map fun parameter => .line (parameter ++ ",")),
        .block close function.body]
    else [.block (head ++ commaSeparated parameters ++ close) function.body]
  lineComment function.doc ++ definition

def render (pieces : List (List Code)) : String :=
  Code.render indent (Code.spaced pieces)

end OpenApiCodegen.Server
