import OpenApiCodegen.Api.Model
import OpenApiCodegen.Output.Code
import OpenApiCodegen.Text.Escape

namespace OpenApiCodegen.WebClient

inductive TypeExpr where
  | text
  | number
  | boolean
  | null
  | nothing
  | unknown
  | flag (b : Bool)
  | named (name : String)
  | array (item : TypeExpr)
  | table (value : TypeExpr)
  | either (types : List TypeExpr)
  | applied (name : String) (arguments : List TypeExpr)

namespace TypeExpr

def orNull (type : TypeExpr) : TypeExpr :=
  either [type, null]

def promise (type : TypeExpr) : TypeExpr :=
  applied "Promise" [type]

def isEither : TypeExpr → Bool
  | either _ => true
  | _ => false

mutual

def code : TypeExpr → String
  | text => "string"
  | number => "number"
  | boolean => "boolean"
  | null => "null"
  | nothing => "void"
  | unknown => "unknown"
  | flag b => if b then "true" else "false"
  | named name => name
  | array item => if item.isEither then "(" ++ item.code ++ ")[]" else item.code ++ "[]"
  | table value => "Record<string, " ++ value.code ++ ">"
  | either types => String.intercalate " | " (codes types)
  | applied name arguments => name ++ "<" ++ commaSeparated (codes arguments) ++ ">"

def codes : List TypeExpr → List String
  | [] => []
  | type :: rest => type.code :: codes rest

end

end TypeExpr

structure Member where
  name : String
  type : TypeExpr
  optional : Bool
  doc : Option String

structure Interface where
  name : String
  doc : Option String
  deprecated : Bool
  parameters : List String
  members : List Member
  index : Option TypeExpr

structure Alias where
  name : String
  doc : Option String
  deprecated : Bool
  type : TypeExpr

structure Enumeration where
  name : String
  doc : Option String
  deprecated : Bool
  members : List (String × Api.Literal)

/-- A function that tells the variants of a union apart. Each arm has the value of the discriminator
and the variant for it; there is one more arm for all other values. -/
structure Decoder where
  union : String
  discriminator : String
  arms : List (String × String)

inductive Declaration where
  | interface (declared : Interface)
  | typeAlias (declared : Alias)
  | enumeration (declared : Enumeration)
  | decoder (declared : Decoder)

def Declaration.name : Declaration → String
  | interface declared => declared.name
  | typeAlias declared => declared.name
  | enumeration declared => declared.name
  | decoder declared => "decode" ++ declared.union

def indent : String := "  "

def quoted (s : String) : String :=
  Text.inDoubleQuotes (Text.escapeJavaScript s)

def keepOpen (text : String) : String :=
  String.ofList (Text.replacePair '*' '/' ['*', '\\', '/'] text.toList)

def docLines (doc : Option String) (deprecated : Bool) : List String :=
  Code.commentLines (doc.map keepOpen) ++ if deprecated then ["@deprecated"] else []

def docComment (doc : Option String) (deprecated : Bool) : List Code :=
  match docLines doc deprecated with
  | [] => []
  | [line] => [.line s!"/** {line} */"]
  | lines =>
    .line "/**" :: (lines.map fun line => .line (if line.isEmpty then " *" else " * " ++ line)) ++
      [.line " */"]

def angled (parameters : List String) : String :=
  if parameters.isEmpty then "" else "<" ++ commaSeparated parameters ++ ">"

def Member.code (member : Member) : List Code :=
  let mark := if member.optional then "?" else ""
  docComment member.doc false ++
    [.line s!"{Text.propertyKey member.name}{mark}: {member.type.code};"]

def Interface.code (declared : Interface) : List Code :=
  let index := match declared.index with
    | some type => [Code.line s!"[key: string]: {type.code};"]
    | none => []
  docComment declared.doc declared.deprecated ++
    [.block s!"export interface {declared.name}{angled declared.parameters}"
      (declared.members.flatMap Member.code ++ index)]

def Alias.code (declared : Alias) : List Code :=
  docComment declared.doc declared.deprecated ++
    [.line s!"export type {declared.name} = {declared.type.code};"]

def literalCode : Api.Literal → String
  | .text s => quoted s
  | .flag b => quoted (if b then "true" else "false")
  | literal => literal.plainText

def Enumeration.code (declared : Enumeration) : List Code :=
  docComment declared.doc declared.deprecated ++
    [.block s!"export enum {declared.name}"
      (declared.members.map fun (name, literal) => .line s!"{name} = {literalCode literal},")]

def Decoder.code (declared : Decoder) : List Code :=
  let union := declared.union
  let field := "(value as Record<string, unknown>)[" ++ quoted declared.discriminator ++ "]"
  let arms := declared.arms.flatMap fun (value, variant) =>
    [Code.line s!"case {quoted value}:", .nested [.line s!"return value as {variant};"]]
  let otherwise :=
    [Code.line "default:",
      .nested
        [.line s!"throw DecodeError.unrecognizedVariant({quoted union}, String(discriminator));"]]
  docComment (some s!"Decode a `{union}` by its `{declared.discriminator}` discriminator.") false ++
    [.block s!"export function decode{union}(value: unknown): {union}"
      [.line ("const discriminator = typeof value === \"object\" && value !== null ? " ++
          field ++ " : undefined;"),
        .block "switch (discriminator)" (arms ++ otherwise)]]

def Declaration.code : Declaration → List Code
  | interface declared => declared.code
  | typeAlias declared => declared.code
  | enumeration declared => declared.code
  | decoder declared => declared.code

def render (declarations : List Declaration) : String :=
  Code.render indent (Code.spaced (declarations.map Declaration.code))

def importCode (typesOnly : Bool) (names : List String) (source : String) : Code :=
  .line ((if typesOnly then "import type" else "import") ++ " \x7b " ++ commaSeparated names ++
    " \x7d from \"" ++ source ++ "\";")

end OpenApiCodegen.WebClient
