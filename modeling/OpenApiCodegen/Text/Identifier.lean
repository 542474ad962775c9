import OpenApiCodegen.Text.Basic

namespace OpenApiCodegen.Text

structure ReservedWords where
  words : List String

def typeScriptReserved : ReservedWords where
  words := ["break", "case", "catch", "class", "const", "continue", "debugger", "default",
    "delete", "do", "else", "enum", "export", "extends", "false", "finally", "for", "function",
    "if", "import", "in", "instanceof", "new", "null", "return", "super", "switch", "this",
    "throw", "true", "try", "typeof", "var", "void", "while", "with", "yield", "let", "static",
    "implements", "interface", "package", "private", "protected", "public", "await", "async"]

def dartReserved : ReservedWords where
  words := ["abstract", "as", "assert", "async", "await", "break", "case", "catch", "class",
    "const", "continue", "covariant", "default", "deferred", "do", "dynamic", "else", "enum",
    "export", "extends", "extension", "external", "factory", "false", "final", "finally", "for",
    "function", "get", "hide", "if", "implements", "import", "in", "interface", "is", "late",
    "library", "mixin", "new", "null", "on", "operator", "part", "required", "rethrow", "return",
    "set", "show", "static", "super", "switch", "sync", "this", "throw", "true", "try", "typedef",
    "var", "void", "while", "with", "yield", "values", "index", "hashCode", "toString",
    "runtimeType"]

def goReserved : ReservedWords where
  words := ["break", "case", "chan", "const", "continue", "default", "defer", "else",
    "fallthrough", "for", "func", "go", "goto", "if", "import", "interface", "map", "package",
    "range", "return", "select", "struct", "switch", "type", "var", "params", "writer", "request",
    "error"]

def ReservedWords.contains (reserved : ReservedWords) (name : String) : Bool :=
  reserved.words.contains name

def startsWithDigit (name : String) : Bool :=
  name.toList.head?.any Char.isDigit

def orValue (name : String) : String :=
  if name.isEmpty then "value" else name

def afterLetter (name : String) : String :=
  if startsWithDigit name then "n" ++ name else name

/-- A usable identifier: an empty candidate becomes `value`, a leading digit gets an `n` in front
and a reserved word gets the suffix. -/
def ReservedWords.escape (reserved : ReservedWords) (suffix candidate : String) : String :=
  let name := afterLetter (orValue candidate)
  if reserved.contains name then name ++ suffix else name

def isIdentifierStart (c : Char) : Bool :=
  c.isAlpha || c == '_' || c == '$'

def isIdentifierPart (c : Char) : Bool :=
  c.isAlphanum || c == '_' || c == '$'

def needsQuotes (name : String) : Bool :=
  match name.toList with
  | [] => true
  | c :: rest => !(isIdentifierStart c && (c :: rest).all isIdentifierPart)

def numberRepeatsAfter (seen : List String) : List String → List String
  | [] => []
  | name :: rest =>
    let earlier := seen.count name
    (if earlier = 0 then name else name ++ toString (earlier + 1)) ::
      numberRepeatsAfter (name :: seen) rest

def numberRepeats (names : List String) : List String :=
  numberRepeatsAfter [] names

end OpenApiCodegen.Text
