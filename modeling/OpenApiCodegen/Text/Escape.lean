import OpenApiCodegen.Text.Identifier

namespace OpenApiCodegen.Text

def backslash : Char := '\\'

def escapeChars (special : List Char) : List Char → List Char
  | [] => []
  | c :: rest =>
    if c = backslash ∨ c ∈ special then backslash :: c :: escapeChars special rest
    else c :: escapeChars special rest

def doubleQuoteSpecial : List Char := ['"']

def interpolatedSpecial : List Char := ['\x27', '$']

def escapeJavaScript (text : String) : String :=
  String.ofList (escapeChars doubleQuoteSpecial text.toList)

def escapeGo (text : String) : String :=
  String.ofList (escapeChars doubleQuoteSpecial text.toList)

def escapeDart (text : String) : String :=
  String.ofList (escapeChars interpolatedSpecial text.toList)

def inDoubleQuotes (text : String) : String :=
  "\"" ++ text ++ "\""

def propertyKey (name : String) : String :=
  if needsQuotes name then inDoubleQuotes (escapeJavaScript name) else name

end OpenApiCodegen.Text
