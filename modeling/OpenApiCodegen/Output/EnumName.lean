import OpenApiCodegen.Api.Model
import OpenApiCodegen.Text.Identifier
import OpenApiCodegen.Text.Words

namespace OpenApiCodegen.Output

open Api (Literal Enumeration)

def signedName (negative : Bool) (digits : String) : String :=
  (if negative then "NumberNegative" else "Number") ++ digits

def textName (s : String) : String :=
  let name := Text.pascalCase s
  if s.isEmpty then "Empty"
  else if name.isEmpty then "Value"
  else if Text.startsWithDigit name then "Number" ++ name
  else name

def pointToUnderscore (c : Char) : Char :=
  if c = '.' then '_' else c

def literalName : Literal → String
  | .text s => textName s
  | .whole n => signedName (n < 0) (toString n.natAbs)
  | .real x =>
    signedName x.belowZero (String.ofList (x.abs.plainText.toList.map pointToUnderscore))
  | .flag true => "True"
  | .flag false => "False"

def memberNames (literals : List Literal) : List String :=
  Text.numberRepeats (literals.map literalName)

end OpenApiCodegen.Output
