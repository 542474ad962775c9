import OpenApiCodegen.Text.Identifier
import OpenApiCodegen.Text.Words

namespace OpenApiCodegen.Lowering

def isTypeName (key : String) : Bool :=
  match key.toList with
  | [] => false
  | c :: rest => c.isAlpha && rest.all fun d => d.isAlphanum || d == '_'

def typeName (key : String) : String :=
  if isTypeName key then Text.capitalize key else Text.pascalCase key

def identifier (wireName : String) : String :=
  Text.orValue (Text.camelCase wireName)

def numbered (base : String) (n : Nat) : String :=
  if n ≤ 1 then base else base ++ toString n

def freshFrom (taken : List String) (base : String) : (tries n : Nat) → String
  | 0, n => numbered base n
  | tries + 1, n =>
    if taken.contains (numbered base n) then freshFrom taken base tries (n + 1)
    else numbered base n

/-- The first of the numbered names that is not taken. There are more tries than names taken. -/
def freshName (taken : List String) (base : String) : String :=
  freshFrom taken base (taken.length + 1) 1

def pathName (method path : String) : String :=
  let parts := (Text.splitOn '/' path.toList).filter fun part =>
    !part.isEmpty && part.head? != some '\x7b'
  Text.camelCase (method ++ "_" ++ String.ofList (Text.joinWith ['_'] parts))

def operationName (operationId : Option String) (method path : String) : String :=
  match operationId.map Text.camelCase with
  | some name => if name.isEmpty then pathName method path else name
  | none => pathName method path

def statusSuffix (status : String) : String :=
  Text.capitalize (String.ofList (status.toList.filter Text.isAlphanumeric))

end OpenApiCodegen.Lowering
