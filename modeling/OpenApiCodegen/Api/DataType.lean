namespace OpenApiCodegen.Api

inductive DataType where
  | text
  | integer
  | long
  | float
  | double
  | boolean
  | date
  | dateTime
  | binary
  | any
  | array (item : DataType)
  | map (value : DataType)
  | model (name : String)
  deriving DecidableEq, Inhabited

namespace DataType

def isArray : DataType → Bool
  | array _ => true
  | _ => false

def containsBinary : DataType → Bool
  | binary => true
  | array item => item.containsBinary
  | map value => value.containsBinary
  | _ => false

def containsMap : DataType → Bool
  | map _ => true
  | array item => item.containsMap
  | _ => false

def models : DataType → List String
  | model name => [name]
  | array item => item.models
  | map value => value.models
  | _ => []

end DataType

end OpenApiCodegen.Api
