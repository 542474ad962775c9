import OpenApiCodegen.Api.DataType
import OpenApiCodegen.Json.Value
import OpenApiCodegen.Text.NameSet

namespace OpenApiCodegen.Api

inductive Literal where
  | text (s : String)
  | whole (n : Int)
  | real (x : Binary64)
  | flag (b : Bool)
  deriving DecidableEq

def Literal.plainText : Literal → String
  | text s => s
  | whole n => toString n
  | real x => x.plainText
  | flag b => if b then "true" else "false"

structure Enumeration where
  base : DataType
  literals : List Literal

structure Discriminator where
  property : String
  mapping : List (String × String)

inductive Shape where
  | record
  | enumeration (enumeration : Enumeration)
  | union (discriminator : Discriminator)
  | unsupported (reason : String)

/-- Where a model comes from: a component, a member of a composition, an object within another
schema, or the schema of a response. -/
inductive Origin where
  | component
  | composition
  | inlineObject
  | inlineResponse
  deriving DecidableEq

/-- `wireName` is the key on the wire and `name` an identifier for it. `placeholder` names the type
parameter that the property stands for. -/
structure Property where
  name : String
  wireName : String
  type : DataType
  required : Bool
  nullable : Bool
  defaultValue : Option Json.Value
  description : Option String
  deprecated : Bool
  placeholder : Option String

/-- `members` are the variants of a union, or the parts that a composition is made of.
`additional` is the type of the values that an object may hold besides its properties. -/
structure Model where
  name : String
  description : Option String
  deprecated : Bool
  properties : List Property
  shape : Shape
  members : List String
  additional : Option DataType
  origin : Origin

namespace Model

def isRecord (model : Model) : Bool :=
  match model.shape with
  | .record => true
  | _ => false

def isUnion (model : Model) : Bool :=
  match model.shape with
  | .union _ => true
  | _ => false

def enumeration? (model : Model) : Option Enumeration :=
  match model.shape with
  | .enumeration enumeration => some enumeration
  | _ => none

def discriminator? (model : Model) : Option Discriminator :=
  match model.shape with
  | .union discriminator => some discriminator
  | _ => none

def property? (model : Model) (wireName : String) : Option Property :=
  model.properties.find? (·.wireName = wireName)

def types (model : Model) : List DataType :=
  model.properties.map (·.type) ++ model.additional.toList

def imports (model : Model) : NameSet :=
  let mentioned := NameSet.ofList (model.types.flatMap DataType.models)
  let mentioned := if model.isUnion then mentioned.insertAll model.members else mentioned
  mentioned.erase model.name

end Model

end OpenApiCodegen.Api
