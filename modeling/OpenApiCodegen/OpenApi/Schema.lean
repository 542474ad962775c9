import OpenApiCodegen.Json.Value
import OpenApiCodegen.Text.Basic

namespace OpenApiCodegen.OpenApi

inductive TypeNames where
  | single (name : String)
  | several (names : List String)
  deriving DecidableEq

inductive EnumLiteral where
  | text (s : String)
  | whole (n : Int)
  | real (x : Binary64)
  | flag (b : Bool)
  | null
  deriving DecidableEq

def EnumLiteral.same : EnumLiteral → EnumLiteral → Bool
  | .real x, .real y => x.equal y
  | .real _, _ => false
  | _, .real _ => false
  | a, b => a == b

def sameLiterals : List EnumLiteral → List EnumLiteral → Bool
  | [], [] => true
  | a :: as, b :: bs => a.same b && sameLiterals as bs
  | _, _ => false

structure Discriminator where
  property : String
  mapping : Option (List (String × String))

inductive Additional (α : Type) where
  | allowed (yes : Bool)
  | schema (value : α)

/-- Properties are in the order of their declaration. `placeholder` names the type parameter that
a property of an envelope stands for. -/
structure Schema where
  typeNames : Option TypeNames := none
  ref : Option String := none
  title : Option String := none
  description : Option String := none
  properties : Option (List (String × Schema)) := none
  required : Option (List String) := none
  items : Option Schema := none
  enumeration : Option (List EnumLiteral) := none
  anyOf : Option (List Schema) := none
  oneOf : Option (List Schema) := none
  allOf : Option (List Schema) := none
  additional : Option (Additional Schema) := none
  discriminator : Option Discriminator := none
  format : Option String := none
  defaultValue : Option Json.Value := none
  nullable : Option Bool := none
  deprecated : Option Bool := none
  placeholder : Option String := none

namespace Schema

def empty : Schema := {}

instance : Inhabited Schema := ⟨empty⟩

def isNull (schema : Schema) : Bool :=
  schema.typeNames = some (.single "null")

def alternatives (schema : Schema) : List Schema :=
  schema.anyOf.getD [] ++ schema.oneOf.getD []

def unionMembers (schema : Schema) : List Schema :=
  schema.alternatives.filter (!·.isNull)

def listsNull : TypeNames → Bool
  | .single _ => false
  | .several names => names.contains "null"

def isNullable (schema : Schema) : Bool :=
  schema.nullable == some true || schema.alternatives.any (·.isNull) ||
    schema.typeNames.any listsNull

def primaryType (schema : Schema) : Option String :=
  match schema.typeNames with
  | some (.single name) => some name
  | some (.several names) => names.find? (· != "null")
  | none => none

def isDescriptionOnly (schema : Schema) : Bool :=
  schema.description.isSome && schema.typeNames.isNone && schema.ref.isNone &&
    schema.title.isNone && schema.properties.isNone && schema.required.isNone &&
    schema.items.isNone && schema.enumeration.isNone && schema.anyOf.isNone &&
    schema.oneOf.isNone && schema.allOf.isNone && schema.additional.isNone &&
    schema.discriminator.isNone && schema.format.isNone && schema.defaultValue.isNone &&
    schema.nullable.isNone && schema.deprecated.isNone && schema.placeholder.isNone

end Schema

def componentPath : String := "#/components/schemas/"

/-- The component that a reference points to. A reference of another form is taken for its name. -/
def componentName (ref : String) : String :=
  Text.withoutStart componentPath ref

end OpenApiCodegen.OpenApi
