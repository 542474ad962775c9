import OpenApiCodegen.Api.ReturnType
import OpenApiCodegen.Output.EnumName
import OpenApiCodegen.Server.Syntax

namespace OpenApiCodegen.Server

open Api (DataType Property Model Discriminator ReturnType Literal)

def fieldName (name : String) : String :=
  Text.capitalize (Text.goReserved.escape "Value" (Text.pascalCase name))

def modelType (api : Api) (name : String) : GoType :=
  match Api.signatureOf? api name with
  | some parameters => .applied name (parameters.map fun _ => .named "any")
  | none => .named name

def goType (api : Api) : DataType → GoType
  | .text => .named "string"
  | .integer => .named "int"
  | .long => .named "int64"
  | .float => .named "float32"
  | .double => .named "float64"
  | .boolean => .named "bool"
  | .date => .named "time.Time"
  | .dateTime => .named "time.Time"
  | .binary => .slice (.named "byte")
  | .any => .named "any"
  | .array item => .slice (goType api item)
  | .map value => .table (goType api value)
  | .model name => modelType api name

def usesTime : DataType → Bool
  | .date => true
  | .dateTime => true
  | .array item => usesTime item
  | .map value => usesTime value
  | _ => false

def timePackage : String := "time"

def timeFor (types : List DataType) : List String :=
  if types.any usesTime then [timePackage] else []

structure EnumType where
  name : String
  doc : Option String
  deprecated : Bool
  base : GoType
  members : List (String × Literal)

structure UnionType where
  name : String
  doc : Option String
  deprecated : Bool
  discriminator : String
  variants : List String
  arms : List (String × String)

inductive Declaration where
  | record (declared : Record)
  | enumeration (declared : EnumType)
  | union (declared : UnionType)

def propertyType (api : Api) (parameters : List String) (property : Property) : GoType :=
  match property.placeholder with
  | some parameter => if parameters.isEmpty then goType api property.type else .named parameter
  | none => goType api property.type

def recordField (api : Api) (parameters : List String) (property : Property) : Field :=
  let type := propertyType api parameters property
  let wireName := Text.escapeGo property.wireName
  { name := fieldName property.name
    type := if property.nullable then type.orNil else type
    tag := some (if property.required then wireName else wireName ++ ",omitempty")
    doc := property.description
    deprecated := property.deprecated }

def recordStruct (api : Api) (model : Model) (parameters : List String) : Record :=
  { name := model.name
    doc := model.description
    deprecated := model.deprecated
    parameters
    fields := model.properties.map (recordField api parameters) }

def writtenTypes (model : Model) (parameters : List String) : List DataType :=
  (model.properties.filter fun property =>
    property.placeholder.isNone || parameters.isEmpty).map (·.type)

def enumType (api : Api) (model : Model) (enumeration : Api.Enumeration) : EnumType :=
  { name := model.name
    doc := model.description
    deprecated := model.deprecated
    base := goType api enumeration.base
    members := (Output.memberNames enumeration.literals).zip enumeration.literals }

def ownVariants (api : Api) (discriminator : Discriminator) : List Model :=
  let ids := (Api.branches api discriminator).filterMap (·.variantId)
  ((firsts ids).filter (Api.isUnionOnly api)).filterMap fun id => api.models[id]?

def unionType (model : Model) (discriminator : Discriminator) : UnionType :=
  { name := model.name
    doc := model.description
    deprecated := model.deprecated
    discriminator := discriminator.property
    variants := discriminator.variants
    arms := discriminator.mapping }

def modelDeclarations (api : Api) (model : Model) : List Declaration :=
  match model.shape with
  | .enumeration enumeration => [.enumeration (enumType api model enumeration)]
  | .union discriminator =>
    (ownVariants api discriminator).map (fun variant => .record (recordStruct api variant [])) ++
      [.union (unionType model discriminator)]
  | .record => [.record (recordStruct api model (model.signature?.getD []))]
  | .unsupported _ => [.record (recordStruct api model [])]

def modelImports (api : Api) (model : Model) : NameSet :=
  let own := match model.discriminator? with
    | some discriminator => ownVariants api discriminator
    | none => []
  (own.foldl (fun imports variant => imports.union variant.imports) model.imports).erase model.name

def modelPackages (api : Api) (model : Model) : NameSet :=
  .ofList
    (match model.shape with
      | .enumeration _ => ["encoding/json", "fmt"]
      | .union discriminator =>
        "encoding/json" ::
          timeFor ((ownVariants api discriminator).flatMap fun variant => writtenTypes variant [])
      | .record => timeFor (writtenTypes model (model.signature?.getD []))
      | .unsupported _ => timeFor (writtenTypes model []))

def literalCode : Literal → String
  | .text s => quoted s
  | literal => literal.plainText

def method (receiver name : String) (parameters : List (String × String)) (results : List String)
    (body : List Code) : List Code :=
  Function.code { doc := none, receiver := some receiver, name, parameters, results, body }

namespace EnumType

def wrapper (declared : EnumType) : Record :=
  { name := declared.name
    doc := declared.doc.or (some s!"{declared.name} is one of {declared.name}Values.")
    deprecated := declared.deprecated
    parameters := []
    fields := [⟨"value", declared.base, none, none, false⟩] }

def valuesCode (declared : EnumType) : List Code :=
  let name := declared.name
  let valueCode := fun (literal : Literal) => name ++ "\x7bvalue: " ++ literalCode literal ++ "\x7d"
  [.line s!"// {name}Values holds every {name}.",
    .line ("var " ++ name ++ "Values = struct \x7b"),
    .nested (declared.members.map fun (member, _) => .line s!"{member} {name}"),
    .line "\x7d\x7b",
    .nested
      (declared.members.map fun (member, literal) => .line s!"{member}: {valueCode literal},"),
    .line "\x7d"]

def unmarshalBody (declared : EnumType) : List Code :=
  let name := declared.name
  let candidates := declared.members.map fun (member, _) => name ++ "Values." ++ member
  [.line s!"var value {declared.base.code}",
    .block "if err := json.Unmarshal(data, &value); err != nil" [.line "return err"],
    .block ("for _, candidate := range []" ++ name ++ "\x7b" ++ commaSeparated candidates ++ "\x7d")
      [.block "if candidate.value == value" [.line "*e = candidate", .line "return nil"]],
    .line s!"return fmt.Errorf(\"{name}: unknown value %v\", value)"]

def code (declared : EnumType) : List (List Code) :=
  let name := declared.name
  [declared.wrapper.code,
    declared.valuesCode,
    method s!"e {name}" "Value" [] [declared.base.code] [.line "return e.value"],
    method s!"e {name}" "MarshalJSON" [] ["[]byte", "error"]
      [.line "return json.Marshal(e.value)"],
    method s!"e *{name}" "UnmarshalJSON" [("data", "[]byte")] ["error"] declared.unmarshalBody]

end EnumType

namespace UnionType

def wrapper (declared : UnionType) : Record :=
  { name := declared.name
    doc := declared.doc
    deprecated := declared.deprecated
    parameters := []
    fields := declared.variants.map fun variant =>
      ⟨variant, (GoType.named variant).orNil, none, none, false⟩ }

def marshalBody (declared : UnionType) : List Code :=
  let arm := fun (variant : String) =>
    [Code.line s!"case u.{variant} != nil:", .nested [.line s!"return json.Marshal(u.{variant})"]]
  .line "switch \x7b" ::
    declared.variants.flatMap arm ++ [.line "\x7d", .line "return []byte(\"null\"), nil"]

def armCode (arm : String × String) : List Code :=
  let (value, variant) := arm
  [.line s!"case {quoted value}:",
    .nested
      [.line ("u." ++ variant ++ " = &" ++ variant ++ "\x7b\x7d"),
        .line s!"return json.Unmarshal(data, u.{variant})"]]

def unmarshalBody (declared : UnionType) : List Code :=
  let field := "Discriminator string `json:" ++ quoted declared.discriminator ++ "`"
  let head : List Code :=
    [.block "var head struct" [.line field],
      .block "if err := json.Unmarshal(data, &head); err != nil" [.line "return err"],
      .line "switch head.Discriminator \x7b"]
  let otherwise : List Code :=
    [.line "default:",
      .nested
        [.line s!"return newUnrecognizedVariant(\"{declared.name}\", head.Discriminator)"],
      .line "\x7d"]
  head ++ declared.arms.flatMap armCode ++ otherwise

def code (declared : UnionType) : List (List Code) :=
  let name := declared.name
  [declared.wrapper.code,
    method s!"u {name}" "MarshalJSON" [] ["[]byte", "error"] declared.marshalBody,
    method s!"u *{name}" "UnmarshalJSON" [("data", "[]byte")] ["error"] declared.unmarshalBody]

end UnionType

def Declaration.code : Declaration → List (List Code)
  | record declared => [declared.code]
  | enumeration declared => declared.code
  | union declared => declared.code

end OpenApiCodegen.Server
