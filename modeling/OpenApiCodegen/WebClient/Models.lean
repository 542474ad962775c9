import OpenApiCodegen.Api.ReturnType
import OpenApiCodegen.Output.EnumName
import OpenApiCodegen.WebClient.Syntax

namespace OpenApiCodegen.WebClient

open Api (DataType Property Model Discriminator ReturnType)

def modelType (api : Api) (name : String) : TypeExpr :=
  match Api.signatureOf? api name with
  | some parameters => .applied name (parameters.map fun _ => .unknown)
  | none => .named name

def typeExpr (api : Api) : DataType → TypeExpr
  | .text => .text
  | .date => .text
  | .dateTime => .text
  | .integer => .number
  | .long => .number
  | .float => .number
  | .double => .number
  | .boolean => .boolean
  | .binary => .named "Blob"
  | .any => .unknown
  | .array item => .array (typeExpr api item)
  | .map value => .table (typeExpr api value)
  | .model name => modelType api name

def returnExpr (api : Api) : ReturnType → TypeExpr
  | .nothing => .nothing
  | .data type => typeExpr api type
  | .envelope applied => .applied applied.envelope (applied.arguments.map (typeExpr api))

def orNullIf (nullable : Bool) (type : TypeExpr) : TypeExpr :=
  if nullable then type.orNull else type

def propertyDoc (property : Property) : Option String :=
  match property.description, property.deprecated with
  | some text, true => some (text ++ "\n@deprecated")
  | some text, false => some text
  | none, true => some "@deprecated"
  | none, false => none

def propertyType (api : Api) (isEnvelope : Bool) (property : Property) : TypeExpr :=
  match property.placeholder, isEnvelope with
  | some parameter, true => .named parameter
  | _, _ => typeExpr api property.type

def recordMember (api : Api) (isEnvelope : Bool) (property : Property) : Member :=
  { name := property.wireName
    type := orNullIf property.nullable (propertyType api isEnvelope property)
    optional := !property.required
    doc := propertyDoc property }

def indexType (api : Api) (model : Model) : Option TypeExpr :=
  model.additional.map fun type =>
    if model.properties.isEmpty then typeExpr api type else .unknown

def recordInterface (api : Api) (model : Model) : Interface :=
  { name := model.name
    doc := model.description
    deprecated := model.deprecated
    parameters := model.signature?.getD []
    members := model.properties.map (recordMember api model.isEnvelope)
    index := indexType api model }

def aliasOf (model : Model) (type : TypeExpr) : Declaration :=
  .typeAlias { name := model.name, doc := model.description, deprecated := model.deprecated, type }

def flagType? : Api.Literal → Option TypeExpr
  | .flag b => some (.flag b)
  | _ => none

def enumDeclaration (model : Model) (enumeration : Api.Enumeration) : Declaration :=
  if enumeration.base = .boolean then
    aliasOf model (.either (enumeration.literals.filterMap flagType?))
  else
    .enumeration
      { name := model.name
        doc := model.description
        deprecated := model.deprecated
        members := (Output.memberNames enumeration.literals).zip enumeration.literals }

def ownVariants (api : Api) (discriminator : Discriminator) : List Model :=
  discriminator.variants.filterMap fun variant =>
    (api.modelId? variant).bind fun id =>
      if Api.isUnionOnly api id then api.models[id]? else none

def decoder (model : Model) (discriminator : Discriminator) : Decoder :=
  { union := model.name
    discriminator := discriminator.property
    arms := discriminator.mapping }

def unionDeclarations (api : Api) (model : Model) (discriminator : Discriminator) :
    List Declaration :=
  (ownVariants api discriminator).map (fun variant => .interface (recordInterface api variant)) ++
    [aliasOf model (.either (discriminator.variants.map .named)),
      .decoder (decoder model discriminator)]

def modelDeclarations (api : Api) (model : Model) : List Declaration :=
  match model.shape with
  | .enumeration enumeration => [enumDeclaration model enumeration]
  | .union discriminator => unionDeclarations api model discriminator
  | .record => [.interface (recordInterface api model)]
  | .unsupported _ => [.interface (recordInterface api model)]

def modelImports (api : Api) (model : Model) : NameSet :=
  let own := match model.discriminator? with
    | some discriminator => ownVariants api discriminator
    | none => []
  let imports := own.foldl
    (fun imports variant => (imports.erase variant.name).union variant.imports) model.imports
  imports.erase model.name

def modelRequires (model : Model) : NameSet :=
  if model.isUnion then .ofList ["DecodeError"] else .empty

end OpenApiCodegen.WebClient
