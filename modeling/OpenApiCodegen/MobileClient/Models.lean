import OpenApiCodegen.Api.ReturnType
import OpenApiCodegen.MobileClient.Syntax
import OpenApiCodegen.Output.EnumName

namespace OpenApiCodegen.MobileClient

open Api (DataType Property Model Discriminator ReturnType)

def modelType (api : Api) (name : String) : DartType :=
  match Api.signatureOf? api name with
  | some parameters => .plain name (parameters.map fun _ => .dynamic)
  | none => .named name

def dartType (api : Api) : DataType → DartType
  | .text => .named "String"
  | .integer => .named "int"
  | .long => .named "int"
  | .float => .named "double"
  | .double => .named "double"
  | .boolean => .named "bool"
  | .date => .named "DateTime"
  | .dateTime => .named "DateTime"
  | .binary => .named "MultipartFile"
  | .any => .dynamic
  | .array item => .list (dartType api item)
  | .map value => .plain "Map" [.named "String", dartType api value]
  | .model name => modelType api name

def returnType (api : Api) : ReturnType → DartType
  | .nothing => .named "void"
  | .data type => dartType api type
  | .envelope applied => .plain applied.envelope (applied.arguments.map (dartType api))

def fieldName (name : String) : String :=
  Text.dartReserved.escape "_" name

def memberName (name : String) : String :=
  Text.dartReserved.escape "Value" (Text.uncapitalize name)

def keyMark (property : Property) : List Annotation :=
  if property.wireName = fieldName property.name then []
  else [⟨"JsonKey", some ("name: " ++ quoted property.wireName)⟩]

def propertyAnnotations (property : Property) : List Annotation :=
  (if property.deprecated then [⟨"deprecated", none⟩] else []) ++ keyMark property

def alwaysThere (property : Property) : Bool :=
  property.required && !property.nullable

/-- A list that is always there is empty by default; other values have to be given. -/
def factoryParameter (api : Api) (property : Property) : Parameter :=
  let type := dartType api property.type
  let hasDefault := alwaysThere property && type.isList
  { annotations :=
      (if hasDefault then [⟨"Default", some "[]"⟩] else []) ++ propertyAnnotations property
    required := property.required && !hasDefault
    type := if alwaysThere property then type else type.orNull
    name := fieldName property.name }

def holdsBinary (model : Model) : Bool :=
  model.properties.any (·.type.containsBinary)

def recordClass (api : Api) (model : Model) : RecordClass :=
  { name := model.name
    doc := model.description
    deprecated := model.deprecated
    parameters := model.properties.map (factoryParameter api)
    readsJson := !holdsBinary model }

def envelopeField (api : Api) (property : Property) : Field :=
  let type := match property.placeholder with
    | some parameter => .named parameter
    | none => dartType api property.type
  { annotations := propertyAnnotations property
    type := if alwaysThere property then type else type.orNull
    name := fieldName property.name }

def envelopeClass (api : Api) (model : Model) (parameters : List String) : EnvelopeClass :=
  { name := model.name
    doc := model.description
    deprecated := model.deprecated
    parameters
    fields := model.properties.map (envelopeField api) }

def encodedType : DataType → DartType
  | .integer => .named "int"
  | .long => .named "int"
  | .float => .named "double"
  | .double => .named "double"
  | .boolean => .named "bool"
  | _ => .named "String"

def enumerationOf (model : Model) (enumeration : Api.Enumeration) : Enumeration :=
  let names := (Output.memberNames enumeration.literals).map memberName
  { name := model.name
    doc := model.description
    deprecated := model.deprecated
    members := names.zip enumeration.literals
    encoded := encodedType enumeration.base }

def variantModels (api : Api) (discriminator : Discriminator) : List Model :=
  discriminator.variants.filterMap api.model?

def variantFactory (api : Api) (union variant : String) : Factory :=
  let properties := ((api.model? variant).map (·.properties)).getD []
  { name := union ++ "." ++ memberName variant
    parameters := properties.map (factoryParameter api)
    implementation := union ++ variant }

def unionClass (api : Api) (model : Model) (discriminator : Discriminator) : UnionClass :=
  { name := model.name
    doc := model.description
    deprecated := model.deprecated
    discriminator := discriminator.property
    factories := discriminator.variants.map (variantFactory api model.name)
    arms := discriminator.mapping }

def recordDeclaration (api : Api) (model : Model) : Declaration :=
  match model.signature? with
  | some parameters => .envelope (envelopeClass api model parameters)
  | none => .record (recordClass api model)

def modelDeclaration (api : Api) (model : Model) : Declaration :=
  match model.shape with
  | .enumeration enumeration => .enumeration (enumerationOf model enumeration)
  | .union discriminator => .union (unionClass api model discriminator)
  | .record => recordDeclaration api model
  | .unsupported _ => recordDeclaration api model

def modelImports (api : Api) (model : Model) : NameSet :=
  let imports : NameSet := match model.shape with
    | .enumeration _ => .empty
    | .union discriminator =>
      .ofList ((variantModels api discriminator).flatMap fun variant => variant.imports.names)
    | .record => model.imports
    | .unsupported _ => model.imports
  imports.erase model.name

def freezedPackage : String := "package:freezed_annotation/freezed_annotation.dart"

def jsonPackage : String := "package:json_annotation/json_annotation.dart"

def dioPackage : String := "package:dio/dio.dart"

def retrofitPackage : String := "package:retrofit/retrofit.dart"

def freezedPart : String := "part:freezed"

def jsonPart : String := "part:g"

def decodeError : String := "DecodeError"

def Declaration.requires : Declaration → NameSet
  | enumeration _ => .ofList [jsonPackage, jsonPart]
  | union _ => .ofList [freezedPackage, freezedPart, jsonPart, decodeError]
  | envelope _ => .ofList [jsonPackage, jsonPart]
  | record declared =>
    .ofList [freezedPackage, freezedPart, if declared.readsJson then jsonPart else dioPackage]

end OpenApiCodegen.MobileClient
