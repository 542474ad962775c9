import OpenApiCodegen.Api.Binding
import OpenApiCodegen.MobileClient.Models

namespace OpenApiCodegen.MobileClient

open Api (Operation)

def locationMark (parameter : Api.Parameter) : Annotation :=
  let wireName := quoted parameter.wireName
  match parameter.location with
  | .path => ⟨"Path", some wireName⟩
  | .query => ⟨"Query", some wireName⟩
  | .header => ⟨"Header", some wireName⟩
  | .body => ⟨"Body", some ""⟩
  | .form => ⟨"Part", some ("name: " ++ wireName)⟩
  | .cookie => ⟨"Part", some ("name: " ++ wireName)⟩

def parameterType (api : Api) (parameter : Api.Parameter) : DartType :=
  if parameter.location = .form ∧ parameter.type = .binary then .list (dartType api .binary)
  else dartType api parameter.type

def isPositional (parameter : Api.Parameter) : Bool :=
  parameter.required && !parameter.nullable

def methodParameter (api : Api) (parameter : Api.Parameter) : Parameter :=
  let type := parameterType api parameter
  { annotations := [locationMark parameter]
    required := false
    type := if isPositional parameter then type else type.orNull
    name := fieldName parameter.name }

def methodAnnotations (operation : Operation) : List Annotation :=
  let form := operation.locals.any (·.location == .form)
  ⟨operation.method.verb, some (quoted operation.path)⟩ ::
    if form then [⟨"MultiPart", some ""⟩] else []

def clientMethod (api : Api) (operation : Operation) : Method :=
  { name := fieldName operation.id
    doc := operation.summary.or operation.description
    deprecated := operation.deprecated
    annotations := methodAnnotations operation
    returned := .plain "Future" [returnType api (Api.returnType api operation)]
    positional := (operation.locals.filter isPositional).map (methodParameter api)
    named := (operation.locals.filter (!isPositional ·)).map (methodParameter api) }

def methodImports (api : Api) (operation : Operation) : NameSet :=
  (NameSet.ofList (Api.returnType api operation).models).insertAll
    (operation.locals.flatMap fun parameter => parameter.type.models)

end OpenApiCodegen.MobileClient
