import OpenApiCodegen.Api.Dispatch

namespace OpenApiCodegen.Api

def Model.placeholders (model : Model) : List String :=
  firsts (model.properties.filterMap (·.placeholder))

def Model.isEnvelope (model : Model) : Bool :=
  model.isRecord && !model.placeholders.isEmpty

def Model.signature? (model : Model) : Option (List String) :=
  if model.isEnvelope then some model.placeholders else none

def signatureOf? (api : Api) (name : String) : Option (List String) :=
  (api.model? name).bind Model.signature?

structure Instance where
  id : Nat
  envelope : String
  arguments : List DataType

inductive ReturnType where
  | nothing
  | data (type : DataType)
  | envelope (applied : Instance)

def ReturnType.types : ReturnType → List DataType
  | nothing => []
  | data type => [type]
  | envelope applied => applied.arguments

def ReturnType.models : ReturnType → List String
  | nothing => []
  | data type => type.models
  | envelope applied => applied.envelope :: applied.arguments.flatMap DataType.models

def Operation.successBody? (operation : Operation) : Option DataType :=
  (operation.responses.find? (·.statusClass = .success)).bind (·.body)

def successModel? (api : Api) (operation : Operation) : Option Nat :=
  match operation.successBody? with
  | some (.model name) => api.modelId? name
  | _ => none

def envelopeOf? (api : Api) (model : Model) : Option (Nat × Model) :=
  (model.members.filterMap api.modelId?).findSome? fun id =>
    (api.models[id]?).bind fun part => if part.isEnvelope then some (id, part) else none

def siblingType? (siblings : List Model) (wireName : String) : Option DataType :=
  siblings.findSome? fun sibling =>
    ((sibling.property? wireName).filter (·.placeholder.isNone)).map (·.type)

/-- The type for a parameter of an envelope: that of the first of its placeholders for which a
sibling declares a type. -/
def argument? (envelope : Model) (siblings : List Model) (parameter : String) : Option DataType :=
  (envelope.properties.filter (·.placeholder = some parameter)).findSome? fun property =>
    siblingType? siblings property.wireName

def instance? (api : Api) (model : Model) : Option Instance := do
  let (id, envelope) ← envelopeOf? api model
  let siblings := (model.members.filter (· != envelope.name)).filterMap api.model?
  let arguments ← envelope.placeholders.mapM (argument? envelope siblings)
  some ⟨id, envelope.name, arguments⟩

def bodyInstance? (api : Api) : DataType → Option Instance
  | .model name => (api.model? name).bind (instance? api)
  | _ => none

def returnType (api : Api) (operation : Operation) : ReturnType :=
  match operation.successBody? with
  | none => .nothing
  | some body =>
    match bodyInstance? api body with
    | some applied => .envelope applied
    | none => .data body

end OpenApiCodegen.Api
