import OpenApiCodegen.OpenApi.Schema

namespace OpenApiCodegen.OpenApi

structure Info where
  title : Option String
  version : Option String
  description : Option String

structure Tag where
  name : String
  description : Option String

structure Parameter where
  name : String
  location : String
  required : Bool
  description : Option String
  schema : Option Schema
  marker : Option Json.Value

def Parameter.isGlobal (parameter : Parameter) : Bool :=
  match parameter.marker with
  | none => false
  | some .null => false
  | some (.bool false) => false
  | some _ => true

abbrev Content := List (String × Option Schema)

structure RequestBody where
  required : Bool
  description : Option String
  content : Content

structure Response where
  description : Option String
  content : Content

structure Operation where
  operationId : Option String
  summary : Option String
  description : Option String
  deprecated : Bool
  tags : List String
  parameters : Option (List Parameter)
  requestBody : Option RequestBody
  responses : List (String × Response)

inductive Method where
  | get
  | post
  | put
  | patch
  | delete
  deriving DecidableEq

def Method.all : List Method :=
  [.get, .post, .put, .patch, .delete]

def Method.name : Method → String
  | .get => "get"
  | .post => "post"
  | .put => "put"
  | .patch => "patch"
  | .delete => "delete"

def Method.verb (method : Method) : String :=
  Text.asciiUpper method.name

structure PathItem where
  get : Option Operation
  post : Option Operation
  put : Option Operation
  patch : Option Operation
  delete : Option Operation
  parameters : Option (List Parameter)

def PathItem.operation? (item : PathItem) : Method → Option Operation
  | .get => item.get
  | .post => item.post
  | .put => item.put
  | .patch => item.patch
  | .delete => item.delete

def PathItem.operations (item : PathItem) : List (Method × Operation) :=
  Method.all.filterMap fun method => (item.operation? method).map fun op => (method, op)

def PathItem.mapOperations (f : Operation → Operation) (item : PathItem) : PathItem :=
  { item with
    get := item.get.map f
    post := item.post.map f
    put := item.put.map f
    patch := item.patch.map f
    delete := item.delete.map f }

/-- `schemas` is absent when the document has no components. `source` is the text as a JSON value,
if it has one. -/
structure Document where
  openapi : Option String
  info : Option Info
  paths : List (String × PathItem)
  schemas : Option (List (String × Schema))
  tags : List Tag
  source : Option Json.Value

def Document.operations (doc : Document) : List (String × PathItem × Method × Operation) :=
  doc.paths.flatMap fun (path, item) =>
    item.operations.map fun (method, op) => (path, item, method, op)

def Document.components (doc : Document) : List (String × Schema) :=
  doc.schemas.getD []

end OpenApiCodegen.OpenApi
