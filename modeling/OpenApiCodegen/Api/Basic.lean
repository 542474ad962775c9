import OpenApiCodegen.Api.Model
import OpenApiCodegen.Api.Operation

namespace OpenApiCodegen

structure Api where
  title : Option String
  models : List Api.Model
  operations : List Api.Operation

namespace Api

def lastIndexFrom? {α : Type} (p : α → Bool) : Nat → List α → Option Nat
  | _, [] => none
  | start, a :: rest =>
    (lastIndexFrom? p (start + 1) rest).or (if p a then some start else none)

/-- The position of the model with a name. Of several, the last one counts. -/
def modelId? (api : Api) (name : String) : Option Nat :=
  lastIndexFrom? (·.name = name) 0 api.models

def model? (api : Api) (name : String) : Option Model :=
  (api.modelId? name).bind (api.models[·]?)

def operation? (api : Api) (id : String) : Option (Nat × Operation) :=
  (api.operations.findIdx? (·.id = id)).bind fun n => (api.operations[n]?).map fun op => (n, op)

def numberedModels (api : Api) : List (Nat × Model) :=
  api.models.zipIdx.map fun (model, id) => (id, model)

def numberedOperations (api : Api) : List (Nat × Operation) :=
  api.operations.zipIdx.map fun (operation, id) => (id, operation)

end Api

end OpenApiCodegen
