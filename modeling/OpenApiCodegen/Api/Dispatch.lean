import OpenApiCodegen.Api.Basic
import OpenApiCodegen.List.Firsts

namespace OpenApiCodegen.Api

/-- One value of a discriminator and the variant that it stands for, with the position of its model
if there is one. -/
structure Branch where
  literal : String
  variant : String
  variantId : Option Nat

def branches (api : Api) (discriminator : Discriminator) : List Branch :=
  discriminator.mapping.map fun (literal, variant) => ⟨literal, variant, api.modelId? variant⟩

def Discriminator.variants (discriminator : Discriminator) : List String :=
  firsts (discriminator.mapping.map (·.2))

def unionsListing (api : Api) (name : String) : Nat :=
  api.models.countP fun model => model.isUnion && model.members.contains name

def Model.mentions (model : Model) : List String :=
  let types := (model.types.flatMap DataType.models).filter (· != model.name)
  if model.isUnion then types else types ++ model.members

def Operation.mentions (operation : Operation) : List String :=
  (operation.parameters.flatMap fun parameter => parameter.type.models) ++
    operation.responses.flatMap fun response => (response.body.map DataType.models).getD []

def mentioned (api : Api) : List String :=
  api.models.flatMap Model.mentions ++ api.operations.flatMap Operation.mentions

def isUnionOnly (api : Api) (id : Nat) : Bool :=
  match api.models[id]? with
  | some model =>
    api.modelId? model.name == some id && unionsListing api model.name == 1 &&
      !(mentioned api).contains model.name
  | none => false

end OpenApiCodegen.Api
