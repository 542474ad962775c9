import OpenApiCodegen.OpenApi.Schema

namespace OpenApiCodegen.OpenApi

/-- A `typeAlias` is no model; a place that refers to it takes the type that it stands for. -/
inductive SchemaKind where
  | enumeration
  | union
  | composition
  | record
  | typeAlias
  | unsupported (reason : String)
  deriving DecidableEq

namespace Schema

def namedAlternatives (schema : Schema) : List (String × String) :=
  Json.collectMembers
    (schema.unionMembers.filterMap fun member =>
      member.ref.map fun ref => (componentName ref, ref))

/-- The references that the values of the discriminator stand for: as declared, or else by the name
of the component. Absent when there is nothing to tell apart. -/
def discriminatorTargets? (schema : Schema) : Option (List (String × String)) := do
  let discriminator ← schema.discriminator
  match discriminator.mapping.getD [] with
  | [] => if schema.namedAlternatives.isEmpty then none else some schema.namedAlternatives
  | mapping => some mapping

def substantialMembers (schema : Schema) : List Schema :=
  (schema.allOf.getD []).filter (!·.isDescriptionOnly)

def hasAlternatives (schema : Schema) : Bool :=
  schema.anyOf.isSome || schema.oneOf.isSome

def undiscriminated (count : Nat) : String :=
  s!"union of {count} members without a discriminator"

def kind (schema : Schema) : SchemaKind :=
  if schema.enumeration.isSome then .enumeration
  else if schema.discriminatorTargets?.isSome then .union
  else if !(schema.allOf.getD []).isEmpty then
    if schema.substantialMembers.length ≤ 1 && schema.properties.isNone then .typeAlias
    else .composition
  else if schema.hasAlternatives && 1 < schema.unionMembers.length then
    .unsupported (undiscriminated schema.unionMembers.length)
  else if schema.hasAlternatives && schema.properties.isNone then .typeAlias
  else if schema.properties.isSome then .record
  else if schema.ref.isSome || schema.additional.isSome then .typeAlias
  else if schema.primaryType = some "object" then .record
  else .typeAlias

def soleMember? (schema : Schema) : Option Schema :=
  schema.substantialMembers.head?.or schema.unionMembers.head?

end Schema

mutual

def Schema.weight : Schema → Nat
  | ⟨_, _, _, _, properties, _, items, _, anyOf, oneOf, allOf, additional, _, _, _, _, _, _⟩ =>
    1 + tableWeight properties + itemWeight items + membersWeight anyOf + membersWeight oneOf +
      membersWeight allOf + additionalWeight additional

def tableWeight : Option (List (String × Schema)) → Nat
  | none => 0
  | some entries => entriesWeight entries

def entriesWeight : List (String × Schema) → Nat
  | [] => 0
  | (_, schema) :: rest => schema.weight + entriesWeight rest

def itemWeight : Option Schema → Nat
  | none => 0
  | some schema => schema.weight

def membersWeight : Option (List Schema) → Nat
  | none => 0
  | some members => listWeight members

def listWeight : List Schema → Nat
  | [] => 0
  | schema :: rest => schema.weight + listWeight rest

def additionalWeight : Option (Additional Schema) → Nat
  | some (.schema schema) => schema.weight
  | _ => 0

end

end OpenApiCodegen.OpenApi
