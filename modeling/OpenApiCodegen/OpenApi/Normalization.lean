import OpenApiCodegen.List.Total
import OpenApiCodegen.OpenApi.Document
import OpenApiCodegen.Text.Words

namespace OpenApiCodegen.OpenApi

def exactlyTwo? {α : Type} : Option (List α) → Option (α × α)
  | some [a, b] => some (a, b)
  | _ => none

def Schema.pair? (schema : Schema) : Option (Schema × Schema) :=
  (exactlyTwo? schema.allOf).or ((exactlyTwo? schema.oneOf).or (exactlyTwo? schema.anyOf))

def describedPair? (first second : Schema) : Option (Schema × Schema) :=
  if first.isDescriptionOnly then
    if second.isDescriptionOnly then none else some (first, second)
  else if second.isDescriptionOnly then some (second, first)
  else none

/-- The one member that a described composition stands for. What the composition itself declares
comes before what the member does, but for the description. -/
def Schema.merged? (schema : Schema) : Option Schema := do
  let (first, second) ← schema.pair?
  let (describing, described) ← describedPair? first second
  some
    { described with
      description := describing.description.or schema.description
      nullable := schema.nullable.or described.nullable
      defaultValue := schema.defaultValue.or described.defaultValue
      deprecated := schema.deprecated.or described.deprecated
      placeholder := schema.placeholder.or described.placeholder }

def mapValues {α β : Type} (f : α → β) (table : List (String × α)) : List (String × β) :=
  table.map fun (key, value) => (key, f value)

def Schema.mergeProperties (schema : Schema) : Schema :=
  { schema with
    properties := schema.properties.map (mapValues fun property => property.merged?.getD property) }

def Schema.countMerged (schema : Schema) : Nat :=
  (schema.properties.getD []).countP fun (_, property) => property.merged?.isSome

def Document.mergeDescriptions (doc : Document) : Document × Nat :=
  ({ doc with schemas := doc.schemas.map (mapValues Schema.mergeProperties) },
    total (fun (_, schema) => schema.countMerged) doc.components)

structure EnumDefinition where
  typeNames : Option TypeNames
  format : Option String
  literals : List EnumLiteral

def EnumDefinition.same (a b : EnumDefinition) : Bool :=
  a.typeNames == b.typeNames && a.format == b.format && sameLiterals a.literals b.literals

def EnumDefinition.schema (definition : EnumDefinition) : Schema :=
  { typeNames := definition.typeNames
    format := definition.format
    enumeration := some definition.literals }

def Schema.enumDefinition? (schema : Schema) : Option EnumDefinition :=
  schema.enumeration.map fun literals => ⟨schema.typeNames, schema.format, literals⟩

def Schema.inlineEnum? (schema : Schema) : Option EnumDefinition :=
  if schema.ref.isNone then schema.enumDefinition? else none

abbrev Extracted := List (String × EnumDefinition)

/-- What a name stands for already: a component, which need not be an enumeration, or an
enumeration taken out before. -/
def claimed? (components : List (String × Schema)) (extracted : Extracted) (name : String) :
    Option (Option EnumDefinition) :=
  match components.lookup name with
  | some schema => some schema.enumDefinition?
  | none => (extracted.lookup name).map some

def Schema.referTo (schema : Schema) (name : String) : Schema :=
  { ref := some (componentPath ++ name)
    description := schema.description
    defaultValue := schema.defaultValue
    nullable := schema.nullable
    deprecated := schema.deprecated }

/-- Takes one enumeration out of its place. It stays if its name stands for something else. -/
def extractEnum (components : List (String × Schema)) (name : String) (definition : EnumDefinition)
    (place : Schema) (extracted : Extracted) : Schema × Extracted :=
  match claimed? components extracted name with
  | some claim =>
    if claim.any (·.same definition) then (place.referTo name, extracted) else (place, extracted)
  | none => (place.referTo name, extracted ++ [(name, definition)])

def extractFromProperty (components : List (String × Schema)) (owner : String)
    (property : String × Schema) (extracted : Extracted) : (String × Schema) × Extracted :=
  let (key, schema) := property
  let name := owner ++ Text.pascalCase key
  match schema.inlineEnum? with
  | some definition =>
    let (schema, extracted) := extractEnum components name definition schema extracted
    ((key, schema), extracted)
  | none =>
    match schema.items with
    | none => (property, extracted)
    | some items =>
      match items.inlineEnum? with
      | none => (property, extracted)
      | some definition =>
        let (items, extracted) := extractEnum components name definition items extracted
        ((key, { schema with items := some items }), extracted)

def mapWithState {α σ : Type} (f : α → σ → α × σ) : List α → σ → List α × σ
  | [], state => ([], state)
  | a :: rest, state =>
    let (a, state) := f a state
    let (rest, state) := mapWithState f rest state
    (a :: rest, state)

def extractFromComponent (components : List (String × Schema)) (component : String × Schema)
    (extracted : Extracted) : (String × Schema) × Extracted :=
  let (name, schema) := component
  match schema.properties with
  | none => (component, extracted)
  | some properties =>
    let (properties, extracted) :=
      mapWithState (extractFromProperty components name) properties extracted
    ((name, { schema with properties := some properties }), extracted)

/-- Makes components of the enumerations inside the properties of components, and names them. The
component is called after its owner and the property. -/
def Document.extractEnums (doc : Document) : Document × List String :=
  match doc.schemas with
  | none => (doc, [])
  | some schemas =>
    let (schemas, extracted) := mapWithState (extractFromComponent schemas) schemas []
    let added := mapValues EnumDefinition.schema extracted
    ({ doc with schemas := some (schemas ++ added) }, extracted.map (·.1))

def Operation.withoutTags (op : Operation) : Operation :=
  { op with tags := [] }

def Document.stripTags (doc : Document) : Document × Nat :=
  ({ doc with
      tags := []
      paths := mapValues (PathItem.mapOperations Operation.withoutTags) doc.paths },
    doc.tags.length + total (fun (_, _, _, op) => op.tags.length) doc.operations)

structure NormalizationSummary where
  merged : Nat
  enums : List String
  tags : Nat

def Document.normalize (doc : Document) : Document × NormalizationSummary :=
  let (doc, merged) := doc.mergeDescriptions
  let (doc, enums) := doc.extractEnums
  let (doc, tags) := doc.stripTags
  (doc, ⟨merged, enums, tags⟩)

structure NormalDocument where
  document : Document
  isNormal : ∃ doc : Document, document = doc.normalize.1

def NormalDocument.of (doc : Document) : NormalDocument :=
  ⟨doc.normalize.1, doc, rfl⟩

end OpenApiCodegen.OpenApi
