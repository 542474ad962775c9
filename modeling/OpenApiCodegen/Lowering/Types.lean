import OpenApiCodegen.Api.Basic
import OpenApiCodegen.Error
import OpenApiCodegen.List.Firsts
import OpenApiCodegen.Lowering.Names
import OpenApiCodegen.OpenApi.Kind

namespace OpenApiCodegen.Lowering

open Api
open OpenApi (Schema SchemaKind Additional componentName)

def maxDepth : Nat := 32

structure Draft where
  models : List Model
  taken : List String

abbrev Lower := StateT Draft Option

/-- May be at fault. The draft keeps what was added to it before. -/
abbrev Build := ExceptT GenerationError Lower

structure Scope where
  components : List (String × Schema)
  active : List String

def Scope.entering (scope : Scope) (key : String) : Scope :=
  { scope with active := key :: scope.active }

def isLowered (draft : Draft) (name : String) : Bool :=
  draft.models.any (·.name = name)

def Draft.model? (draft : Draft) (name : String) : Option Model :=
  draft.models.find? (·.name = name)

def pushModel (model : Model) : Lower Unit :=
  modify fun draft => ⟨model :: draft.models, model.name :: draft.taken⟩

def inlineName (owner hint : String) : Lower String := do
  let name := freshName (← get).taken (owner ++ Text.pascalCase hint)
  modify fun draft => { draft with taken := name :: draft.taken }
  pure name

def newModel (name : String) (schema : Schema) (shape : Shape) (origin : Origin) : Model :=
  { name
    description := schema.description
    deprecated := schema.deprecated.getD false
    properties := []
    shape
    members := []
    additional := none
    origin }

def literal? : OpenApi.EnumLiteral → Option Literal
  | .text s => some (.text s)
  | .whole n => some (.whole n)
  | .real x => some (.real x)
  | .flag b => some (.flag b)
  | .null => none

def enumBase (schema : Schema) : DataType :=
  match schema.primaryType, schema.format with
  | some "integer", some "int64" => .long
  | some "integer", _ => .integer
  | some "number", _ => .double
  | some "boolean", _ => .boolean
  | _, _ => .text

def enumModel (name : String) (schema : Schema) : Model :=
  let literals := (schema.enumeration.getD []).filterMap literal?
  newModel name schema (.enumeration ⟨enumBase schema, literals⟩) .component

def isNullable (components : List (String × Schema)) : Nat → Schema → Bool
  | room, schema =>
    schema.isNullable ||
      match room with
      | 0 => false
      | room + 1 =>
        match schema.ref.bind fun ref => components.lookup (componentName ref) with
        | some target => target.kind = .typeAlias && isNullable components room target
        | none => false

def admitsNull (components : List (String × Schema)) (schema : Schema) : Bool :=
  isNullable components (maxDepth + 1) schema

def scalarType (name : String) (format : Option String) : DataType :=
  match name, format with
  | "string", some "date" => .date
  | "string", some "date-time" => .dateTime
  | "string", some "binary" => .binary
  | "string", _ => .text
  | "file", _ => .binary
  | "integer", some "int64" => .long
  | "integer", _ => .integer
  | "number", some "float" => .float
  | "number", _ => .double
  | "boolean", _ => .boolean
  | _, _ => .any

/-- Gives the type of a schema. The owner, a hint and the origin are for a model that has to be
made for it; the number says how deep the schema is nested in aliases. -/
abbrev TypeReader := Schema → (owner hint : String) → Origin → (depth : Nat) → Lower DataType

def lowerProperty (components : List (String × Schema)) (typeOf : TypeReader) (owner : String)
    (required : List String) (entry : String × Schema) : Lower Property := do
  let (wireName, schema) := entry
  let type ← typeOf schema owner wireName .inlineObject 0
  pure
    { name := identifier wireName
      wireName
      type
      required := required.contains wireName
      nullable := admitsNull components schema
      defaultValue := schema.defaultValue
      description := schema.description
      deprecated := schema.deprecated.getD false
      placeholder := schema.placeholder }

def lowerProperties (components : List (String × Schema)) (typeOf : TypeReader) (owner : String)
    (schema : Schema) : Build (List Property) :=
  liftM ((schema.properties.getD []).mapM
    (lowerProperty components typeOf owner (schema.required.getD [])))

def additionalType (typeOf : TypeReader) (owner : String) (schema : Schema) :
    Lower (Option DataType) := do
  match schema.additional with
  | some (.schema value) => some <$> typeOf value owner "Value" .inlineObject 0
  | some (.allowed true) => pure (some .any)
  | _ => pure none

def recordModel (components : List (String × Schema)) (typeOf : TypeReader) (name : String)
    (schema : Schema) (origin : Origin) : Build Model := do
  let properties ← lowerProperties components typeOf name schema
  let additional ← additionalType typeOf name schema
  pure { newModel name schema .record origin with properties, additional }

def variantMapping (schema : Schema) : List (String × String) :=
  (schema.discriminatorTargets?.getD []).map fun (value, ref) =>
    (value, typeName (componentName ref))

def variantNames (schema : Schema) : List String :=
  let alternatives := schema.unionMembers.filterMap fun member =>
    member.ref.map fun ref => typeName (componentName ref)
  firsts ((variantMapping schema).map (·.2) ++ alternatives)

def unionModel (components : List (String × Schema)) (typeOf : TypeReader) (name : String)
    (schema : Schema) (origin : Origin) : Build Model := do
  let property := (schema.discriminator.map (·.property)).getD ""
  let shape := Shape.union ⟨property, variantMapping schema⟩
  let properties ← lowerProperties components typeOf name schema
  pure { newModel name schema shape origin with properties, members := variantNames schema }

def putProperty (property : Property) : List Property → List Property
  | [] => [property]
  | first :: rest =>
    if first.wireName = property.wireName then property :: rest
    else first :: putProperty property rest

def putProperties (properties added : List Property) : List Property :=
  added.foldl (fun merged property => putProperty property merged) properties

structure Merge where
  description : Option String
  members : List String
  properties : List Property

def Merge.describe (merge : Merge) (description : Option String) : Merge :=
  { merge with description := merge.description.or description }

def Merge.add (merge : Merge) (member : String) (properties : List Property) : Merge :=
  { merge with
    members := merge.members ++ [member]
    properties := putProperties merge.properties properties }

def requireNames (names : List String) (properties : List Property) : List Property :=
  properties.map fun property =>
    { property with required := property.required || names.contains property.wireName }

def dropPlaceholders (properties : List Property) : List Property :=
  properties.map fun property => { property with placeholder := none }

def aliasTarget? (schema : Schema) : Option String :=
  (schema.ref.or (schema.substantialMembers.head?.bind (·.ref))).map componentName

/-- Keeps a model that is made for a type and answers the type. Any value is admitted when the model
cannot be made. -/
def pushSynthesized (name : String) (build : Build Model) : Lower DataType := do
  match ← build.run with
  | .ok model => do
    pushModel model
    pure (.model name)
  | .error _ => pure .any

mutual

def typeOf : (bound : Nat) → Scope → TypeReader
  | 0, _ => fun _ _ _ _ _ => failure
  | n + 1, scope => fun schema owner hint origin depth => do
    if maxDepth < depth then pure .any
    else
      match schema.ref with
      | some ref =>
        let key := componentName ref
        match scope.components.lookup key with
        | none => pure .any
        | some target =>
          if target.kind = .typeAlias then
            typeOf n scope target (typeName key) "" .inlineObject (depth + 1)
          else pure (.model (typeName key))
      | none =>
        match schema.kind with
        | .composition => do
          let name ← inlineName owner hint
          pushSynthesized name (compositionModel n scope name schema origin (depth + 1))
        | .union => do
          let name ← inlineName owner hint
          pushSynthesized name (unionModel scope.components (typeOf n scope) name schema origin)
        | .unsupported _ => pure .any
        | _ =>
          match schema.soleMember? with
          | some member => typeOf n scope member owner hint origin (depth + 1)
          | none =>
            if schema.hasAlternatives then pure .any
            else
              match schema.primaryType with
              | some "array" =>
                match schema.items with
                | some items =>
                  .array <$> typeOf n scope items owner (hint ++ "Item") .inlineObject (depth + 1)
                | none => pure (.array .any)
              | some "object" | none =>
                if (schema.properties.getD []).isEmpty then
                  match ← additionalType (typeOf n scope) owner schema with
                  | some value => pure (.map value)
                  | none => pure .any
                else do
                  let name ← inlineName owner hint
                  pushSynthesized name
                    (recordModel scope.components (typeOf n scope) name schema origin)
              | some name => pure (scalarType name schema.format)

def compositionModel : (bound : Nat) → Scope → (name : String) → Schema → Origin → (depth : Nat) →
    Build Model
  | 0, _, _, _, _, _ => liftM (failure : Lower Model)
  | n + 1, scope, name, schema, origin, depth => do
    let merge ← (schema.allOf.getD []).foldlM
      (fun merge member => do
        if member.isDescriptionOnly then pure (merge.describe member.description)
        else
          match member.ref with
          | some ref =>
            match ← memberProperties n scope (componentName ref) depth with
            | some (member, properties) => pure (merge.add member properties)
            | none => pure merge
          | none => do
            let memberName ← inlineName name "AllOf"
            let model ←
              recordModel scope.components (typeOf n scope) memberName member .composition
            pushModel model
            pure (merge.add memberName model.properties))
      (⟨schema.description, [], []⟩ : Merge)
    let own ← lowerProperties scope.components (typeOf n scope) name schema
    let properties := putProperties merge.properties own
    let additional ← additionalType (typeOf n scope) name schema
    pure
      { newModel name schema .record origin with
        description := merge.description
        properties := dropPlaceholders (requireNames (schema.required.getD []) properties)
        members := merge.members
        additional }

/-- The model that a composition refers to, which is lowered first if need be, and its properties.
A model that is still being made has none. -/
def memberProperties : (bound : Nat) → Scope → (key : String) → (depth : Nat) →
    Build (Option (String × List Property))
  | 0, _, _, _ => liftM (failure : Lower _)
  | n + 1, scope, key, depth => do
    if maxDepth < depth then pure none
    else
      match scope.components.lookup key with
      | none => pure none
      | some target =>
        if target.kind = .typeAlias then
          match aliasTarget? target with
          | some inner => memberProperties n scope inner (depth + 1)
          | none => pure none
        else do
          lowerComponent n scope key target (depth + 1)
          let model? := (← get).model? (typeName key)
          pure (some (typeName key, (model?.map (·.properties)).getD []))

/-- Makes the model of a component, unless its name is used already or it is being made. -/
def lowerComponent : (bound : Nat) → Scope → (key : String) → Schema → (depth : Nat) → Build Unit
  | 0, _, _, _, _ => liftM (failure : Lower Unit)
  | n + 1, scope, key, schema, depth => do
    let name := typeName key
    if isLowered (← get) name || scope.active.contains key then pure ()
    else
      let inner := scope.entering key
      match schema.kind with
      | .typeAlias => pure ()
      | .enumeration => pushModel (enumModel name schema)
      | .union => do
        pushModel (← unionModel scope.components (typeOf n inner) name schema .component)
      | .composition => do
        pushModel (← compositionModel n inner name schema .component depth)
      | .record => do
        pushModel (← recordModel scope.components (typeOf n inner) name schema .component)
      | .unsupported reason => pushModel (newModel name schema (.unsupported reason) .component)

end

def lowerComponents (bound : Nat) (scope : Scope) : Build Unit :=
  scope.components.forM fun (key, schema) => lowerComponent bound scope key schema 0

end OpenApiCodegen.Lowering
