import OpenApiCodegen.Proofs.Lowering.Builders

namespace OpenApiCodegen.OpenApi.Schema

def propertySchemas (schema : Schema) : List Schema :=
  (schema.properties.getD []).map (·.2)

def valueSchemas (schema : Schema) : List Schema :=
  match schema.additional with
  | some (.schema value) => [value]
  | _ => []

def contents (schema : Schema) : List Schema :=
  schema.propertySchemas ++ schema.valueSchemas

def inlineMembers (schema : Schema) : List Schema :=
  (schema.allOf.getD []).filter fun member => !member.isDescriptionOnly && member.ref.isNone

/-- The keys that the members of a composition refer to. -/
def memberKeys (schema : Schema) : List String :=
  (schema.allOf.getD []).filterMap fun member => member.ref.map componentName

def contentsAs (schema : Schema) : SchemaKind → List Schema
  | .composition => schema.inlineMembers.flatMap contents ++ schema.contents
  | .record | .typeAlias => schema.contents
  | .union => schema.propertySchemas
  | _ => []

theorem ref_of_isDescriptionOnly {schema : Schema} (only : schema.isDescriptionOnly) :
    schema.ref = none := by
  simp only [isDescriptionOnly, Bool.and_eq_true, Option.isNone_iff_eq_none] at only
  tauto

end OpenApiCodegen.OpenApi.Schema

namespace OpenApiCodegen.Lowering

open Api
open OpenApi (Schema SchemaKind componentName)

inductive Passage where
  | reference (key : String)
  | member
  | items
  | values

namespace Passage

def wrap : Passage → DataType → DataType
  | items, type => .array type
  | values, type => .map type
  | _, type => type

def owner (owner : String) : Passage → String
  | reference key => typeName key
  | _ => owner

def hint (hint : String) : Passage → String
  | reference _ => ""
  | member => hint
  | items => hint ++ "Item"
  | values => "Value"

def origin (origin : Origin) : Passage → Origin
  | member => origin
  | _ => .inlineObject

/-- The values of a map start anew, everything else is nested deeper. -/
def depth (depth : Nat) : Passage → Nat
  | values => 0
  | _ => depth + 1

@[simp] theorem models_wrap (passage : Passage) (type : DataType) :
    (passage.wrap type).models = type.models := by
  cases passage <;> rfl

end Passage

inductive Plan where
  | settled (type : DataType)
  | onward (passage : Passage) (next : Schema)
  | make (kind : SchemaKind)

def planObject (schema : Schema) : Plan :=
  if (schema.properties.getD []).isEmpty then
    match schema.additional with
    | some (.schema value) => .onward .values value
    | some (.allowed true) => .settled (.map .any)
    | _ => .settled .any
  else .make .record

def planWritten (schema : Schema) : Plan :=
  match schema.kind with
  | .composition => .make .composition
  | .union => .make .union
  | .unsupported _ => .settled .any
  | _ =>
    match schema.soleMember? with
    | some member => .onward .member member
    | none =>
      if schema.hasAlternatives then .settled .any
      else
        match schema.primaryType with
        | some "array" =>
          match schema.items with
          | some items => .onward .items items
          | none => .settled (.array .any)
        | some "object" | none => planObject schema
        | some name => .settled (scalarType name schema.format)

theorem models_of_scalarType (name : String) (format : Option String) :
    (scalarType name format).models = [] := by
  unfold scalarType
  split <;> rfl

theorem models_of_planWritten {schema : Schema} {type : DataType}
    (planned : planWritten schema = .settled type) : type.models = [] := by
  unfold planWritten planObject at planned
  grind [DataType.models, models_of_scalarType]

def plan (components : List (String × Schema)) (schema : Schema) (depth : Nat) : Plan :=
  if maxDepth < depth then .settled .any
  else
    match schema.ref with
    | some ref =>
      match components.lookup (componentName ref) with
      | none => .settled .any
      | some target =>
        if target.kind = .typeAlias then .onward (.reference (componentName ref)) target
        else .settled (.model (typeName (componentName ref)))
    | none => planWritten schema

theorem plan_reference (components : List (String × Schema)) {schema : Schema} {ref : String}
    {depth : Nat} (written : schema.ref = some ref) (shallow : depth ≤ maxDepth) :
    plan components schema depth =
      match components.lookup (componentName ref) with
      | none => .settled .any
      | some target =>
        if target.kind = .typeAlias then .onward (.reference (componentName ref)) target
        else .settled (.model (typeName (componentName ref))) := by
  rw [plan, if_neg (by omega), written]

/-- The model of a schema, taken as one of some kind. -/
def buildOf (n : Nat) (scope : Scope) (kind : SchemaKind) (name : String) (schema : Schema)
    (origin : Origin) (depth : Nat) : Build Model :=
  match kind with
  | .enumeration => pure (enumModel name schema)
  | .union => unionModel scope.components (typeOf n scope) name schema origin
  | .composition => compositionModel n scope name schema origin depth
  | .record | .typeAlias => recordModel scope.components (typeOf n scope) name schema origin
  | .unsupported reason => pure (newModel name schema (.unsupported reason) origin)

def modelOf (n : Nat) (scope : Scope) (kind : SchemaKind) (name : String) (schema : Schema)
    (origin : Origin) (depth : Nat) : Lower Model :=
  match kind with
  | .enumeration => pure (enumModel name schema)
  | .union => (unionModel scope.components (typeOf n scope) name schema origin).work
  | .composition => (compositionModel n scope name schema origin depth).work
  | .record | .typeAlias => (recordModel scope.components (typeOf n scope) name schema origin).work
  | .unsupported reason => pure (newModel name schema (.unsupported reason) origin)

section Kinds

variable {n : Nat} {scope : Scope} {kind : SchemaKind} {name : String} {schema : Schema}
  {origin : Origin} {depth : Nat}

@[simp] theorem work_buildOf :
    (buildOf n scope kind name schema origin depth).work =
      modelOf n scope kind name schema origin depth := by
  cases kind <;> rfl

theorem sound_buildOf : (buildOf n scope kind name schema origin depth).Sound := by
  cases kind with
  | enumeration => exact Build.sound_pure _
  | union => exact sound_unionModel
  | composition => exact (sound_builders n).1 _ _ _ _ _
  | record => exact sound_recordModel
  | typeAlias => exact sound_recordModel
  | unsupported reason => exact Build.sound_pure _

end Kinds

def Plan.carryOut (n : Nat) (scope : Scope) (schema : Schema) (owner hint : String) (origin : Origin)
    (depth : Nat) : Plan → Lower DataType
  | settled type => pure type
  | onward passage next =>
    passage.wrap <$> typeOf n scope next (passage.owner owner) (passage.hint hint)
      (passage.origin origin) (passage.depth depth)
  | make kind => do
    let name ← inlineName owner hint
    pushSynthesized name (buildOf n scope kind name schema origin (depth + 1))

theorem Plan.carryOut_make {n : Nat} {scope : Scope} {kind : SchemaKind} {schema : Schema}
    {owner hint : String} {origin : Origin} {depth : Nat} :
    (Plan.make kind).carryOut n scope schema owner hint origin depth = (do
      let name ← inlineName owner hint
      pushModel (← modelOf n scope kind name schema origin (depth + 1))
      pure (.model name)) := by
  simp [carryOut, sound_buildOf.pushSynthesized_eq]

theorem Plan.carryOut_make_run {n : Nat} {scope : Scope} {kind : SchemaKind} {schema : Schema}
    {owner hint : String} {origin : Origin} {depth : Nat} {draft draft' : Draft} {type : DataType}
    (run : (Plan.make kind).carryOut n scope schema owner hint origin depth draft =
      some (type, draft')) :
    ∃ name model middle, name = freshName draft.taken (owner ++ Text.pascalCase hint) ∧
      modelOf n scope kind name schema origin (depth + 1) (draft.reserve name) = some (model, middle) ∧
        type = .model name ∧ middle.push model = draft' := by
  simp only [carryOut_make, Lower.bind_eq_some, inlineName_eq_some, pushModel_eq_some,
    Lower.pure_eq_some] at run
  obtain ⟨name, _, ⟨fresh, rfl⟩, model, middle, made, ⟨⟩, _, rfl, rfl, rfl⟩ := run
  exact ⟨name, model, middle, fresh, made, rfl, rfl⟩

theorem planObject_carryOut {n : Nat} {scope : Scope} {schema : Schema} {owner hint : String}
    {origin : Origin} {depth : Nat} :
    (planObject schema).carryOut n scope schema owner hint origin depth =
      (if (schema.properties.getD []).isEmpty then do
        match ← additionalType (typeOf n scope) owner schema with
        | some value => pure (.map value)
        | none => pure .any
      else do
        let name ← inlineName owner hint
        pushSynthesized name (recordModel scope.components (typeOf n scope) name schema origin)) := by
  unfold planObject additionalType
  split
  · rcases schema.additional with _ | (yes | value)
    · rfl
    · cases yes <;> rfl
    · simp only [bind_map_left, bind_pure_comp]
      rfl
  · rfl

theorem typeOf_succ {n : Nat} {scope : Scope} {schema : Schema} {owner hint : String}
    {origin : Origin} {depth : Nat} :
    typeOf (n + 1) scope schema owner hint origin depth =
      (plan scope.components schema depth).carryOut n scope schema owner hint origin depth := by
  rw [typeOf]
  dsimp only
  unfold plan
  split
  · rfl
  · cases schema.ref with
    | some ref =>
      dsimp only
      cases scope.components.lookup (componentName ref) with
      | none => rfl
      | some target =>
        dsimp only
        split
        · exact (id_map _).symm
        · rfl
    | none =>
      dsimp only
      unfold planWritten
      cases schema.kind with
      | composition => rfl
      | union => rfl
      | unsupported reason => rfl
      | _ =>
        dsimp only
        cases schema.soleMember? with
        | some member => exact (id_map _).symm
        | none =>
          dsimp only
          split
          · rfl
          · generalize schema.primaryType = named
            split
            · cases schema.items <;> rfl
            · exact planObject_carryOut.symm
            · exact planObject_carryOut.symm
            · simp_all [Plan.carryOut]

@[simp] theorem Scope.components_entering (scope : Scope) (key : String) :
    (scope.entering key).components = scope.components :=
  rfl

theorem lowerComponent_succ {n : Nat} {scope : Scope} {key : String} {schema : Schema} {depth : Nat} :
    (lowerComponent (n + 1) scope key schema depth).work = (do
      if isLowered (← get) (typeName key) || scope.active.contains key then pure ()
      else if schema.kind = .typeAlias then pure ()
      else
        pushModel
          (← modelOf n (scope.entering key) schema.kind (typeName key) schema .component depth)) := by
  rw [lowerComponent, Build.work_bind, Build.work_get]
  congr 1
  funext draft
  split
  · rfl
  · cases schema.kind <;> simp [modelOf]

theorem memberProperties_succ {n : Nat} {scope : Scope} {key : String} {depth : Nat} :
    (memberProperties (n + 1) scope key depth).work = (do
      if maxDepth < depth then pure none
      else
        match scope.components.lookup key with
        | none => pure none
        | some target =>
          if target.kind = .typeAlias then
            match aliasTarget? target with
            | some inner => (memberProperties n scope inner (depth + 1)).work
            | none => pure none
          else do
            (lowerComponent n scope key target (depth + 1)).work
            let model? := (← get).model? (typeName key)
            pure (some (typeName key, (model?.map (·.properties)).getD []))) := by
  rw [memberProperties]
  split
  · rfl
  · cases scope.components.lookup key with
    | none => rfl
    | some target =>
      dsimp only
      split
      · cases aliasTarget? target <;> rfl
      · simp

inductive Contribution where
  | text (description : Option String)
  | nothing
  | part (member : String) (properties : List Property)

def Merge.take (merge : Merge) : Contribution → Merge
  | .text description => merge.describe description
  | .nothing => merge
  | .part member properties => merge.add member properties

def contribution (n : Nat) (scope : Scope) (name : String) (depth : Nat) (member : Schema) :
    Lower Contribution :=
  if member.isDescriptionOnly then pure (.text member.description)
  else
    match member.ref with
    | some ref => do
      match ← (memberProperties n scope (componentName ref) depth).work with
      | some (member, properties) => pure (.part member properties)
      | none => pure .nothing
    | none => do
      let memberName ← inlineName name "AllOf"
      let model ← (recordModel scope.components (typeOf n scope) memberName member .composition).work
      pushModel model
      pure (.part memberName model.properties)

def mergeOf (n : Nat) (scope : Scope) (name : String) (depth : Nat) (schema : Schema) : Lower Merge :=
  (fun contributions => contributions.foldl Merge.take ⟨schema.description, [], []⟩) <$>
    (schema.allOf.getD []).mapM (contribution n scope name depth)

theorem compositionModel_succ {n : Nat} {scope : Scope} {name : String} {schema : Schema}
    {origin : Origin} {depth : Nat} :
    (compositionModel (n + 1) scope name schema origin depth).work = (do
      let merge ← mergeOf n scope name depth schema
      let own ← (lowerProperties scope.components (typeOf n scope) name schema).work
      let additional ← additionalType (typeOf n scope) name schema
      pure
        { newModel name schema .record origin with
          description := merge.description
          properties := dropPlaceholders (requireNames (schema.required.getD [])
            (putProperties merge.properties own))
          members := merge.members
          additional }) := by
  rw [compositionModel, mergeOf, ← foldlM_eq_mapM]
  simp only [Build.work_bind, Build.work_foldlM, Build.work_liftM, Build.work_pure]
  congr 2
  funext merge member
  unfold contribution
  split
  · rfl
  · cases member.ref with
    | none => simp [Merge.take]
    | some ref =>
      simp only [Build.work_bind, map_bind]
      congr 1
      funext found
      cases found <;> simp [Merge.take]

end OpenApiCodegen.Lowering
