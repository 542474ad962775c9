import OpenApiCodegen.Proofs.Lowering.Plan

namespace OpenApiCodegen.Lowering

open Api
open OpenApi (Schema SchemaKind componentName)

variable {components : List (String × Schema)} {reader : TypeReader} {owner name : String}
  {schema : Schema} {origin : Origin} {draft draft' : Draft} {R : Draft → Draft → Prop}

def propertyOf (components : List (String × Schema)) (required : List String)
    (entry : String × Schema) (type : DataType) : Property :=
  { name := identifier entry.1
    wireName := entry.1
    type
    required := required.contains entry.1
    nullable := admitsNull components entry.2
    defaultValue := entry.2.defaultValue
    description := entry.2.description
    deprecated := entry.2.deprecated.getD false
    placeholder := entry.2.placeholder }

theorem lowerProperty_eq_some {required : List String} {entry : String × Schema}
    {property : Property} :
    lowerProperty components reader owner required entry draft = some (property, draft') ↔
      ∃ type, reader entry.2 owner entry.1 .inlineObject 0 draft = some (type, draft') ∧
        propertyOf components required entry type = property := by
  simp only [lowerProperty, Lower.bind_eq_some, Lower.pure_eq_some]
  constructor
  · rintro ⟨type, middle, run, rfl, rfl⟩
    exact ⟨type, run, rfl⟩
  · rintro ⟨type, run, rfl⟩
    exact ⟨type, draft', run, rfl, rfl⟩

def TypesKeep (R : Draft → Draft → Prop) (reader : TypeReader) (parts : List Schema) : Prop :=
  ∀ part ∈ parts, ∀ owner hint draft type draft',
    reader part owner hint .inlineObject 0 draft = some (type, draft') → R draft draft'

theorem TypesKeep.mono {parts parts' : List Schema} (keep : TypesKeep R reader parts)
    (subset : parts' ⊆ parts) : TypesKeep R reader parts' :=
  fun part mem => keep part (subset mem)

def TypedBetween (R : Draft → Draft → Prop) (components : List (String × Schema))
    (reader : TypeReader) (owner : String) (required : List String) (draft draft' : Draft)
    (entry : String × Schema) (property : Property) : Prop :=
  ∃ before type after, R draft before ∧
    reader entry.2 owner entry.1 .inlineObject 0 before = some (type, after) ∧ R after draft' ∧
      propertyOf components required entry type = property

theorem lowerProperties_run (composes : Composes R) {properties : List Property}
    (keep : TypesKeep R reader schema.propertySchemas)
    (run : (lowerProperties components reader owner schema).work draft = some (properties, draft')) :
    R draft draft' ∧ List.Forall₂
      (TypedBetween R components reader owner (schema.required.getD []) draft draft')
      (schema.properties.getD []) properties := by
  have each : ∀ entry ∈ schema.properties.getD [], ∀ draft property draft',
      lowerProperty components reader owner (schema.required.getD []) entry draft =
        some (property, draft') → R draft draft' := by
    intro entry mem draft property draft' run
    obtain ⟨type, typed, -⟩ := lowerProperty_eq_some.1 run
    exact keep entry.2 (List.mem_map_of_mem mem) _ _ _ _ _ typed
  obtain ⟨whole, parts⟩ := mapM_run composes each (work_lowerProperties ▸ run)
  refine ⟨whole, parts.imp ?_⟩
  rintro entry property ⟨before, after, start, run, finish⟩
  obtain ⟨type, typed, same⟩ := lowerProperty_eq_some.1 run
  exact ⟨before, type, after, start, typed, finish, same⟩

theorem wireNames_of_typed {required : List String} {entries : List (String × Schema)}
    {properties : List Property}
    (typed : List.Forall₂ (TypedBetween R components reader owner required draft draft') entries
      properties) :
    properties.map (·.wireName) = entries.map (·.1) := by
  induction typed with
  | nil => rfl
  | cons head _ ih =>
    obtain ⟨_, _, _, _, _, _, rfl⟩ := head
    simp [propertyOf, ih]

theorem additionalType_run {additional : Option DataType}
    (run : additionalType reader owner schema draft = some (additional, draft')) :
    (∃ value ∈ schema.valueSchemas, ∃ type,
      reader value owner "Value" .inlineObject 0 draft = some (type, draft') ∧
        additional = some type) ∨
      draft = draft' ∧ ∀ type ∈ additional, type = .any := by
  rcases written : schema.additional with _ | (yes | value) <;>
    simp only [additionalType, written] at run
  · obtain ⟨rfl, rfl⟩ := Lower.pure_eq_some.1 run
    exact .inr ⟨rfl, by simp⟩
  · cases yes <;> obtain ⟨rfl, rfl⟩ := Lower.pure_eq_some.1 run <;> exact .inr ⟨rfl, by simp⟩
  · obtain ⟨type, typed, rfl⟩ := Lower.map_eq_some.1 run
    exact .inl ⟨value, by simp [Schema.valueSchemas, written], type, typed, rfl⟩

theorem additionalType_keeps (composes : Composes R) {additional : Option DataType}
    (keep : TypesKeep R reader schema.valueSchemas)
    (run : additionalType reader owner schema draft = some (additional, draft')) : R draft draft' := by
  rcases additionalType_run run with ⟨value, mem, type, typed, -⟩ | ⟨rfl, -⟩
  · exact keep value mem _ _ _ _ _ typed
  · exact composes.refl draft

theorem recordModel_eq_some {model : Model} :
    (recordModel components reader name schema origin).work draft = some (model, draft') ↔
      ∃ properties middle additional,
        (lowerProperties components reader name schema).work draft = some (properties, middle) ∧
          additionalType reader name schema middle = some (additional, draft') ∧
            { newModel name schema .record origin with properties, additional } = model := by
  simp only [work_recordModel, Lower.bind_eq_some, Lower.pure_eq_some]
  constructor
  · rintro ⟨properties, middle, first, additional, last, second, rfl, rfl⟩
    exact ⟨properties, middle, additional, first, second, rfl⟩
  · rintro ⟨properties, middle, additional, first, second, rfl⟩
    exact ⟨properties, middle, first, additional, draft', second, rfl, rfl⟩

theorem recordModel_keeps (composes : Composes R) {model : Model}
    (keep : TypesKeep R reader schema.contents)
    (run : (recordModel components reader name schema origin).work draft = some (model, draft')) :
    R draft draft' := by
  obtain ⟨properties, middle, additional, first, second, -⟩ := recordModel_eq_some.1 run
  have own := (lowerProperties_run composes (keep.mono (List.subset_append_left _ _)) first).1
  exact composes.trans own
    (additionalType_keeps composes (keep.mono (List.subset_append_right _ _)) second)

theorem unionModel_eq_some {model : Model} :
    (unionModel components reader name schema origin).work draft = some (model, draft') ↔
      ∃ properties, (lowerProperties components reader name schema).work draft = some (properties, draft') ∧
        { newModel name schema
            (.union ⟨(schema.discriminator.map (·.property)).getD "", variantMapping schema⟩) origin with
          properties, members := variantNames schema } = model := by
  simp only [work_unionModel, Lower.bind_eq_some, Lower.pure_eq_some]
  constructor
  · rintro ⟨properties, middle, run, rfl, rfl⟩
    exact ⟨properties, run, rfl⟩
  · rintro ⟨properties, run, rfl⟩
    exact ⟨properties, draft', run, rfl, rfl⟩

/-- The model of a composition whose members and own contents are known. -/
def composed (name : String) (schema : Schema) (origin : Origin) (merge : Merge)
    (own : List Property) (additional : Option DataType) : Model :=
  { newModel name schema .record origin with
    description := merge.description
    properties := dropPlaceholders (requireNames (schema.required.getD [])
      (putProperties merge.properties own))
    members := merge.members
    additional }

theorem compositionModel_eq_some {n : Nat} {scope : Scope} {depth : Nat} {model : Model} :
    (compositionModel (n + 1) scope name schema origin depth).work draft = some (model, draft') ↔
      ∃ contributions first own second additional,
        (schema.allOf.getD []).mapM (contribution n scope name depth) draft =
            some (contributions, first) ∧
          (lowerProperties scope.components (typeOf n scope) name schema).work first = some (own, second) ∧
            additionalType (typeOf n scope) name schema second = some (additional, draft') ∧
              composed name schema origin
                (contributions.foldl Merge.take ⟨schema.description, [], []⟩) own additional =
                  model := by
  simp only [compositionModel_succ, mergeOf, Lower.bind_eq_some, Lower.map_eq_some,
    Lower.pure_eq_some]
  constructor
  · rintro ⟨_, first, ⟨contributions, gathered, rfl⟩, own, second, owned, additional, last, added,
      rfl, rfl⟩
    exact ⟨contributions, first, own, second, additional, gathered, owned, added, rfl⟩
  · rintro ⟨contributions, first, own, second, additional, gathered, owned, added, rfl⟩
    exact ⟨_, first, ⟨contributions, gathered, rfl⟩, own, second, owned, additional, draft', added,
      rfl, rfl⟩

theorem memberProperties_run {n : Nat} {scope : Scope} {key : String} {depth : Nat}
    {found : Option (String × List Property)}
    (run : (memberProperties (n + 1) scope key depth).work draft = some (found, draft')) :
    found = none ∧ draft = draft' ∧ (depth ≤ maxDepth → ∀ target ∈ scope.components.lookup key,
        target.kind = .typeAlias ∧ aliasTarget? target = none) ∨
      (∃ target ∈ scope.components.lookup key, depth ≤ maxDepth ∧ target.kind = .typeAlias ∧
        ∃ inner ∈ aliasTarget? target,
          (memberProperties n scope inner (depth + 1)).work draft = some (found, draft')) ∨
      ∃ target ∈ scope.components.lookup key, depth ≤ maxDepth ∧ target.kind ≠ .typeAlias ∧
        (lowerComponent n scope key target (depth + 1)).work draft = some ((), draft') ∧
          found = some (typeName key,
            ((draft'.model? (typeName key)).map (·.properties)).getD []) := by
  rw [memberProperties_succ] at run
  by_cases deep : maxDepth < depth
  · rw [if_pos deep] at run
    obtain ⟨rfl, rfl⟩ := Lower.pure_eq_some.1 run
    exact .inl ⟨rfl, rfl, fun shallow => absurd shallow (by omega)⟩
  rw [if_neg deep] at run
  cases looked : scope.components.lookup key with
  | none =>
    rw [looked] at run
    obtain ⟨rfl, rfl⟩ := Lower.pure_eq_some.1 run
    exact .inl ⟨rfl, rfl, by simp⟩
  | some target =>
    rw [looked] at run
    dsimp only at run
    by_cases kind : target.kind = .typeAlias
    · rw [if_pos kind] at run
      cases hop : aliasTarget? target with
      | none =>
        rw [hop] at run
        obtain ⟨rfl, rfl⟩ := Lower.pure_eq_some.1 run
        exact .inl ⟨rfl, rfl, by simp [kind, hop]⟩
      | some inner =>
        rw [hop] at run
        exact .inr (.inl ⟨target, rfl, by omega, kind, inner, hop, run⟩)
    · rw [if_neg kind] at run
      simp only [Lower.bind_eq_some, Lower.get_eq_some, Lower.pure_eq_some] at run
      obtain ⟨⟨⟩, middle, lowered, seen, last, ⟨rfl, rfl⟩, rfl, rfl⟩ := run
      exact .inr (.inr ⟨target, rfl, by omega, kind, lowered, rfl⟩)

theorem lowerComponent_run {n : Nat} {scope : Scope} {key : String} {depth : Nat}
    (run : (lowerComponent (n + 1) scope key schema depth).work draft = some ((), draft')) :
    (isLowered draft (typeName key) = true ∨ key ∈ scope.active ∨ schema.kind = .typeAlias) ∧
        draft = draft' ∨
      isLowered draft (typeName key) = false ∧ key ∉ scope.active ∧ schema.kind ≠ .typeAlias ∧
        ∃ model middle, modelOf n (scope.entering key) schema.kind (typeName key) schema .component
            depth draft = some (model, middle) ∧
          middle.push model = draft' := by
  simp only [lowerComponent_succ, Lower.bind_eq_some, Lower.get_eq_some] at run
  obtain ⟨seen, _, ⟨rfl, rfl⟩, run⟩ := run
  by_cases guarded : isLowered draft (typeName key) || scope.active.contains key
  · rw [if_pos guarded] at run
    obtain ⟨-, rfl⟩ := Lower.pure_eq_some.1 run
    simp only [Bool.or_eq_true, List.contains_iff_mem] at guarded
    exact .inl ⟨guarded.elim .inl fun mem => .inr (.inl mem), rfl⟩
  · rw [if_neg guarded] at run
    simp only [Bool.or_eq_true, List.contains_iff_mem, not_or] at guarded
    by_cases kind : schema.kind = .typeAlias
    · rw [if_pos kind] at run
      obtain ⟨-, rfl⟩ := Lower.pure_eq_some.1 run
      exact .inl ⟨.inr (.inr kind), rfl⟩
    · rw [if_neg kind] at run
      simp only [Lower.bind_eq_some, pushModel_eq_some] at run
      obtain ⟨model, middle, made, same⟩ := run
      exact .inr ⟨by simpa using guarded.1, guarded.2, kind, model, middle, made, same⟩

theorem name_of_modelOf {n : Nat} {scope : Scope} {kind : SchemaKind} {depth : Nat} {model : Model}
    (run : modelOf n scope kind name schema origin depth draft = some (model, draft')) :
    model.name = name := by
  cases kind with
  | enumeration =>
    obtain ⟨rfl, -⟩ := Lower.pure_eq_some.1 run
    rfl
  | union =>
    obtain ⟨_, -, rfl⟩ := unionModel_eq_some.1 run
    rfl
  | composition =>
    cases n with
    | zero => cases run
    | succ n =>
      obtain ⟨_, _, _, _, _, -, -, -, rfl⟩ := compositionModel_eq_some.1 run
      rfl
  | record =>
    obtain ⟨_, _, _, -, -, rfl⟩ := recordModel_eq_some.1 run
    rfl
  | typeAlias =>
    obtain ⟨_, _, _, -, -, rfl⟩ := recordModel_eq_some.1 run
    rfl
  | unsupported reason =>
    obtain ⟨rfl, -⟩ := Lower.pure_eq_some.1 run
    rfl

end OpenApiCodegen.Lowering
