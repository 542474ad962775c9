import Mathlib.Logic.Relation
import OpenApiCodegen.Proofs.List.Firsts
import OpenApiCodegen.Proofs.Lowering.DocumentRuns

namespace OpenApiCodegen

namespace Lowering

open Api
open OpenApi (Schema SchemaKind Document NormalDocument componentName)

section WireNames

def wireNames (properties : List Property) : List String :=
  properties.map (·.wireName)

@[simp] theorem wireNames_cons (property : Property) (rest : List Property) :
    wireNames (property :: rest) = property.wireName :: wireNames rest :=
  rfl

theorem wireNames_putProperties {properties : List Property} {names : List String}
    (start : wireNames properties = firsts names) (added : List Property) :
    wireNames (putProperties properties added) = firsts (names ++ wireNames added) := by
  rw [putProperties_eq]
  exact keys_placeAll start added

def Contribution.names : Contribution → List String
  | part _ properties => wireNames properties
  | _ => []

theorem wireNames_foldl_take {merge : Merge} {names : List String}
    (start : wireNames merge.properties = firsts names) (contributions : List Contribution) :
    wireNames (contributions.foldl Merge.take merge).properties =
      firsts (names ++ contributions.flatMap Contribution.names) := by
  induction contributions generalizing merge names with
  | nil => simpa using start
  | cons contribution rest ih =>
    rw [List.foldl_cons, List.flatMap_cons, ← List.append_assoc]
    refine ih ?_
    cases contribution with
    | text description => simpa [Merge.take, Merge.describe, Contribution.names] using start
    | nothing => simpa [Merge.take, Contribution.names] using start
    | part member properties => exact wireNames_putProperties start properties

theorem wireNames_composed {name : String} {schema : Schema} {origin : Origin}
    {contributions : List Contribution} {own : List Property} {additional : Option DataType} :
    wireNames (composed name schema origin
        (contributions.foldl Merge.take ⟨schema.description, [], []⟩) own additional).properties =
      firsts (contributions.flatMap Contribution.names ++ wireNames own) := by
  have merged : wireNames (contributions.foldl Merge.take ⟨schema.description, [], []⟩).properties =
      firsts (contributions.flatMap Contribution.names) := by
    have start : wireNames (⟨schema.description, [], []⟩ : Merge).properties = firsts [] := rfl
    exact wireNames_foldl_take start contributions
  rw [← wireNames_putProperties merged]
  simp [composed, wireNames, dropPlaceholders, requireNames, Function.comp_def]

end WireNames

def propertyKeys (schema : Schema) : List String :=
  (schema.properties.getD []).map (·.1)

mutual

/-- The names that a component has by itself and through its members. -/
inductive Merged (components : List (String × Schema)) : String → List String → Prop
  | record {key : String} {schema : Schema} :
      components.lookup key = some schema → schema.kind = .record → Merged components key (propertyKeys schema)
  | composition {key : String} {schema : Schema} {names : List String} :
      components.lookup key = some schema → schema.kind = .composition →
        MergedMembers components (schema.allOf.getD []) names →
          Merged components key (firsts (names ++ propertyKeys schema))

/-- The names that the members of a composition bring along, in order. -/
inductive MergedMembers (components : List (String × Schema)) : List Schema → List String → Prop
  | nil : MergedMembers components [] []
  | description {member : Schema} {rest : List Schema} {names : List String} :
      member.isDescriptionOnly → MergedMembers components rest names →
        MergedMembers components (member :: rest) names
  | reference {member : Schema} {ref : String} {rest : List Schema} {gained names : List String} :
      member.ref = some ref → Merged components (componentName ref) gained → MergedMembers components rest names →
        MergedMembers components (member :: rest) (gained ++ names)
  | inline {member : Schema} {rest : List Schema} {names : List String} :
      ¬ member.isDescriptionOnly → member.ref = none → MergedMembers components rest names →
        MergedMembers components (member :: rest) (propertyKeys member ++ names)

end

mutual

theorem Merged.unique {components : List (String × Schema)} {key : String} {names names' : List String} :
    Merged components key names → Merged components key names' → names = names'
  | .record looked kind, .record looked' _ => by
    rw [looked] at looked'
    cases looked'
    rfl
  | .record looked kind, .composition looked' kind' _ => by
    rw [looked] at looked'
    cases looked'
    rw [kind] at kind'
    cases kind'
  | .composition looked kind _, .record looked' kind' => by
    rw [looked] at looked'
    cases looked'
    rw [kind] at kind'
    cases kind'
  | .composition looked kind members, .composition looked' kind' members' => by
    rw [looked] at looked'
    cases looked'
    rw [members.unique members']

theorem MergedMembers.unique {components : List (String × Schema)} {members : List Schema}
    {names names' : List String} :
    MergedMembers components members names → MergedMembers components members names' → names = names'
  | .nil, .nil => rfl
  | .description _ rest, .description _ rest' => rest.unique rest'
  | .description only _, .reference written _ _ => by
    rw [Schema.ref_of_isDescriptionOnly only] at written
    cases written
  | .description only _, .inline substantial _ _ => absurd only substantial
  | .reference written _ _, .description only _ => by
    rw [Schema.ref_of_isDescriptionOnly only] at written
    cases written
  | .reference written gained rest, .reference written' gained' rest' => by
    rw [written] at written'
    cases written'
    rw [gained.unique gained', rest.unique rest']
  | .reference written _ _, .inline _ absent _ => by
    rw [absent] at written
    cases written
  | .inline substantial _ _, .description only _ => absurd only substantial
  | .inline _ absent _, .reference written _ _ => by
    rw [absent] at written
    cases written
  | .inline _ _ rest, .inline _ _ rest' => by
    rw [rest.unique rest']

end

section Runs

variable {components : List (String × Schema)} {scope : Scope} {schema : Schema} {key name : String}
  {n depth : Nat} {origin : Origin} {draft draft' later : Draft}

theorem wireNames_of_lowerProperties {properties : List Property} {owner : String}
    (run : (lowerProperties scope.components (typeOf n scope) owner schema).work draft =
      some (properties, draft')) : wireNames properties = propertyKeys schema := by
  obtain ⟨-, typed⟩ := lowerProperties_run composes_le (typesKeep_le _) run
  exact wireNames_of_typed typed

theorem wireNames_of_recordModel {model : Model}
    (run : (recordModel scope.components (typeOf n scope) name schema origin).work draft =
      some (model, draft')) : wireNames model.properties = propertyKeys schema := by
  obtain ⟨_, _, _, owned, _, rfl⟩ := recordModel_eq_some.1 run
  exact wireNames_of_lowerProperties owned

theorem exists_memberProperties_of_contribution {member : Schema} {ref : String} {result : Contribution}
    (run : contribution n scope name depth member draft = some (result, draft'))
    (written : member.ref = some ref) :
    ∃ found, (memberProperties n scope (componentName ref) depth).work draft = some (found, draft') ∧
      result = match found with
        | some (member, properties) => .part member properties
        | none => .nothing := by
  unfold contribution at run
  have substantial : ¬ member.isDescriptionOnly := by
    intro only
    rw [Schema.ref_of_isDescriptionOnly only] at written
    cases written
  rw [if_neg substantial, written] at run
  simp only [Lower.bind_eq_some] at run
  obtain ⟨found, middle, looked, rest⟩ := run
  cases found <;> obtain ⟨rfl, rfl⟩ := Lower.pure_eq_some.1 rest <;> exact ⟨_, looked, rfl⟩

theorem names_of_contribution {member : Schema} {result : Contribution}
    (run : contribution n scope name depth member draft = some (result, draft')) :
    (∀ ref ∈ member.ref, ∃ found,
      (memberProperties n scope (componentName ref) depth).work draft = some (found, draft') ∧
        result.names = (found.map fun brought => wireNames brought.2).getD []) ∧
      (member.ref = none →
        result.names = if member.isDescriptionOnly then [] else propertyKeys member) := by
  constructor
  · intro ref written
    obtain ⟨found, looked, rfl⟩ := exists_memberProperties_of_contribution run written
    refine ⟨found, looked, ?_⟩
    cases found <;> rfl
  · intro absent
    unfold contribution at run
    by_cases only : member.isDescriptionOnly
    · rw [if_pos only] at run ⊢
      obtain ⟨rfl, -⟩ := Lower.pure_eq_some.1 run
      rfl
    · rw [if_neg only] at run ⊢
      rw [absent] at run
      simp only [Lower.bind_eq_some, Lower.pure_eq_some] at run
      obtain ⟨_, _, _, model, _, made, _, _, _, rfl, _⟩ := run
      exact wireNames_of_recordModel made

theorem model?_of_isLowered (lowered : isLowered draft name = true) :
    ∃ model ∈ draft.models, model.name = name ∧ draft.model? name = some model := by
  cases found : draft.model? name with
  | none =>
    obtain ⟨model, mem, same⟩ := isLowered_iff.1 lowered
    exact absurd (decide_eq_true same) (List.find?_eq_none.1 found model mem)
  | some model =>
    exact ⟨model, List.mem_of_find?_eq_some found, by simpa using List.find?_some found, rfl⟩

/-- What is known about a component that a composition refers to, when its models have the names
that they should have. -/
structure Inherited (scope : Scope) (depth : Nat) (draft : Draft) (key : String) : Prop where
  shallow : depth ≤ maxDepth
  idle : key ∉ scope.active
  plain : ∃ target, scope.components.lookup key = some target ∧ target.kind ≠ .typeAlias
  merged : ∀ model ∈ draft.models, model.name = typeName key →
    Merged scope.components key (wireNames model.properties)

theorem merged_of_memberProperties {found : Option (String × List Property)}
    (run : (memberProperties n scope key depth).work draft = some (found, draft')) (le : draft' ≤ later)
    (inherited : Inherited scope depth later key) :
    ∃ properties, found = some (typeName key, properties) ∧
      Merged scope.components key (wireNames properties) := by
  obtain ⟨target, looked, kind⟩ := inherited.plain
  cases n with
  | zero => cases run
  | succ n =>
    rcases memberProperties_run run with ⟨-, -, aliases⟩ | ⟨target', looked', -, kind', -⟩ |
      ⟨target', looked', -, -, lowered, rfl⟩
    · exact absurd (aliases inherited.shallow target looked).1 kind
    · rw [looked] at looked'
      cases looked'
      exact absurd kind' kind
    · rw [looked] at looked'
      cases looked'
      obtain ⟨model, mem, named, found⟩ :=
        model?_of_isLowered (isLowered_of_lowerComponent inherited.idle kind lowered)
      refine ⟨model.properties, by simp [found], ?_⟩
      exact inherited.merged model (Draft.mem_models_of_le le mem) named

theorem mergedMembers_of_contributions {members : List Schema} {contributions : List Contribution}
    (parts : List.Forall₂ (fun member result => ∃ before after, draft ≤ before ∧
      contribution n scope name depth member before = some (result, after) ∧ after ≤ draft')
        members contributions) (le : draft' ≤ later)
    (inherited : ∀ member ∈ members, ∀ ref ∈ member.ref,
      Inherited scope depth later (componentName ref)) :
    MergedMembers scope.components members (contributions.flatMap Contribution.names) := by
  induction parts with
  | nil => exact .nil
  | @cons member result members contributions head _ ih =>
    obtain ⟨before, after, -, run, le'⟩ := head
    have rest := ih fun member mem => inherited member (List.mem_cons_of_mem _ mem)
    obtain ⟨references, inline⟩ := names_of_contribution run
    rw [List.flatMap_cons]
    cases written : member.ref with
    | some ref =>
      obtain ⟨found, looked, names⟩ := references ref written
      obtain ⟨properties, rfl, merged⟩ := merged_of_memberProperties looked (le_trans le' le)
        (inherited member List.mem_cons_self ref written)
      rw [names]
      exact .reference written merged rest
    | none =>
      rw [inline written]
      by_cases only : member.isDescriptionOnly
      · rw [if_pos only]
        exact .description only rest
      · rw [if_neg only]
        exact .inline only written rest

theorem merged_of_modelOf {model : Model} (looked : scope.components.lookup key = some schema)
    (kind : schema.kind = .record ∨ schema.kind = .composition)
    (run : modelOf n scope schema.kind name schema origin depth draft = some (model, draft'))
    (inherited : schema.kind = .composition → ∀ member ∈ schema.memberKeys,
      Inherited scope depth draft' member) :
    Merged scope.components key (wireNames model.properties) := by
  rcases kind with kind | kind
  · rw [kind] at run
    rw [wireNames_of_recordModel run]
    exact .record looked kind
  · rw [kind] at run
    cases n with
    | zero => cases run
    | succ n =>
      obtain ⟨contributions, first, own, second, additional, gathered, owned, added, rfl⟩ :=
        compositionModel_eq_some.1 run
      have le := (lowerProperties_run composes_le (typesKeep_le _) owned).1
      have le' := additionalType_keeps composes_le (typesKeep_le _) added
      have parts := (mapM_run composes_le (fun _ _ _ _ _ step => contribution_le step) gathered).2
      have members := mergedMembers_of_contributions parts (le_trans le le') fun member mem ref written =>
        inherited kind _ (List.mem_filterMap.2 ⟨member, mem, by simp [Option.mem_def.1 written]⟩)
      rw [wireNames_composed, wireNames_of_lowerProperties owned]
      exact .composition looked kind members

end Runs

end Lowering

end OpenApiCodegen
