import OpenApiCodegen.Proofs.Lowering.AliasMembers
import OpenApiCodegen.Proofs.Lowering.Makings

namespace OpenApiCodegen.Lowering

open Api
open OpenApi (Schema SchemaKind Document NormalDocument componentName)

def lastGiven? (given : List Property) (wire : String) : Option Property :=
  given.reverse.find? (·.wireName = wire)

section Merging

variable {given added : List Property} {property : Property} {wire : String}

theorem mem_of_lastGiven? (last : lastGiven? given wire = some property) : property ∈ given :=
  List.mem_reverse.1 (List.mem_of_find?_eq_some last)

theorem lastGiven?_append :
    lastGiven? (given ++ added) wire = (lastGiven? added wire).or (lastGiven? given wire) := by
  simp [lastGiven?]

theorem lastGiven?_eq_none_iff : lastGiven? given wire = none ↔ wire ∉ wireNames given := by
  simp [lastGiven?, wireNames]

theorem find?_putProperties (properties added : List Property) :
    (putProperties properties added).find? (·.wireName = wire) =
      (lastGiven? added wire).or (properties.find? (·.wireName = wire)) := by
  rw [putProperties_eq]
  exact find?_placeAll wire properties added

theorem putProperties_append (properties given added : List Property) :
    putProperties properties (given ++ added) = putProperties (putProperties properties given) added :=
  List.foldl_append

theorem lastGiven?_of_mem_putProperties (mem : property ∈ putProperties [] given) :
    lastGiven? given property.wireName = some property := by
  have names : wireNames (putProperties [] given) = firsts (wireNames given) := by
    have start : wireNames [] = firsts [] := rfl
    exact wireNames_putProperties start given
  have distinct : (wireNames (putProperties [] given)).Nodup := names ▸ firsts_nodup _
  have found := find?_of_mem distinct mem
  rw [find?_putProperties] at found
  simpa using found

end Merging

/-- What a member gives to a composition that is nested so deep, while components are active. A reference
gives the properties of the model that it leads to, unless there is none because it is being made. -/
inductive Gives (doc : Document) (api : Api) (active : List String) (depth : Nat) :
    Schema → List Property → Prop
  | text {member : Schema} : member.isDescriptionOnly → Gives doc api active depth member []
  | inline {member : Schema} {share : List Property} :
      member.ref = none → wireNames share = propertyKeys member →
        (∀ property ∈ share, property.required = true ↔ property.wireName ∈ member.required.getD []) →
          Gives doc api active depth member share
  | nothing {member : Schema} {key : String} :
      member.ref.map componentName = some key →
        (∀ other, LeadsWithin doc.components depth key other → other ∈ active) →
          Gives doc api active depth member []
  | model {member : Schema} {key other : String} {entry : String × Schema} {source : Model}
      {active' : List String} {depth' : Nat} :
      member.ref.map componentName = some key → LeadsTo doc.components key other →
        entry ∈ modelled doc.components → typeName entry.1 = typeName other → source ∈ api.models →
          source.name = typeName other →
            Made doc.components api.models active' depth' entry.2.kind entry.2 source →
              Gives doc api active depth member source.properties

/-- A member, or the component that it leads to, lists the name as required. -/
inductive Lists (components : List (String × Schema)) : Schema → String → Prop
  | inline {member : Schema} {wire : String} :
      member.ref = none → wire ∈ member.required.getD [] → Lists components member wire
  | component {member target : Schema} {key other wire : String} :
      member.ref.map componentName = some key → LeadsTo components key other →
        components.lookup other = some target → wire ∈ target.required.getD [] →
          Lists components member wire

/-- A composition requires what it lists, and what the last member that has it requires unless it
declares it again. -/
def Requires (schema : Schema) (shares : List (List Property)) (wire : String) : Prop :=
  wire ∈ schema.required.getD [] ∨ wire ∉ propertyKeys schema ∧
    ∃ giver, lastGiven? shares.flatten wire = some giver ∧ giver.required = true

/-- The model of a composition has the properties that its members give and its own, and what the
composition requires is required. Nothing else is, though it is left open what a name amounts to that a
member lists without giving it. -/
structure Accumulates (doc : Document) (api : Api) (active : List String) (depth : Nat)
    (schema : Schema) (model : Model) (shares : List (List Property)) : Prop where
  gives : List.Forall₂ (Gives doc api active depth) (schema.allOf.getD []) shares
  names : wireNames model.properties = firsts (wireNames shares.flatten ++ propertyKeys schema)
  required : ∀ property ∈ model.properties,
    Requires schema shares property.wireName → property.required = true
  only : ∀ property ∈ model.properties,
    (∀ part ∈ (schema.allOf.getD []).zip shares,
      Lists doc.components part.1 property.wireName → property.wireName ∈ wireNames part.2) →
        property.required = true → Requires schema shares property.wireName

/-- What a schema lists is required in its model. -/
def Heeds (schema : Schema) (model : Model) : Prop :=
  ∀ property ∈ model.properties, property.wireName ∈ schema.required.getD [] → property.required = true

def Contribution.properties : Contribution → List Property
  | part _ properties => properties
  | _ => []

section Compositions

variable {scope : Scope} {schema : Schema} {owner name : String} {n depth : Nat} {kind : SchemaKind}
  {origin : Origin} {draft draft' : Draft} {model : Model}

theorem properties_foldl_take (merge : Merge) (contributions : List Contribution) :
    (contributions.foldl Merge.take merge).properties =
      putProperties merge.properties (contributions.map Contribution.properties).flatten := by
  induction contributions generalizing merge with
  | nil => rfl
  | cons contribution rest ih =>
    rw [List.foldl_cons, List.map_cons, List.flatten_cons, putProperties_append, ih]
    cases contribution <;> rfl

theorem wireNames_flatten_properties (contributions : List Contribution) :
    wireNames (contributions.map Contribution.properties).flatten =
      contributions.flatMap Contribution.names := by
  induction contributions with
  | nil => rfl
  | cons contribution rest ih =>
    have first : wireNames contribution.properties = contribution.names := by
      cases contribution <;> rfl
    rw [List.flatMap_cons, ← ih, ← first, List.map_cons, List.flatten_cons]
    exact List.map_append

theorem required_of_lowerProperties {properties : List Property}
    (run : (lowerProperties scope.components (typeOf n scope) owner schema).work draft =
      some (properties, draft')) :
    ∀ property ∈ properties, property.required = true ↔ property.wireName ∈ schema.required.getD [] := by
  obtain ⟨-, typed⟩ := lowerProperties_run composes_le (typesKeep_le _) run
  intro property mem
  obtain ⟨entry, -, _, _, _, -, -, -, rfl⟩ := exists_of_forall₂_right typed mem
  simp [propertyOf]

theorem required_iff_of_composed {contributions : List Contribution} {own : List Property}
    {additional : Option DataType} (keys : wireNames own = propertyKeys schema)
    (listed : ∀ property ∈ own, property.required = true ↔ property.wireName ∈ schema.required.getD [])
    {property : Property}
    (mem : property ∈ (composed name schema origin
      (contributions.foldl Merge.take ⟨schema.description, [], []⟩) own additional).properties) :
    property.required = true ↔ Requires schema (contributions.map Contribution.properties) property.wireName := by
  simp only [composed, dropPlaceholders, requireNames, properties_foldl_take, ← putProperties_append,
    List.mem_map] at mem
  obtain ⟨_, ⟨merged, mem, rfl⟩, rfl⟩ := mem
  have last := lastGiven?_of_mem_putProperties mem
  rw [lastGiven?_append] at last
  simp only [Bool.or_eq_true, List.contains_iff_mem, Requires, ← keys]
  cases declared : lastGiven? own merged.wireName with
  | some mine =>
    rw [declared, Option.some_or, Option.some_inj] at last
    subst last
    have inside := mem_of_lastGiven? declared
    have named : mine.wireName ∈ wireNames own := List.mem_map_of_mem inside
    simp [listed mine inside, named]
  | none =>
    rw [declared, Option.none_or] at last
    have other := lastGiven?_eq_none_iff.1 declared
    simp [last, other, or_comm]

theorem heeds_of_modelOf
    (run : modelOf n scope kind name schema origin depth draft = some (model, draft')) : Heeds schema model := by
  have owned : ∀ {properties : List Property} {draft draft' : Draft},
      (lowerProperties scope.components (typeOf n scope) name schema).work draft = some (properties, draft') →
        ∀ property ∈ properties, property.wireName ∈ schema.required.getD [] → property.required = true :=
    fun run property mem => (required_of_lowerProperties run property mem).2
  cases kind with
  | enumeration =>
    obtain ⟨rfl, -⟩ := Lower.pure_eq_some.1 run
    exact nofun
  | union =>
    obtain ⟨_, first, rfl⟩ := unionModel_eq_some.1 run
    exact owned first
  | composition =>
    cases n with
    | zero => cases run
    | succ n =>
      obtain ⟨_, _, _, _, _, -, own, -, rfl⟩ := compositionModel_eq_some.1 run
      intro property mem listed
      exact (required_iff_of_composed (wireNames_of_lowerProperties own) (required_of_lowerProperties own)
        mem).2 (.inl listed)
  | record =>
    obtain ⟨_, _, _, first, -, rfl⟩ := recordModel_eq_some.1 run
    exact owned first
  | typeAlias =>
    obtain ⟨_, _, _, first, -, rfl⟩ := recordModel_eq_some.1 run
    exact owned first
  | unsupported reason =>
    obtain ⟨rfl, -⟩ := Lower.pure_eq_some.1 run
    exact nofun

end Compositions

section Documents

variable {doc : NormalDocument} {api : Api} {schema : Schema} {model : Model}

theorem LeadsTo.declared {components : List (String × Schema)} {key other : String}
    (leads : LeadsTo components key other) :
    ∃ target, components.lookup other = some target ∧ target.kind ≠ .typeAlias := by
  induction leads with
  | here looked kind => exact ⟨_, looked, kind⟩
  | onward _ _ _ _ ih => exact ih

theorem made_of_named (run : lower doc = .ok api) (mem : model ∈ api.models) {entry : String × Schema}
    (listed : entry ∈ doc.document.components) (named : model.name = typeName entry.1) :
    ∃ entry' ∈ modelled doc.document.components, typeName entry'.1 = typeName entry.1 ∧
      ∃ active depth, Made doc.document.components api.models active depth entry'.2.kind entry'.2 model := by
  obtain ⟨id, at_⟩ := List.mem_iff_getElem?.1 mem
  obtain ⟨entry', modelled, alike, made⟩ := exists_isModelOf_of_named run listed at_ named
  obtain ⟨-, -, run, older⟩ := made.madeOf at_
  refine ⟨entry', modelled, alike, _, _, run, ?_⟩
  rw [older]
  exact fun other mem => List.mem_of_mem_take (List.mem_reverse.1 mem)

theorem gives_of_leads (run : lower doc = .ok api) {active : List String} {depth : Nat} {member : Schema}
    {key other : String} (refers : member.ref.map componentName = some key)
    (leads : LeadsTo doc.document.components key other) (mem : model ∈ api.models)
    (named : model.name = typeName other) :
    Gives doc.document api active depth member model.properties := by
  obtain ⟨target, declared, -⟩ := leads.declared
  obtain ⟨entry, modelled, alike, _, _, made⟩ := made_of_named run mem (mem_of_lookup declared) named
  exact .model refers leads modelled alike mem named made

theorem gives_of_contribution (run : lower doc = .ok api) {n depth : Nat} {active : List String}
    {name : String} {member : Schema} {result : Contribution} {draft draft' : Draft}
    (step : contribution n ⟨doc.document.components, active⟩ name depth member draft = some (result, draft'))
    (kept : draft'.models ⊆ api.models) :
    Gives doc.document api active depth member result.properties := by
  cases written : member.ref with
  | some ref =>
    obtain ⟨found, looked, rfl⟩ := exists_memberProperties_of_contribution step written
    have refers : member.ref.map componentName = some (componentName ref) := by simp [written]
    by_cases idle : ∃ other, LeadsWithin doc.document.components depth (componentName ref) other ∧ other ∉ active
    · obtain ⟨other, leads, idle⟩ := idle
      obtain ⟨source, mem, named, rfl⟩ := leads.memberProperties_run idle looked
      exact gives_of_leads run refers leads.leadsTo (kept mem) named
    have busy : ∀ other, LeadsWithin doc.document.components depth (componentName ref) other → other ∈ active :=
      fun other leads => Classical.byContradiction fun free => idle ⟨other, leads, free⟩
    rcases found with _ | ⟨brought, properties⟩
    · exact .nothing refers busy
    · rcases leads_of_memberProperties looked rfl with none | ⟨other, leads, source, mem, named, same⟩
      · obtain rfl : properties = [] := none
        exact .nothing refers busy
      · obtain rfl : properties = source.properties := same
        exact gives_of_leads run refers leads (kept mem) named
  | none =>
    unfold contribution at step
    by_cases only : member.isDescriptionOnly
    · rw [if_pos only] at step
      obtain ⟨rfl, -⟩ := Lower.pure_eq_some.1 step
      exact .text only
    · rw [if_neg only, written] at step
      simp only [Lower.bind_eq_some, Lower.pure_eq_some] at step
      obtain ⟨_, _, _, model, _, made, _, _, _, rfl, _⟩ := step
      obtain ⟨_, _, _, owned, -, rfl⟩ := recordModel_eq_some.1 made
      exact .inline written (wireNames_of_lowerProperties owned) (required_of_lowerProperties owned)

theorem accumulates_of_made (run : lower doc = .ok api)
    {active : List String} {depth : Nat}
    (made : Made doc.document.components api.models active depth .composition schema model) :
    ∃ shares, Accumulates doc.document api active depth schema model shares := by
  obtain @⟨n, name, origin, before, after, made, kept⟩ := made
  cases n with
  | zero => cases made
  | succ n =>
    obtain ⟨contributions, first, own, second, additional, gathered, owned, added, rfl⟩ :=
      compositionModel_eq_some.1 made
    have leOwn := (lowerProperties_run composes_le (typesKeep_le _) owned).1
    have leAdded := additionalType_keeps composes_le (typesKeep_le _) added
    have parts := (mapM_run composes_le (fun _ _ _ _ _ step => contribution_le step) gathered).2
    have required : ∀ property ∈ (composed name schema origin
        (contributions.foldl Merge.take ⟨schema.description, [], []⟩) own additional).properties,
          property.required = true ↔
            Requires schema (contributions.map Contribution.properties) property.wireName :=
      fun _ => required_iff_of_composed (wireNames_of_lowerProperties owned) (required_of_lowerProperties owned)
    refine ⟨contributions.map Contribution.properties, ?_, ?_, ?_, ?_⟩
    · rw [List.forall₂_map_right_iff]
      refine parts.imp ?_
      rintro member result ⟨_, later, -, step, le⟩
      refine gives_of_contribution run step fun other mem => kept ?_
      exact Draft.mem_models_of_le (le_trans le (le_trans leOwn leAdded)) mem
    · rw [wireNames_composed, wireNames_of_lowerProperties owned, wireNames_flatten_properties]
    · exact fun property mem => (required property mem).2
    · exact fun property mem _ => (required property mem).1

end Documents

/-- Every model is made of a schema of the document and requires what that lists. Compositions also
require what the last member that has it requires. -/
theorem requiredness_of_lower {doc : NormalDocument} {api : Api} (run : lower doc = .ok api) :
    (∀ model ∈ api.models, MadeIn doc.document api.models model) ∧
    ∀ {active depth kind schema model},
      Made doc.document.components api.models active depth kind schema model →
        Heeds schema model ∧ (kind = .composition →
          ∃ shares, Accumulates doc.document api active depth schema model shares) := by
  refine ⟨madeIn_of_lower run, fun made => ⟨?_, ?_⟩⟩
  · obtain ⟨step, -⟩ := made
    exact heeds_of_modelOf step
  · rintro rfl
    exact accumulates_of_made run made

/-- An animal must have a name. A dog is an animal, and has a name again. -/
def namelessDog : Schema :=
  { allOf := some
      [animalReference,
        { properties := some
            [("name", { typeNames := some (.single "string") }),
              ("bark", { typeNames := some (.single "boolean") })] }] }

def strays : List (String × Schema) :=
  [("Animal", { animal [] with required := some ["name"] }), ("Dog", namelessDog)]

/-- A dog need not have a name, since the last member with a name does not require it. -/
theorem strays_nameless :
    strays.lookup "Dog" = some namelessDog ∧ namelessDog.kind = .composition ∧
      (∃ member ∈ namelessDog.allOf.getD [], Lists strays member "name") ∧
        (lower (.of (declaring strays))).toOption.map (fun api =>
            api.models.map fun model =>
              (model.name, model.properties.map fun property => (property.wireName, property.required))) =
          some [("Animal", [("name", true)]), ("DogAllOf", [("name", false), ("bark", false)]),
            ("Dog", [("name", false), ("bark", false)])] := by
  refine ⟨rfl, by decide, ⟨animalReference, List.mem_cons_self, ?_⟩, by rfl⟩
  have refers : animalReference.ref.map componentName = some "Animal" := by rfl
  exact .component refers (.here rfl (by decide)) rfl List.mem_cons_self

theorem strays_accumulate :
    ∃ api dog active depth shares, lower (.of (declaring strays)) = .ok api ∧
      api.model? (typeName "Dog") = some dog ∧ Heeds namelessDog dog ∧
        Accumulates (NormalDocument.of (declaring strays)).document api active depth namelessDog dog shares := by
  obtain ⟨api, run⟩ : ∃ api, lower (.of (declaring strays)) = .ok api :=
    exists_of_toOption (by rfl)
  have distinct : TypeNamesDistinct (NormalDocument.of (declaring strays)).document.components := by
    unfold TypeNamesDistinct
    decide
  have looked : (NormalDocument.of (declaring strays)).document.components.lookup "Dog" = some namelessDog := rfl
  obtain ⟨dog, n, depth, active, before, after, answer, -, -, making, kept⟩ :=
    exists_making_of_lower distinct looked (by decide) run
  obtain ⟨heeds, accumulates⟩ := (requiredness_of_lower run).2 ⟨making, kept⟩
  obtain ⟨shares, accumulates⟩ := accumulates (by decide)
  exact ⟨api, dog, _, depth, shares, run, answer, heeds, accumulates⟩

end OpenApiCodegen.Lowering
