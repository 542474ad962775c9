import OpenApiCodegen.Proofs.Lowering.Orders
import OpenApiCodegen.Proofs.Lowering.OwnModels

namespace OpenApiCodegen.Lowering

open Api
open OpenApi (Schema SchemaKind Document NormalDocument componentName)

/-- No component that the members lead to needs the composition to be made. -/
def Acyclic (components : List (String × Schema)) (key : String) (schema : Schema) : Prop :=
  ∀ other ∈ schema.memberKeys, ∀ member, LeadsTo components other member →
    ¬ Demands components member key

/-- A property that is declared as a reference to the component gets the type of the model. -/
def PropertyGets (components : List (String × Schema)) (key name : String) : Prop :=
  ∃ n active owner required entry draft property draft',
    entry.2.ref.map componentName = some key ∧
      lowerProperty components (typeOf n ⟨components, active⟩) owner required entry draft =
          some (property, draft') ∧
        property.type = .model name

section Agreement

variable {components : List (String × Schema)} {doc : NormalDocument} {api : Api}
  {key member name : String} {schema : Schema}

theorem LeadsTo.name_eq (leads : LeadsTo components key member) (gets : PropertyGets components key name) :
    name = typeName member := by
  obtain ⟨n, active, owner, required, entry, draft, property, draft', written, run, typed⟩ := gets
  obtain ⟨type, given, rfl⟩ := lowerProperty_eq_some.1 run
  have same : type = .model name := typed
  rcases leads.type written given with any | model
  · rw [same] at any
    cases any
  · rw [same] at model
    cases model
    rfl

theorem Acyclic.idle (acyclic : Acyclic components key schema) {depth : Nat} {active : List String}
    (called : Reached components (.component key schema depth active)) {other : String}
    (reference : other ∈ schema.memberKeys) (leads : LeadsTo components other member) :
    member ∉ key :: active := by
  have apart := acyclic other reference member leads
  intro busy
  rcases List.mem_cons.1 busy with rfl | busy
  · exact apart ⟨schema, depth, active, schema, depth, active, called.listed, .refl⟩
  · exact apart (called.demands busy)

theorem exists_making_of_lower (distinct : TypeNamesDistinct doc.document.components)
    (looked : doc.document.components.lookup key = some schema) (plain : schema.kind ≠ .typeAlias)
    (run : lower doc = .ok api) :
    ∃ made n depth active before after, api.model? (typeName key) = some made ∧
      Reached doc.document.components (.component key schema depth active) ∧ key ∉ active ∧
        modelOf n ⟨doc.document.components, key :: active⟩ schema.kind (typeName key) schema .component
            depth before = some (made, after) ∧
          after.models ⊆ api.models := by
  have listed := mem_of_lookup looked
  obtain ⟨middle, made, components, kept, mem, named, answer⟩ := exists_model_of_lower listed plain run
  obtain ⟨history, -⟩ := lowerComponents_run closed_reached
    (fun entry mem => ⟨entry.1, entry.2, mem, .refl⟩) components
  rcases history.origin (reserved_start doc.document) mem with old | unnamed |
    ⟨called, -, free, plain', making, le⟩
  · simp [Draft.start] at old
  · exact absurd named.symm (unnamed _ listed)
  · have same := distinct.eq (mem_modelled.2 ⟨called.listed, plain'⟩) (mem_modelled.2 ⟨listed, plain⟩)
      ((name_of_modelOf making).symm.trans named)
    cases same
    refine ⟨made, _, _, _, _, _, answer, called, free, making, fun model inside => ?_⟩
    exact kept (Draft.mem_models_of_le le inside)

theorem mem_wireNames_of_lower (distinct : TypeNamesDistinct doc.document.components)
    (shallow : Shallow doc.document.components)
    (looked : doc.document.components.lookup key = some schema) (kind : schema.kind = .composition)
    (acyclic : Acyclic doc.document.components key schema) (run : lower doc = .ok api) :
    ∃ composed, api.model? (typeName key) = some composed ∧
      ∀ wire, wire ∈ wireNames composed.properties ↔
        Receives doc.document.components api.models schema schema.memberKeys wire := by
  have plain : schema.kind ≠ .typeAlias := by simp [kind]
  obtain ⟨composed, n, depth, active, before, after, answer, called, free, making, kept⟩ :=
    exists_making_of_lower distinct looked plain run
  have entered := closed_reached called (.entered free plain)
  rw [kind] at making entered
  refine ⟨composed, answer, fun wire => ?_⟩
  constructor
  · intro mem
    exact (receives_of_modelOf making mem).mono kept (List.Subset.refl _)
  · rintro (own | ⟨part, inline, own⟩ | ⟨other, reference, member, leads, model, inside, named, held⟩)
    · exact names_of_own making own
    · exact names_of_inlineMember making inline own
    -- what the member leads to had a model by then, which is the only one with its name
    · obtain ⟨found, present, named', names⟩ :=
        leads.names_of_modelOf shallow entered (acyclic.idle called reference leads) reference making
      have same : found = model :=
        List.inj_on_of_nodup_map (namesDistinct_of_lower distinct run) (kept present) inside
          (named'.trans named.symm)
      exact names (same ▸ held)

/-- A composition has the names of what a property gets for an alias, exactly if references lead from
the alias to a component or the names come from elsewhere. -/
theorem aliases_agree_iff (distinct : TypeNamesDistinct doc.document.components)
    (shallow : Shallow doc.document.components)
    (looked : doc.document.components.lookup key = some schema) (kind : schema.kind = .composition)
    (acyclic : Acyclic doc.document.components key schema) (run : lower doc = .ok api) :
    ∃ composed, api.model? (typeName key) = some composed ∧
      ∀ other ∈ schema.memberKeys, ∀ name model, PropertyGets doc.document.components other name →
        api.model? name = some model →
          (wireNames model.properties ⊆ wireNames composed.properties ↔
            (∃ member, LeadsTo doc.document.components other member) ∨
              ∀ wire ∈ wireNames model.properties,
                Receives doc.document.components api.models schema
                  (schema.memberKeys.filter (· ≠ other)) wire) := by
  obtain ⟨composed, answer, names⟩ := mem_wireNames_of_lower distinct shallow looked kind acyclic run
  refine ⟨composed, answer, fun other reference name model gets found => ?_⟩
  constructor
  · intro subset
    by_cases leads : ∃ member, LeadsTo doc.document.components other member
    · exact .inl leads
    · refine .inr fun wire mem => ?_
      rcases (names wire).1 (subset mem) with own | inline | ⟨key, mem, brings⟩
      · exact .inl own
      · exact .inr (.inl inline)
      · have apart : key ≠ other := by
          rintro rfl
          exact leads (brings.imp fun _ => And.left)
        exact .inr (.inr ⟨key, List.mem_filter.2 ⟨mem, by simpa using apart⟩, brings⟩)
  · rintro (⟨member, leads⟩ | elsewhere) wire mem
    · obtain ⟨id, given, at_⟩ := model?_eq_some found
      have called := (name_of_modelId? given at_).trans (leads.name_eq gets)
      have brings : Brings doc.document.components api.models other wire :=
        ⟨member, leads, model, List.mem_of_getElem? at_, called, mem⟩
      exact (names wire).2 (.inr (.inr ⟨other, reference, brings⟩))
    · have receives := (elsewhere wire mem).mono (List.Subset.refl _) (List.filter_subset_self _)
      exact (names wire).2 receives

end Agreement

def animalReference : Schema := { ref := some "#/components/schemas/Animal" }

def nullableAnimal : Schema :=
  { anyOf := some [animalReference, { typeNames := some (.single "null") }] }

def companionReference : Schema := { ref := some "#/components/schemas/Companion" }

def guideDog : Schema :=
  { allOf := some
      [companionReference,
        { typeNames := some (.single "object")
          properties := some [("bark", { typeNames := some (.single "boolean") })] }] }

/-- A dog is composed of a companion, and a home has a property for one. -/
def companions (companion : Schema) : List (String × Schema) :=
  [("Animal", animal []), ("Companion", companion), ("Dog", guideDog),
    ("Home",
      { typeNames := some (.single "object")
        properties := some [("pet", companionReference)] })]

section Companions

variable {companion : Schema}

theorem companions_distinct : TypeNamesDistinct (companions companion) := by
  have names : (["Animal", "Companion", "Dog", "Home"].map typeName).Nodup := by decide
  exact names.sublist (List.filter_sublist.map _)

theorem companions_shallow : Shallow (companions nullableAnimal) := by
  have followed : ∀ entry ∈ companions nullableAnimal, (Call.component entry.1 entry.2 0 []).always
      (companions nullableAnimal) Call.isFollowed 20 = true := by
    decide
  intro key depth active reached
  exact shallow_of_always followed reached

theorem members_guideDog : guideDog.memberKeys = ["Companion"] := by rfl

theorem companions_not_demands : ¬ Demands (companions companion) "Animal" "Dog" := by
  rintro ⟨schema, depth, active, schema', depth', active', listed, path⟩
  have start : (Call.component "Animal" schema depth active).isSolitary := by
    have first : schema = animal [] := by simpa [companions] using listed
    exact ⟨rfl, first⟩
  have finish := closed_isSolitary.of_path start path
  exact absurd finish.1 (by decide)

theorem leadsTo_nullable {member : String} :
    ¬ LeadsTo (companions nullableAnimal) "Companion" member := by
  intro leads
  cases leads with
  | here looked kind =>
    cases looked
    exact kind (by decide)
  | onward looked _ hop =>
    cases looked
    cases hop

theorem leadsTo_reference {member : String} (leads : LeadsTo (companions animalReference) "Companion" member) :
    member = "Animal" := by
  cases leads with
  | here looked kind =>
    cases looked
    exact absurd (by decide) kind
  | onward looked _ hop leads =>
    cases looked
    have named : aliasTarget? animalReference = some "Animal" := by rfl
    rw [named] at hop
    cases hop
    have plain : ∀ target ∈ (companions animalReference).lookup "Animal", target.kind ≠ .typeAlias := by
      decide
    exact (leads.eq_of_plain plain).symm

theorem companions_acyclic
    (leads : ∀ member, LeadsTo (companions companion) "Companion" member → member = "Animal") :
    Acyclic (companions companion) "Dog" guideDog := by
  intro other reference member reached
  rw [members_guideDog, List.mem_singleton] at reference
  subst reference
  rw [leads member reached]
  exact companions_not_demands

theorem propertyGets_companion
    (gets : ((lowerProperty (companions companion) (typeOf 9 ⟨companions companion, []⟩) "Home" []
      ("pet", companionReference) (Draft.start (declaring (companions companion)))).map
        fun result => result.1.type) = some (.model "Animal")) :
    PropertyGets (companions companion) "Companion" "Animal" := by
  obtain ⟨⟨property, draft⟩, run, typed⟩ := Option.map_eq_some_iff.1 gets
  have named : companionReference.ref.map componentName = some "Companion" := by rfl
  exact ⟨9, [], "Home", [], ("pet", companionReference), _, property, draft, named, run, typed⟩

end Companions

/-- The property of a home gets the animal that the nullable companion stands for, and the dog does
not. -/
theorem companions_disagree :
    (companions nullableAnimal).lookup "Companion" = some nullableAnimal ∧
      nullableAnimal.kind = .typeAlias ∧ guideDog.kind = .composition ∧ "Companion" ∈ guideDog.memberKeys ∧
        Shallow (companions nullableAnimal) ∧ ¬ Demands (companions nullableAnimal) "Animal" "Dog" ∧
          (lower (.of (declaring (companions nullableAnimal)))).toOption.map (fun api =>
              api.models.map fun model =>
                (model.name, model.properties.map fun property => (property.wireName, property.type))) =
            some [("Animal", [("name", .text)]), ("DogAllOf", [("bark", .boolean)]),
              ("Dog", [("bark", .boolean)]), ("Home", [("pet", .model "Animal")])] := by
  refine ⟨rfl, by decide, by decide, by decide, companions_shallow, companions_not_demands, ?_⟩
  rfl

/-- With a companion that is another name of the animal the dog has the names of the animal, with the
nullable one it lacks them. -/
theorem companions_agree_iff :
    (∃ api animal dog, lower (.of (declaring (companions animalReference))) = .ok api ∧
      api.model? "Animal" = some animal ∧ api.model? (typeName "Dog") = some dog ∧
        wireNames animal.properties ⊆ wireNames dog.properties) ∧
    ∃ api animal dog, lower (.of (declaring (companions nullableAnimal))) = .ok api ∧
      api.model? "Animal" = some animal ∧ api.model? (typeName "Dog") = some dog ∧
        ¬ wireNames animal.properties ⊆ wireNames dog.properties := by
  have member : "Companion" ∈ guideDog.memberKeys := by decide
  constructor
  · obtain ⟨api, run, named⟩ : ∃ api, lower (.of (declaring (companions animalReference))) = .ok api ∧
        ((api.model? "Animal").map fun animal => wireNames animal.properties) = some ["name"] :=
      exists_of_toOption_map (by rfl)
    obtain ⟨animal, found, -⟩ := Option.map_eq_some_iff.1 named
    have distinct : TypeNamesDistinct
        (NormalDocument.of (declaring (companions animalReference))).document.components := companions_distinct
    have followed : ∀ entry ∈ companions animalReference, (Call.component entry.1 entry.2 0 []).always
        (companions animalReference) Call.isFollowed 20 = true := by
      decide
    have shallow : Shallow
        (NormalDocument.of (declaring (companions animalReference))).document.components :=
      shallow_of_always followed
    have acyclic : Acyclic
        (NormalDocument.of (declaring (companions animalReference))).document.components "Dog" guideDog :=
      companions_acyclic fun _ leads => leadsTo_reference leads
    have gets : PropertyGets (companions animalReference) "Companion" "Animal" :=
      propertyGets_companion (by rfl)
    have leads : LeadsTo (companions animalReference) "Companion" "Animal" := by
      refine .onward rfl (by decide) (by rfl) (.here rfl ?_)
      decide
    obtain ⟨dog, answer, agree⟩ := aliases_agree_iff distinct shallow rfl (by decide) acyclic run
    exact ⟨api, animal, dog, run, found, answer,
      (agree "Companion" member "Animal" animal gets found).2 (.inl ⟨"Animal", leads⟩)⟩
  · obtain ⟨api, run, named⟩ : ∃ api, lower (.of (declaring (companions nullableAnimal))) = .ok api ∧
        ((api.model? "Animal").map fun animal => wireNames animal.properties) = some ["name"] :=
      exists_of_toOption_map (by rfl)
    obtain ⟨animal, found, names⟩ := Option.map_eq_some_iff.1 named
    have distinct : TypeNamesDistinct
        (NormalDocument.of (declaring (companions nullableAnimal))).document.components := companions_distinct
    have shallow : Shallow
        (NormalDocument.of (declaring (companions nullableAnimal))).document.components :=
      companions_shallow
    have acyclic : Acyclic
        (NormalDocument.of (declaring (companions nullableAnimal))).document.components "Dog" guideDog :=
      companions_acyclic fun _ leads => absurd leads leadsTo_nullable
    have gets : PropertyGets (companions nullableAnimal) "Companion" "Animal" :=
      propertyGets_companion (by rfl)
    obtain ⟨dog, answer, agree⟩ := aliases_agree_iff distinct shallow rfl (by decide) acyclic run
    refine ⟨api, animal, dog, run, found, answer, fun subset => ?_⟩
    rcases (agree "Companion" member "Animal" animal gets found).1 subset with ⟨_, leads⟩ | elsewhere
    · exact leadsTo_nullable leads
    · have others : guideDog.memberKeys.filter (· ≠ "Companion") = [] := by rfl
      have name : "name" ∈ wireNames animal.properties := by simp [names]
      rcases elsewhere "name" name with own | ⟨part, inline, own⟩ | ⟨other, reference, -⟩
      · exact absurd own (by decide)
      · have inlines : ∀ part ∈ guideDog.inlineMembers, "name" ∉ propertyKeys part := by decide
        exact inlines part inline own
      · rw [others] at reference
        cases reference

end OpenApiCodegen.Lowering
