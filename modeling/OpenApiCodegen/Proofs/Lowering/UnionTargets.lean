import OpenApiCodegen.Api.Dispatch
import OpenApiCodegen.Proofs.Lowering.AliasMembers
import OpenApiCodegen.Proofs.Lowering.Makings
import OpenApiCodegen.Proofs.Lowering.ModelOrigins
import OpenApiCodegen.Proofs.Lowering.ReferenceTypes

namespace OpenApiCodegen.Lowering

open Api
open OpenApi (Schema SchemaKind Document NormalDocument componentName)

/-- The component whose model is the type of a schema. References to aliases are followed, and so is the
one member that a schema stands for. -/
inductive StandsFor (components : List (String × Schema)) : Schema → String → Prop
  | model {schema target : Schema} {key : String} :
      schema.ref.map componentName = some key → components.lookup key = some target →
        target.kind ≠ .typeAlias → StandsFor components schema key
  | expanded {schema target : Schema} {key member : String} :
      schema.ref.map componentName = some key → components.lookup key = some target →
        target.kind = .typeAlias → StandsFor components target member → StandsFor components schema member
  | sole {schema part : Schema} {member : String} :
      schema.ref = none → planWritten schema = .onward .member part →
        StandsFor components part member → StandsFor components schema member

/-- The branch of a value and what it refers to. It has the model that the reference stands for if
the reference is to a component with the name of that model. -/
structure BranchOf (doc : Document) (api : Api) (target : String × String) (branch : Branch) : Prop where
  literal : branch.literal = target.1
  variant : branch.variant = typeName (componentName target.2)
  resolves : ∀ member, StandsFor doc.components (reference target.2) member →
    ∃ id, api.modelId? (typeName member) = some id ∧
      (TypeNamesDistinct doc.components →
        ∃ schema, doc.components.lookup member = some schema ∧ IsModelOf doc api (member, schema) id) ∧
        (branch.variantId = some id ↔ typeName (componentName target.2) = typeName member)

section Types

variable {components : List (String × Schema)} {schema : Schema} {active : List String} {n depth : Nat}
  {member owner hint : String} {origin : Origin} {draft draft' : Draft}

theorem StandsFor.type {type : DataType} (stands : StandsFor components schema member)
    (run : typeOf n ⟨components, active⟩ schema owner hint origin depth draft = some (type, draft')) :
    type = .any ∨ type = .model (typeName member) := by
  induction stands generalizing n owner hint origin depth with
  | @model schema target key written looked kind => exact (LeadsTo.here looked kind).type written run
  | @expanded schema target key member written looked kind _ ih =>
    have planned := plan_refers written looked depth
    rw [if_pos kind] at planned
    rcases typeOf_of_onward planned (fun _ => rfl) run with any | ⟨n, _, _, _, depth, run⟩
    · exact .inl any
    · exact ih run
  | @sole schema part member absent planned _ ih =>
    have planned : plan components schema depth = .settled .any ∨
        plan components schema depth = .onward .member part := by
      by_cases deep : maxDepth < depth
      · exact .inl (if_pos deep)
      · rw [plan, if_neg deep, absent]
        exact .inr planned
    rcases typeOf_of_onward planned (fun _ => rfl) run with any | ⟨n, _, _, _, depth, run⟩
    · exact .inl any
    · exact ih run

theorem StandsFor.declared (stands : StandsFor components schema member) :
    ∃ target, components.lookup member = some target ∧ target.kind ≠ .typeAlias := by
  induction stands with
  | model _ looked kind => exact ⟨_, looked, kind⟩
  | expanded _ _ _ _ ih => exact ih
  | sole _ _ _ ih => exact ih

end Types

section Models

variable {doc : NormalDocument} {api : Api}

theorem isModelOf_of_named (run : lower doc = .ok api)
    (distinct : TypeNamesDistinct doc.document.components) {entry : String × Schema}
    (mem : entry ∈ modelled doc.document.components) {id : Nat} {model : Model}
    (at_ : api.models[id]? = some model) (named : model.name = typeName entry.1) :
    IsModelOf doc.document api entry id := by
  obtain ⟨other, mem', same, made⟩ := exists_isModelOf_of_named run (mem_modelled.1 mem).1 at_ named
  rwa [distinct.eq mem mem' same.symm]

theorem branchOf_of_lower (run : lower doc = .ok api) (target : String × String) :
    BranchOf doc.document api target
      ⟨target.1, typeName (componentName target.2), api.modelId? (typeName (componentName target.2))⟩ := by
  refine ⟨rfl, rfl, fun member stands => ?_⟩
  obtain ⟨schema, looked, kind⟩ := stands.declared
  have mem : (member, schema) ∈ modelled doc.document.components :=
    mem_modelled.2 ⟨mem_of_lookup looked, kind⟩
  obtain ⟨_, model, at_, named⟩ := exists_named_of_lower run mem
  obtain ⟨id, found, last, at_, called⟩ := modelId?_of_mem (List.mem_of_getElem? at_)
  rw [named] at last called
  refine ⟨id, last, fun distinct => ⟨schema, looked, isModelOf_of_named run distinct mem at_ called⟩, ?_⟩
  constructor
  · intro resolved
    exact (name_of_modelId? resolved at_).symm.trans called
  · intro same
    rw [same]
    exact last

theorem mapping_of_made {components : List (String × Schema)} {models : List Model} {kind : SchemaKind}
    {schema : Schema} {model : Model} {discriminator : Discriminator} {active : List String} {depth : Nat}
    (made : Made components models active depth kind schema model)
    (decodes : model.discriminator? = some discriminator) :
    kind = .union ∧ discriminator.mapping = variantMapping schema := by
  obtain ⟨run, -⟩ := made
  rcases discriminator?_of_modelOf run with none | ⟨union, -, some⟩
  · rw [none] at decodes
    cases decodes
  · rw [some] at decodes
    cases decodes
    exact ⟨union, rfl⟩

end Models

/-- Each branch of a union is that of a value of its schema. Its model is the one that the type of what
the value refers to would be, if the value refers to it by its name. -/
theorem branches_of_lower {doc : NormalDocument} {api : Api} (run : lower doc = .ok api) {model : Model}
    (mem : model ∈ api.models) {discriminator : Discriminator}
    (decodes : model.discriminator? = some discriminator) :
    ∃ schema ∈ doc.document.allSchemas,
      (∃ active depth, Made doc.document.components api.models active depth .union schema model) ∧
        List.Forall₂ (BranchOf doc.document api) (schema.discriminatorTargets?.getD [])
          (branches api discriminator) := by
  obtain @⟨active, depth, kind, schema, inside, -, made⟩ := madeIn_of_lower run model mem
  obtain ⟨rfl, mapping⟩ := mapping_of_made made decodes
  refine ⟨schema, inside, ⟨active, depth, made⟩, ?_⟩
  rw [branches, mapping, variantMapping, List.map_map, List.forall₂_map_right_iff]
  exact List.forall₂_same.2 fun target _ => branchOf_of_lower run target

/-- Both values of the discriminator refer to cats, one of them by another name. -/
def shelter : Document :=
  declaring
    [("Pet",
        { oneOf := some [reference "#/components/schemas/Feline", reference "#/components/schemas/Cat"]
          discriminator := some
            { property := "kind"
              mapping := some [("cat", "#/components/schemas/Feline"), ("tabby", "#/components/schemas/Cat")] } }),
      ("Feline", reference "#/components/schemas/Cat"),
      ("Cat", { properties := some [("kind", { typeNames := some (.single "string") })] })]

/-- The other name is no model, so its branch has none. -/
theorem shelter_unresolved :
    StandsFor (NormalDocument.of shelter).document.components (reference "#/components/schemas/Feline") "Cat" ∧
      (lower (.of shelter)).toOption.map (fun api : Api =>
          (api.modelId? (typeName "Cat"), (api.models.filterMap Model.discriminator?).map fun discriminator =>
            (branches api discriminator).map fun branch => (branch.literal, branch.variantId))) =
        some (some 1, [[("cat", none), ("tabby", some 1)]]) := by
  refine ⟨?_, by rfl⟩
  have feline : (reference "#/components/schemas/Feline").ref.map componentName = some "Feline" := by
    rfl
  have cat : (reference "#/components/schemas/Cat").ref.map componentName = some "Cat" := by
    rfl
  exact .expanded feline rfl rfl (.model cat rfl (by decide))

theorem shelter_branches :
    ∃ api model discriminator, lower (.of shelter) = .ok api ∧ model ∈ api.models ∧
      model.discriminator? = some discriminator ∧
        ∃ schema ∈ (NormalDocument.of shelter).document.allSchemas,
          (∃ active depth,
            Made (NormalDocument.of shelter).document.components api.models active depth .union schema model) ∧
            List.Forall₂ (BranchOf (NormalDocument.of shelter).document api)
              (schema.discriminatorTargets?.getD []) (branches api discriminator) := by
  have seen : (lower (.of shelter)).toOption.map (fun api : Api =>
      (api.models.filterMap Model.discriminator?).length) = some 1 := by
    rfl
  obtain ⟨api, run, one⟩ := exists_of_toOption_map seen
  obtain ⟨discriminator, only⟩ := List.length_eq_one_iff.1 one
  obtain ⟨model, mem, decodes⟩ := List.mem_filterMap.1 (only ▸ List.mem_cons_self)
  exact ⟨api, model, discriminator, run, mem, decodes, branches_of_lower run mem decodes⟩

end OpenApiCodegen.Lowering
