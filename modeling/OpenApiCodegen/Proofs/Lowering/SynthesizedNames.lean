import OpenApiCodegen.Proofs.Lowering.ModelOrigins

namespace OpenApiCodegen.Lowering

open Api
open OpenApi (Schema Document NormalDocument)

/-- Trying the numbered names from `n` on, for as long as it takes, ends at this name. -/
inductive Finds (taken : List String) (base : String) : (n : Nat) → (name : String) → Prop
  | free {n : Nat} : numbered base n ∉ taken → Finds taken base n (numbered base n)
  | next {n : Nat} {name : String} :
      numbered base n ∈ taken → Finds taken base (n + 1) name → Finds taken base n name

section Search

variable {taken : List String} {base name name' : String} {n : Nat}

theorem Finds.unique (finds : Finds taken base n name) (finds' : Finds taken base n name') :
    name = name' := by
  induction finds with
  | free fresh =>
    cases finds' with
    | free => rfl
    | next occupied _ => exact absurd occupied fresh
  | next occupied _ ih =>
    cases finds' with
    | free fresh => exact absurd occupied fresh
    | next _ later => exact ih later

theorem finds_freshFrom {tries : Nat} (fresh : freshFrom taken base tries n ∉ taken) :
    Finds taken base n (freshFrom taken base tries n) := by
  induction tries generalizing n with
  | zero => exact .free fresh
  | succ tries ih =>
    unfold freshFrom at fresh ⊢
    by_cases occupied : numbered base n ∈ taken
    · rw [if_pos (List.contains_iff_mem.2 occupied)] at fresh ⊢
      exact .next occupied (ih fresh)
    · rw [if_neg (mt List.contains_iff_mem.1 occupied)]
      exact .free occupied

theorem finds_freshName (taken : List String) (base : String) :
    Finds taken base 1 (freshName taken base) :=
  finds_freshFrom (freshName_not_mem taken base)

end Search

/-- The model at the position did not come from a component. -/
def Synthesized (doc : Document) (api : Api) (id : Nat) : Prop :=
  ∀ entry ∈ modelled doc.components, ¬ IsModelOf doc api entry id

/-- Only the model at the position has the name, and no component, alias or not, is called so. -/
structure OwnName (doc : Document) (api : Api) (id : Nat) (name : String) : Prop where
  models : ∀ other model, api.models[other]? = some model → model.name = name → other = id
  components : ∀ entry ∈ doc.components, typeName entry.1 ≠ name

section Documents

variable {doc : NormalDocument} {api : Api} {id : Nat} {model : Model}

theorem synthesized_of_origin (at_ : api.models[id]? = some model) (origin : model.origin ≠ .component) :
    Synthesized doc.document api id :=
  fun _ _ made => origin (origin_of_component made at_)

theorem Synthesized.ownName (run : lower doc = .ok api) (at_ : api.models[id]? = some model)
    (synthesized : Synthesized doc.document api id) : OwnName doc.document api id model.name := by
  have unnamed : ∀ entry ∈ doc.document.components, typeName entry.1 ≠ model.name := by
    intro entry listed named
    obtain ⟨other, mem, -, made⟩ := exists_isModelOf_of_named run listed at_ named.symm
    exact synthesized other mem made
  constructor
  · intro other model' at' same
    by_contra apart
    -- models with one name have the name of a component
    obtain ⟨entry, listed, -, -, -, -, -, named, -⟩ := shared_of_namesakes run at' at_ apart same
    exact unnamed entry listed (named.trans same)
  · exact unnamed

end Documents

/-- Every call for a name of a new model ends, with the first numbered name that is not taken. In the
API of a document, a model that did not come from a component has a name of its own. -/
theorem synthesized_names_fresh :
    (∀ (owner hint : String) (draft : Draft), ∃ name,
      inlineName owner hint draft = some (name, draft.reserve name) ∧
        ∀ found, Finds draft.taken (owner ++ Text.pascalCase hint) 1 found ↔ found = name) ∧
    ∀ {doc : NormalDocument} {api : Api}, lower doc = .ok api →
      ∀ (id : Nat) (model : Model), api.models[id]? = some model →
        (model.origin ≠ .component → Synthesized doc.document api id) ∧
          (Synthesized doc.document api id → OwnName doc.document api id model.name) := by
  constructor
  · intro owner hint draft
    have ends := finds_freshName draft.taken (owner ++ Text.pascalCase hint)
    refine ⟨_, inlineName_eq_some.2 ⟨rfl, rfl⟩, fun found => ⟨fun finds => finds.unique ends, ?_⟩⟩
    rintro rfl
    exact ends
  · intro doc api run id model at_
    exact ⟨synthesized_of_origin at_, fun synthesized => synthesized.ownName run at_⟩

def recordOf (properties : List (String × Schema)) : Schema :=
  { properties := some properties }

/-- A pet has an owner with a contact of no name, and the name `PetOwner` is that of an alias. -/
def petDocument : Document :=
  declaring
    [("PetOwner", { typeNames := some (.single "string") }),
      ("Pet", recordOf [("owner", recordOf [("_", recordOf [("phone", {})])])])]

/-- The contact is made while the name of the owner is reserved only. -/
theorem petDocument_names :
    ∃ api, lower (.of petDocument) = .ok api ∧
      api.models.map (fun model => (model.name, model.origin)) =
        [("PetOwner22", .inlineObject), ("PetOwner2", .inlineObject), ("Pet", .component)] ∧
      OwnName petDocument api 0 "PetOwner22" ∧ OwnName petDocument api 1 "PetOwner2" := by
  have models : (lower (.of petDocument)).toOption.map (fun api =>
      api.models.map fun model => (model.name, model.origin)) = some
        [("PetOwner22", .inlineObject), ("PetOwner2", .inlineObject), ("Pet", .component)] := by
    rfl
  obtain ⟨api, run, models⟩ := exists_of_toOption_map models
  have own : ∀ {id name}, (api.models.map fun model => (model.name, model.origin))[id]? =
      some (name, .inlineObject) → OwnName petDocument api id name := by
    intro id name seen
    obtain ⟨model, at_, same⟩ := Option.map_eq_some_iff.1 (List.getElem?_map.symm.trans seen)
    obtain ⟨rfl, origin⟩ := Prod.mk.inj same
    obtain ⟨synthesized, own⟩ := synthesized_names_fresh.2 run id model at_
    exact own (synthesized (by simp [origin]))
  exact ⟨api, run, models, own (by simp [models]), own (by simp [models])⟩

end OpenApiCodegen.Lowering
