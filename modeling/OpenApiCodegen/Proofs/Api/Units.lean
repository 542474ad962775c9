import OpenApiCodegen.Generation
import OpenApiCodegen.Proofs.Api.Lookup
import OpenApiCodegen.Proofs.List.Firsts

namespace OpenApiCodegen.Api

variable {api : Api} {name : String} {id : Nat} {model : Model}

def Exposes (api : Api) (name : String) : Prop :=
  ∃ model ∈ api.models, model.name = name ∧ model.origin ≠ .composition

/-- What lowering makes sure of. A part of a composition shares its name with no other model. -/
structure Sound (api : Api) : Prop where
  variants : ∀ model ∈ api.models, ∀ discriminator, model.discriminator? = some discriminator →
    discriminator.variants ⊆ model.members
  types : ∀ model ∈ api.models, ∀ type ∈ model.types, ∀ name ∈ type.models, api.Exposes name
  parts : ∀ {i j : Nat} {part other : Model}, api.models[i]? = some part →
    api.models[j]? = some other → part.origin = .composition → part.name = other.name → i = j

theorem discriminator?_eq_some {discriminator : Discriminator} :
    model.discriminator? = some discriminator ↔ model.shape = .union discriminator := by
  unfold Model.discriminator?
  cases model.shape <;> simp

theorem mem_numbered {α : Type} {items : List α} {item : α} :
    (id, item) ∈ items.zipIdx.map (fun (item, id) => (id, item)) ↔ items[id]? = some item := by
  simp only [List.mem_map, Prod.mk.injEq, Prod.exists]
  constructor
  · rintro ⟨found, position, mem, rfl, rfl⟩
    exact List.mem_zipIdx_iff_getElem?.1 mem
  · intro at_
    exact ⟨item, id, List.mem_zipIdx_iff_getElem?.2 at_, rfl, rfl⟩

theorem mem_numberedModels : (id, model) ∈ api.numberedModels ↔ api.models[id]? = some model :=
  mem_numbered

theorem mem_includedOperations {target : Target} {operation : Operation} :
    (id, operation) ∈ api.includedOperations target ↔
      api.operations[id]? = some operation ∧ target.exclusion? api operation = none := by
  rw [includedOperations, List.mem_filter, numberedOperations, mem_numbered]
  simp

theorem mem_unitModels :
    (id, model) ∈ api.unitModels ↔
      api.models[id]? = some model ∧ isUnionOnly api id = false ∧ model.origin ≠ .composition := by
  simp [unitModels, hasUnit, mem_numberedModels]

theorem unitModels_ids_nodup (api : Api) : (api.unitModels.map (·.1)).Nodup := by
  have ids : api.numberedModels.map (·.1) = List.range' 0 api.models.length := by
    simp [numberedModels, List.map_map, Function.comp_def, List.zipIdx_map_snd]
  have whole : (api.numberedModels.map (·.1)).Nodup := ids ▸ List.nodup_range'
  exact whole.sublist (List.filter_sublist.map _)

theorem isUnionOnly_iff (at_ : api.models[id]? = some model) :
    isUnionOnly api id = true ↔
      api.modelId? model.name = some id ∧ unionsListing api model.name = 1 ∧
        model.name ∉ mentioned api := by
  simp [isUnionOnly, at_, and_assoc]

theorem position_unique {α : Type} {p : α → Bool} {items : List α} {i j : Nat} {a b : α}
    (one : items.countP p = 1) (first : items[i]? = some a) (second : items[j]? = some b)
    (counts : p a = true) (counts' : p b = true) : i = j := by
  have gone : ∀ {c : α} {rest : List α} {k : Nat}, (c :: rest).countP p = 1 → p c = true →
      rest[k]? = some a ∨ rest[k]? = some b → False := by
    intro c rest k one counted found
    simp only [List.countP_cons, counted, if_pos, Nat.add_eq_right, List.countP_eq_zero] at one
    rcases found with found | found
    · exact one a (List.mem_of_getElem? found) counts
    · exact one b (List.mem_of_getElem? found) counts'
  induction items generalizing i j with
  | nil => simp at first
  | cons c rest ih =>
    rcases i with _ | i <;> rcases j with _ | j
    · rfl
    · cases first
      exact (gone one counts (.inr second)).elim
    · cases second
      exact (gone one counts' (.inl first)).elim
    · by_cases counted : p c = true
      · exact (gone one counted (.inl first)).elim
      · rw [List.countP_cons_of_neg counted] at one
        rw [ih one first second]

theorem union_unique {i j : Nat} {union other : Model} (one : unionsListing api name = 1)
    (first : api.models[i]? = some union) (second : api.models[j]? = some other)
    (isUnion : union.isUnion = true) (isUnion' : other.isUnion = true) (lists : name ∈ union.members)
    (lists' : name ∈ other.members) : i = j :=
  position_unique one first second (by simp [isUnion, lists]) (by simp [isUnion', lists'])

theorem mem_mentioned_of_type {type : DataType} (mem : model ∈ api.models)
    (typed : type ∈ model.types) (named : name ∈ type.models) (other : name ≠ model.name) :
    name ∈ mentioned api := by
  have inside : name ∈ (model.types.flatMap DataType.models).filter (· != model.name) := by
    rw [List.mem_filter, List.mem_flatMap]
    exact ⟨⟨type, typed, named⟩, by simpa using other⟩
  refine List.mem_append_left _ (List.mem_flatMap.2 ⟨model, mem, ?_⟩)
  unfold Model.mentions
  split
  · exact inside
  · exact List.mem_append_left _ inside

theorem Model.mem_imports_of_type {type : DataType} (typed : type ∈ model.types)
    (named : name ∈ type.models) (other : name ≠ model.name) : name ∈ model.imports := by
  have inside : name ∈ model.types.flatMap DataType.models := List.mem_flatMap.2 ⟨type, typed, named⟩
  unfold Model.imports
  dsimp only
  split <;> simp [inside, other]

theorem Model.mem_imports_of_member (isUnion : model.isUnion = true) (member : name ∈ model.members)
    (other : name ≠ model.name) : name ∈ model.imports := by
  simp [Model.imports, isUnion, member, other]

/-- An exposed name stands for a model that has a unit, unless the model is for a union only. -/
theorem Sound.exists_unit (sound : api.Sound) (exposes : api.Exposes name) :
    ∃ id model, api.modelId? name = some id ∧ api.models[id]? = some model ∧ model.name = name ∧
      (isUnionOnly api id = false → (id, model) ∈ api.unitModels) := by
  obtain ⟨shown, mem, rfl, origin⟩ := exposes
  obtain ⟨id, model, last, at_, named⟩ := modelId?_of_mem mem
  -- the last model of the name is not a part, since a part has no namesakes
  refine ⟨id, model, last, at_, named, fun used => mem_unitModels.2 ⟨at_, used, fun part => ?_⟩⟩
  obtain ⟨j, at'⟩ := List.mem_iff_getElem?.1 mem
  obtain rfl := sound.parts at_ at' part named
  rw [at_, Option.some_inj] at at'
  exact origin (at' ▸ part)

theorem Sound.unit_of_type (sound : api.Sound) {type : DataType} (mem : model ∈ api.models)
    (typed : type ∈ model.types) (named : name ∈ type.models) (other : name ≠ model.name) :
    ∃ entry ∈ api.unitModels, entry.2.name = name := by
  have exposes := sound.types model mem type typed name named
  obtain ⟨id, found, last, at_, rfl, unit⟩ := sound.exists_unit exposes
  -- a model for a union only is mentioned nowhere else
  refine ⟨(id, found), unit (Bool.eq_false_iff.2 fun only => ?_), rfl⟩
  exact ((isUnionOnly_iff at_).1 only).2.2 (mem_mentioned_of_type mem typed named other)

end OpenApiCodegen.Api
