import Mathlib.Data.List.Nodup
import OpenApiCodegen.Proofs.Api.Units

namespace OpenApiCodegen.Api

/-- A model that is declared in the unit at `unit`, as a variant if the unit is that of a union. -/
structure Placement where
  unit : Nat
  id : Nat
  model : Model
  asVariant : Bool

def ownVariant? (api : Api) (name : String) : Option (Nat × Model) :=
  (api.modelId? name).bind fun id =>
    if isUnionOnly api id then (api.models[id]?).map fun model => (id, model) else none

def ownVariants (api : Api) (discriminator : Discriminator) : List (Nat × Model) :=
  discriminator.variants.filterMap (ownVariant? api)

def variantsIn (api : Api) (model : Model) : List (Nat × Model) :=
  match model.discriminator? with
  | some discriminator => ownVariants api discriminator
  | none => []

def writtenModels (api : Api) (model : Model) : List Model :=
  model :: (variantsIn api model).map (·.2)

def placementsOf (api : Api) (unit : Nat × Model) : List Placement :=
  (variantsIn api unit.2).map (fun entry => ⟨unit.1, entry.1, entry.2, true⟩) ++
    [⟨unit.1, unit.1, unit.2, false⟩]

def placements (api : Api) : List Placement :=
  api.unitModels.flatMap (placementsOf api)

/-- The model at a position has one place in all units, where it has its shape: its own unit, or that
of the union that lists it if there is nothing else to mention it. -/
def DeclaredOnce (api : Api) (shows : Placement → Prop) (id : Nat) (model : Model) : Prop :=
  ∃ place, api.placements.filter (·.model.name = model.name) = [place] ∧ place.id = id ∧
    shows place ∧
      if isUnionOnly api id then
        place.asVariant = true ∧ ∃ union, api.models[place.unit]? = some union ∧
          union.isUnion = true ∧ model.name ∈ union.members
      else place.asVariant = false ∧ place.unit = id

def DeclaresAll (api : Api) (shows : Placement → Prop) : Prop :=
  ∀ id model, api.models[id]? = some model → model.origin ≠ .composition →
    api.DeclaredOnce shows id model

/-- Names are distinct, and the models without a unit are records that some union with a unit maps a
value to. -/
structure Placeable (api : Api) : Prop where
  distinct : api.NamesDistinct
  variants : ∀ id model, api.models[id]? = some model → model.origin ≠ .composition →
    isUnionOnly api id = true → model.isRecord = true ∧ ∃ unit ∈ api.unitModels,
      ∃ discriminator ∈ unit.2.discriminator?, model.name ∈ discriminator.variants

instance (api : Api) : Decidable api.Placeable :=
  decidable_of_iff (api.NamesDistinct ∧ ∀ entry ∈ api.numberedModels,
      entry.2.origin ≠ .composition → isUnionOnly api entry.1 = true → entry.2.isRecord = true ∧
        ∃ unit ∈ api.unitModels, ∃ discriminator ∈ unit.2.discriminator?,
          entry.2.name ∈ discriminator.variants)
    ⟨fun holds => ⟨holds.1, fun id model at_ => holds.2 (id, model) (mem_numberedModels.2 at_)⟩,
      fun placeable => ⟨placeable.distinct, fun entry mem =>
        placeable.variants entry.1 entry.2 (mem_numberedModels.1 mem)⟩⟩

variable {api : Api} {id : Nat} {model variant : Model} {discriminator : Discriminator}
  {place : Placement}

theorem ownVariant?_eq_some {name : String} :
    ownVariant? api name = some (id, variant) ↔
      variant.name = name ∧ isUnionOnly api id = true ∧ api.models[id]? = some variant := by
  unfold ownVariant?
  rw [Option.bind_eq_some_iff]
  constructor
  · rintro ⟨found, last, rest⟩
    split at rest
    · rename_i only
      obtain ⟨other, at_, same⟩ := Option.map_eq_some_iff.1 rest
      cases same
      exact ⟨name_of_modelId? last at_, only, at_⟩
    · cases rest
  · rintro ⟨rfl, only, at_⟩
    exact ⟨id, ((isUnionOnly_iff at_).1 only).1, by simp [only, at_]⟩

theorem mem_ownVariants :
    (id, variant) ∈ ownVariants api discriminator ↔
      variant.name ∈ discriminator.variants ∧ isUnionOnly api id = true ∧
        api.models[id]? = some variant := by
  simp only [ownVariants, List.mem_filterMap, ownVariant?_eq_some]
  constructor
  · rintro ⟨_, mem, rfl, only, at_⟩
    exact ⟨mem, only, at_⟩
  · rintro ⟨mem, only, at_⟩
    exact ⟨variant.name, mem, rfl, only, at_⟩

theorem ownVariants_nodup (api : Api) (discriminator : Discriminator) :
    (ownVariants api discriminator).Nodup := by
  refine (firsts_nodup _).filterMap fun name name' entry found found' => ?_
  exact (ownVariant?_eq_some.1 found).1.symm.trans (ownVariant?_eq_some.1 found').1

theorem mem_variantsIn :
    (id, variant) ∈ variantsIn api model ↔
      ∃ discriminator, model.discriminator? = some discriminator ∧
        variant.name ∈ discriminator.variants ∧ isUnionOnly api id = true ∧
          api.models[id]? = some variant := by
  unfold variantsIn
  cases model.discriminator? with
  | none => simp
  | some discriminator => simp [mem_ownVariants]

theorem mem_writtenModels {written : Model} :
    written ∈ writtenModels api model ↔
      written = model ∨ ∃ id, (id, written) ∈ variantsIn api model := by
  simp [writtenModels]

theorem mem_models_of_written {written : Model} (mem : model ∈ api.models)
    (inside : written ∈ writtenModels api model) : written ∈ api.models := by
  rcases mem_writtenModels.1 inside with rfl | ⟨id, variant⟩
  · exact mem
  · obtain ⟨-, -, -, -, at_⟩ := mem_variantsIn.1 variant
    exact List.mem_of_getElem? at_

theorem mem_placements :
    place ∈ api.placements ↔ ∃ unit ∈ api.unitModels,
      (∃ entry ∈ variantsIn api unit.2, place = ⟨unit.1, entry.1, entry.2, true⟩) ∨
        place = ⟨unit.1, unit.1, unit.2, false⟩ := by
  simp [placements, placementsOf, eq_comm]

theorem flatMap_placementsOf {δ : Type} (api : Api) (unit : Nat × Model)
    {declare : Placement → List δ} (variant : Model → δ)
    (single : ∀ place, place.asVariant = true → declare place = [variant place.model]) :
    (placementsOf api unit).flatMap declare = ((variantsIn api unit.2).map (·.2)).map variant ++
      declare ⟨unit.1, unit.1, unit.2, false⟩ := by
  rw [placementsOf, List.flatMap_append, List.flatMap_singleton]
  congr 1
  induction variantsIn api unit.2 with
  | nil => rfl
  | cons entry rest ih => simpa [single] using ih

theorem placements_nodup (api : Api) : api.placements.Nodup := by
  refine List.nodup_flatMap.2 ⟨fun unit _ => ?_, ?_⟩
  · have variants : (variantsIn api unit.2).Nodup := by
      unfold variantsIn
      split
      · exact ownVariants_nodup api _
      · exact List.nodup_nil
    refine List.nodup_append.2 ⟨variants.map ?_, List.nodup_singleton _, ?_⟩
    · intro entry entry' same
      injection same with _ first second
      exact Prod.ext first second
    · intro place mem other mem'
      obtain ⟨entry, -, rfl⟩ := List.mem_map.1 mem
      rw [List.mem_singleton.1 mem']
      simp
  · have units := List.pairwise_map.1 (unitModels_ids_nodup api)
    refine units.imp fun {unit unit'} apart => List.disjoint_left.2 ?_
    intro place mem mem'
    have unit_eq : ∀ {unit : Nat × Model}, place ∈ placementsOf api unit → place.unit = unit.1 := by
      intro unit mem
      rcases List.mem_append.1 mem with mem | mem
      · obtain ⟨entry, -, rfl⟩ := List.mem_map.1 mem
        rfl
      · rw [List.mem_singleton.1 mem]
    exact apart ((unit_eq mem).symm.trans (unit_eq mem'))

theorem getElem?_of_mem_placements (mem : place ∈ api.placements) :
    api.models[place.id]? = some place.model := by
  obtain ⟨unit, listed, ⟨entry, inside, rfl⟩ | rfl⟩ := mem_placements.1 mem
  · obtain ⟨-, -, -, -, at_⟩ := mem_variantsIn.1 inside
    exact at_
  · exact (mem_unitModels.1 listed).1

theorem isUnion_of_discriminator? (shape : model.discriminator? = some discriminator) :
    model.isUnion = true := by
  rw [Model.isUnion, discriminator?_eq_some.1 shape]

theorem Sound.placement_eq (sound : api.Sound) {other : Placement} (mem : place ∈ api.placements)
    (mem' : other ∈ api.placements) (same : place.id = other.id) : place = other := by
  obtain ⟨⟨unit, top⟩, listed, ⟨⟨id, model⟩, inside, rfl⟩ | rfl⟩ := mem_placements.1 mem <;>
    obtain ⟨⟨unit', top'⟩, listed', ⟨⟨id', model'⟩, inside', rfl⟩ | rfl⟩ := mem_placements.1 mem' <;>
    dsimp only at same <;> subst same <;>
    have first := mem_unitModels.1 listed <;> have second := mem_unitModels.1 listed'
  · -- two variants: only one union lists the model
    obtain ⟨discriminator, shape, mapped, only, at_⟩ := mem_variantsIn.1 inside
    obtain ⟨discriminator', shape', mapped', -, at'⟩ := mem_variantsIn.1 inside'
    rw [at_, Option.some_inj] at at'
    obtain rfl : model = model' := at'
    have lists := sound.variants _ (List.mem_of_getElem? first.1) _ shape mapped
    have lists' := sound.variants _ (List.mem_of_getElem? second.1) _ shape' mapped'
    have one := ((isUnionOnly_iff at_).1 only).2.1
    rw [union_unique one first.1 second.1 (isUnion_of_discriminator? shape)
      (isUnion_of_discriminator? shape') lists lists']
  · -- a variant and a model with a unit: the second is not for a union only
    obtain ⟨-, -, -, only, -⟩ := mem_variantsIn.1 inside
    exact absurd only (by simp [second.2.1])
  · obtain ⟨-, -, -, only, -⟩ := mem_variantsIn.1 inside'
    exact absurd only (by simp [first.2.1])
  · have same : top = top' := Option.some_inj.1 (first.1.symm.trans second.1)
    rw [same]

theorem Sound.filter_placements (sound : api.Sound) (distinct : api.NamesDistinct)
    (mem : place ∈ api.placements) :
    api.placements.filter (·.model.name = place.model.name) = [place] := by
  have nodup := (placements_nodup api).filter (·.model.name = place.model.name)
  refine List.perm_singleton.1 ((List.perm_ext_iff_of_nodup nodup (List.nodup_singleton _)).2 ?_)
  intro other
  simp only [List.mem_filter, decide_eq_true_eq, List.mem_singleton]
  constructor
  · rintro ⟨mem', same⟩
    exact sound.placement_eq mem' mem (distinct.id_eq (getElem?_of_mem_placements mem')
      (getElem?_of_mem_placements mem) same)
  · rintro rfl
    exact ⟨mem, rfl⟩

theorem namesDistinct_of_declaresAll {shows : Placement → Prop} (sound : api.Sound)
    (all : api.DeclaresAll shows) : api.NamesDistinct := by
  refine namesDistinct_of_id_eq fun {i j model other} first second same => ?_
  by_cases part : model.origin = .composition
  · exact sound.parts first second part same
  by_cases part' : other.origin = .composition
  · exact (sound.parts second first part' same.symm).symm
  obtain ⟨place, alone, rfl, -⟩ := all i model first part
  obtain ⟨place', alone', rfl, -⟩ := all j other second part'
  rw [same, alone', List.cons.injEq] at alone
  rw [alone.1]

theorem DeclaresAll.exists_place {shows : Placement → Prop} (all : api.DeclaresAll shows)
    (at_ : api.models[id]? = some model) (origin : model.origin ≠ .composition) :
    model.name ∈ api.placements.map (·.model.name) := by
  obtain ⟨place, alone, -⟩ := all id model at_ origin
  have mem : place ∈ api.placements.filter (·.model.name = model.name) := by simp [alone]
  obtain ⟨mem, named⟩ := List.mem_filter.1 mem
  exact List.mem_map.2 ⟨place, mem, by simpa using named⟩

/-- All models are declared once exactly if they are placeable, however a place shows a model, as long
as its own unit does and the unit of a union does for records alone. -/
theorem declaresAll_iff {shows : Placement → Prop} (sound : api.Sound)
    (own : ∀ place ∈ api.placements, place.asVariant = false → shows place)
    (variant : ∀ place ∈ api.placements, place.asVariant = true →
      (shows place ↔ place.model.isRecord = true)) :
    api.DeclaresAll shows ↔ api.Placeable := by
  constructor
  · intro all
    refine ⟨namesDistinct_of_declaresAll sound all, fun id model at_ origin only => ?_⟩
    obtain ⟨place, alone, rfl, shown, rest⟩ := all id model at_ origin
    rw [if_pos only] at rest
    have mem : place ∈ api.placements :=
      List.mem_of_mem_filter (alone ▸ List.mem_singleton_self place)
    have same := getElem?_of_mem_placements mem
    rw [at_, Option.some_inj] at same
    obtain ⟨unit, listed, ⟨entry, inside, rfl⟩ | rfl⟩ := mem_placements.1 mem
    · obtain ⟨discriminator, shape, mapped, -, -⟩ := mem_variantsIn.1 inside
      exact ⟨same ▸ (variant _ mem rest.1).1 shown, unit, listed, discriminator, shape, same ▸ mapped⟩
    · cases rest.1
  · intro placeable id model at_ origin
    by_cases only : isUnionOnly api id = true
    · obtain ⟨isRecord, unit, listed, discriminator, shape, mapped⟩ :=
        placeable.variants id model at_ origin only
      have inside : (id, model) ∈ variantsIn api unit.2 :=
        mem_variantsIn.2 ⟨discriminator, shape, mapped, only, at_⟩
      have mem : ⟨unit.1, id, model, true⟩ ∈ api.placements :=
        mem_placements.2 ⟨unit, listed, .inl ⟨(id, model), inside, rfl⟩⟩
      have alone := sound.filter_placements placeable.distinct mem
      have union := (mem_unitModels.1 listed).1
      refine ⟨_, alone, rfl, (variant _ mem rfl).2 isRecord, ?_⟩
      rw [if_pos only]
      exact ⟨rfl, unit.2, union, isUnion_of_discriminator? shape,
        sound.variants _ (List.mem_of_getElem? union) _ shape mapped⟩
    · have unit : (id, model) ∈ api.unitModels :=
        mem_unitModels.2 ⟨at_, Bool.eq_false_iff.2 only, origin⟩
      have mem : ⟨id, id, model, false⟩ ∈ api.placements :=
        mem_placements.2 ⟨(id, model), unit, .inr rfl⟩
      refine ⟨_, sound.filter_placements placeable.distinct mem, rfl, own _ mem rfl, ?_⟩
      rw [if_neg only]
      exact ⟨rfl, rfl⟩

end OpenApiCodegen.Api
