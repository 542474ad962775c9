import Mathlib.Data.List.Forall2
import Mathlib.Order.Defs.PartialOrder
import OpenApiCodegen.Lowering.Types
import OpenApiCodegen.Proofs.List.Search

namespace OpenApiCodegen.Lowering

open Api
open OpenApi (Schema SchemaKind componentName)

namespace Lower

variable {α β : Type} {draft draft' : Draft}

@[simp] theorem bind_eq_some {work : Lower α} {next : α → Lower β} {b : β} :
    (work >>= next) draft = some (b, draft') ↔
      ∃ a middle, work draft = some (a, middle) ∧ next a middle = some (b, draft') := by
  have unfolded : (work >>= next) draft = (work draft).bind fun p => next p.1 p.2 := rfl
  rw [unfolded]
  rcases work draft with _ | ⟨a, middle⟩ <;> simp [and_assoc]

@[simp] theorem pure_eq_some {a b : α} :
    (pure a : Lower α) draft = some (b, draft') ↔ a = b ∧ draft = draft' := by
  have unfolded : (pure a : Lower α) draft = some (a, draft) := rfl
  simp [unfolded]

@[simp] theorem map_eq_some {f : α → β} {work : Lower α} {b : β} :
    (f <$> work) draft = some (b, draft') ↔ ∃ a, work draft = some (a, draft') ∧ f a = b := by
  rw [map_eq_pure_bind, bind_eq_some]
  constructor
  · rintro ⟨a, middle, run, same⟩
    obtain ⟨rfl, rfl⟩ := pure_eq_some.1 same
    exact ⟨a, run, rfl⟩
  · rintro ⟨a, run, rfl⟩
    exact ⟨a, draft', run, pure_eq_some.2 ⟨rfl, rfl⟩⟩

@[simp] theorem get_eq_some {seen : Draft} :
    (get : Lower Draft) draft = some (seen, draft') ↔ draft = seen ∧ draft = draft' := by
  have unfolded : (get : Lower Draft) draft = some (draft, draft) := rfl
  simp [unfolded]

end Lower

def Draft.reserve (draft : Draft) (name : String) : Draft :=
  { draft with taken := name :: draft.taken }

def Draft.push (draft : Draft) (model : Model) : Draft :=
  ⟨model :: draft.models, model.name :: draft.taken⟩

@[simp] theorem pushModel_eq_some {model : Model} {draft draft' : Draft} {done : Unit} :
    pushModel model draft = some (done, draft') ↔ draft.push model = draft' := by
  have unfolded : pushModel model draft = some ((), draft.push model) := rfl
  simp [unfolded]

@[simp] theorem inlineName_eq_some {owner hint name : String} {draft draft' : Draft} :
    inlineName owner hint draft = some (name, draft') ↔
      name = freshName draft.taken (owner ++ Text.pascalCase hint) ∧ draft.reserve name = draft' := by
  have unfolded : inlineName owner hint draft =
      some (freshName draft.taken (owner ++ Text.pascalCase hint),
        draft.reserve (freshName draft.taken (owner ++ Text.pascalCase hint))) := rfl
  rw [unfolded]
  constructor
  · intro same
    cases same
    exact ⟨rfl, rfl⟩
  · rintro ⟨rfl, rfl⟩
    rfl

namespace Draft

/-- One draft comes before another when the later one only has more models and more names. -/
instance : Preorder Draft where
  le draft draft' := draft.models <:+ draft'.models ∧ draft.taken <:+ draft'.taken
  le_refl draft := ⟨List.suffix_refl _, List.suffix_refl _⟩
  le_trans _ _ _ first second := ⟨first.1.trans second.1, first.2.trans second.2⟩

theorem le_reserve (draft : Draft) (name : String) : draft ≤ draft.reserve name :=
  ⟨List.suffix_refl _, List.suffix_cons _ _⟩

theorem le_push (draft : Draft) (model : Model) : draft ≤ draft.push model :=
  ⟨List.suffix_cons _ _, List.suffix_cons _ _⟩

theorem mem_models_of_le {draft draft' : Draft} {model : Model} (le : draft ≤ draft')
    (mem : model ∈ draft.models) : model ∈ draft'.models :=
  le.1.subset mem

theorem mem_taken_of_le {draft draft' : Draft} {name : String} (le : draft ≤ draft')
    (mem : name ∈ draft.taken) : name ∈ draft'.taken :=
  le.2.subset mem

end Draft

/-- What holds of the drafts before and after each step holds of those before and after a run. -/
structure Composes (R : Draft → Draft → Prop) : Prop where
  refl : ∀ draft, R draft draft
  trans : ∀ {a b c}, R a b → R b c → R a c

theorem composes_true : Composes fun _ _ => True :=
  ⟨fun _ => trivial, fun _ _ => trivial⟩

section Lists

variable {α β : Type} {R : Draft → Draft → Prop}

theorem mapM_run (composes : Composes R) {f : α → Lower β} {items : List α}
    (step : ∀ item ∈ items, ∀ draft b draft', f item draft = some (b, draft') → R draft draft')
    {draft draft' : Draft} {results : List β} (run : items.mapM f draft = some (results, draft')) :
    R draft draft' ∧ List.Forall₂ (fun item result => ∃ before after, R draft before ∧
      f item before = some (result, after) ∧ R after draft') items results := by
  induction items generalizing draft results with
  | nil =>
    simp only [List.mapM_nil, Lower.pure_eq_some] at run
    obtain ⟨rfl, rfl⟩ := run
    exact ⟨composes.refl draft, .nil⟩
  | cons item rest ih =>
    simp only [List.mapM_cons, Lower.bind_eq_some, Lower.pure_eq_some] at run
    obtain ⟨b, middle, first, later, last, others, rfl, rfl⟩ := run
    have head := step item (by simp) _ _ _ first
    obtain ⟨tail, each⟩ := ih (fun item mem => step item (by simp [mem])) others
    refine ⟨composes.trans head tail,
      .cons ⟨draft, middle, composes.refl draft, first, tail⟩ ?_⟩
    exact each.imp fun item result ⟨before, after, start, run, finish⟩ =>
      ⟨before, after, composes.trans head start, run, finish⟩

theorem forM_run (composes : Composes R) {f : α → Lower Unit} {items : List α}
    (step : ∀ item ∈ items, ∀ draft draft', f item draft = some ((), draft') → R draft draft')
    {draft draft' : Draft} (run : items.forM f draft = some ((), draft')) :
    R draft draft' ∧ ∀ item ∈ items, ∃ before after, R draft before ∧
      f item before = some ((), after) ∧ R after draft' := by
  induction items generalizing draft with
  | nil =>
    obtain ⟨-, rfl⟩ := Lower.pure_eq_some.1 run
    exact ⟨composes.refl draft, by simp⟩
  | cons item rest ih =>
    obtain ⟨⟨⟩, middle, first, others⟩ := Lower.bind_eq_some.1 run
    have head := step item (by simp) _ _ first
    obtain ⟨tail, each⟩ := ih (fun item mem => step item (by simp [mem])) others
    refine ⟨composes.trans head tail, ?_⟩
    simp only [List.mem_cons, forall_eq_or_imp]
    refine ⟨⟨draft, middle, composes.refl draft, first, tail⟩, fun item mem => ?_⟩
    obtain ⟨before, after, start, run, finish⟩ := each item mem
    exact ⟨before, after, composes.trans head start, run, finish⟩

theorem foldlM_eq_mapM {σ : Type} (take : σ → β → σ) (f : α → Lower β) (items : List α) (start : σ) :
    items.foldlM (fun state item => take state <$> f item) start =
      (fun results => results.foldl take start) <$> items.mapM f := by
  induction items generalizing start with
  | nil => simp
  | cons item rest ih => simp [ih]

end Lists

end OpenApiCodegen.Lowering
