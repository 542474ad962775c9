import OpenApiCodegen.Proofs.Lowering.References

namespace OpenApiCodegen.Lowering

open Api
open OpenApi (Schema SchemaKind Document componentName)

/-- A schema that is a reference and nothing else. -/
def reference (ref : String) : Schema :=
  { ref := some ref }

inductive Settles (components : List (String × Schema)) : Schema → (depth : Nat) → DataType → Prop
  | settled {schema : Schema} {depth : Nat} {type : DataType} :
      plan components schema depth = .settled type → Settles components schema depth type
  | onward {schema next : Schema} {depth : Nat} {passage : Passage} {type : DataType} :
      plan components schema depth = .onward passage next →
        Settles components next (passage.depth depth) type →
          Settles components schema depth (passage.wrap type)

/-- A component that is an alias stands for one type at both depths, and for no model of its own. -/
def StandsForOneType (components : List (String × Schema)) (key : String) (depth depth' : Nat) : Prop :=
  ∀ target ∈ components.lookup key, target.kind = .typeAlias →
    ∃ type, Settles components target depth type ∧ Settles components target depth' type

section Expansion

variable {components : List (String × Schema)} {scope : Scope} {schema target : Schema}
  {n depth : Nat} {type type' : DataType} {owner hint ref : String} {origin : Origin}
  {draft draft' : Draft}

theorem Settles.unique (one : Settles components schema depth type)
    (other : Settles components schema depth type') : type = type' := by
  induction one generalizing type' with
  | settled planned =>
    cases other with
    | settled planned' =>
      rw [planned] at planned'
      cases planned'
      rfl
    | onward planned' _ =>
      rw [planned] at planned'
      cases planned'
  | onward planned _ ih =>
    cases other with
    | settled planned' =>
      rw [planned] at planned'
      cases planned'
    | onward planned' rest =>
      rw [planned] at planned'
      cases planned'
      rw [ih rest]

theorem Settles.component_of_mem (settles : Settles components schema depth type) {name : String}
    (mem : name ∈ type.models) : name ∈ components.map fun entry => typeName entry.1 := by
  induction settles with
  | settled planned =>
    have known : TypeHas (Known components) ⟨[], []⟩ _ := .of_settled nameRule_known planned
    rcases known name mem with lowered | ⟨entry, inside, -, same⟩
    · simp [isLowered] at lowered
    · exact List.mem_map.2 ⟨entry, inside, same⟩
  | onward _ _ ih =>
    rw [Passage.models_wrap] at mem
    exact ih mem

theorem typeOf_of_settles (settles : Settles scope.components schema depth type)
    (run : typeOf n scope schema owner hint origin depth draft = some (type', draft')) :
    type = type' ∧ draft = draft' := by
  induction settles generalizing n owner hint origin type' with
  | settled planned =>
    cases n with
    | zero => cases run
    | succ n =>
      rw [typeOf_succ, planned] at run
      exact Lower.pure_eq_some.1 run
  | onward planned _ ih =>
    cases n with
    | zero => cases run
    | succ n =>
      rw [typeOf_succ, planned] at run
      obtain ⟨inner, typed, rfl⟩ := Lower.map_eq_some.1 run
      obtain ⟨rfl, rfl⟩ := ih typed
      exact ⟨rfl, rfl⟩

theorem typeOf_fresh (unsettled : ∀ type, ¬ Settles scope.components schema depth type)
    (run : typeOf n scope schema owner hint origin depth draft = some (type, draft')) :
    ∃ name, type.models = [name] ∧ name ∉ draft.taken ∧ name ∈ draft'.taken := by
  induction n generalizing schema owner hint origin depth type with
  | zero => cases run
  | succ n ih =>
    rw [typeOf_succ] at run
    cases planned : plan scope.components schema depth with
    | settled settled => exact absurd (.settled planned) (unsettled settled)
    | onward passage next =>
      rw [planned] at run
      obtain ⟨inner, typed, rfl⟩ := Lower.map_eq_some.1 run
      rw [Passage.models_wrap]
      exact ih (fun type settles => unsettled _ (.onward planned settles)) typed
    | make kind =>
      rw [planned] at run
      obtain ⟨name, model, middle, rfl, made, rfl, rfl⟩ := Plan.carryOut_make_run run
      rw [← name_of_modelOf made]
      refine ⟨model.name, rfl, ?_, List.mem_cons_self⟩
      rw [name_of_modelOf made]
      exact freshName_not_mem _ _

theorem settles_reference_alias (written : schema.ref = some ref) (shallow : depth ≤ maxDepth)
    (looked : components.lookup (componentName ref) = some target) (kind : target.kind = .typeAlias) :
    Settles components schema depth type ↔ Settles components target (depth + 1) type := by
  have planned : plan components schema depth = .onward (.reference (componentName ref)) target := by
    rw [plan_reference components written shallow, looked]
    exact if_pos kind
  constructor
  · intro settles
    cases settles with
    | settled planned' =>
      rw [planned] at planned'
      cases planned'
    | onward planned' rest =>
      rw [planned] at planned'
      cases planned'
      exact rest
  · exact fun rest => .onward planned rest

theorem settle_together_iff {schema' : Schema} {ref' : String} {depth' : Nat}
    (written : schema.ref = some ref) (written' : schema'.ref = some ref')
    (same : componentName ref' = componentName ref) (shallow : depth ≤ maxDepth)
    (shallow' : depth' ≤ maxDepth) :
    (∃ type, Settles components schema depth type ∧ Settles components schema' depth' type) ↔
      StandsForOneType components (componentName ref) (depth + 1) (depth' + 1) := by
  unfold StandsForOneType
  have planned := plan_reference components written shallow
  have planned' := plan_reference components written' shallow'
  rw [same] at planned'
  cases looked : components.lookup (componentName ref) with
  | none =>
    rw [looked] at planned planned'
    exact iff_of_true ⟨_, .settled planned, .settled planned'⟩ (by simp)
  | some target =>
    rw [looked] at planned planned'
    dsimp only at planned planned'
    by_cases kind : target.kind = .typeAlias
    · simp only [settles_reference_alias written shallow looked kind,
        settles_reference_alias written' shallow' (same ▸ looked) kind, Option.mem_def,
        Option.some.injEq, forall_eq', kind, forall_const]
    · rw [if_neg kind] at planned planned'
      exact iff_of_true ⟨_, .settled planned, .settled planned'⟩ (by simp [kind])

end Expansion

section References

variable {doc : Document} {schema schema' : Schema} {n n' depth depth' : Nat}
  {type type' : DataType} {active active' : List String} {owner owner' hint hint' ref ref' : String}
  {origin origin' : Origin} {a b a' b' : Draft}

theorem ne_of_settles_of_fresh {components : List (String × Schema)} {draft : Draft}
    (reserved : components.map (fun entry => typeName entry.1) ⊆ draft.taken)
    (settles : Settles components schema depth type)
    {name : String} (mentions : type'.models = [name]) (fresh : name ∉ draft.taken) : type ≠ type' := by
  rintro rfl
  have mem : name ∈ type.models := by simp [mentions]
  exact fresh (reserved (settles.component_of_mem mem))

/-- References to one component, wherever they are and whatever has been made before: they have one
type if the component stands for one, and otherwise the later one has a type of its own. -/
theorem reference_types (written : schema.ref = some ref) (written' : schema'.ref = some ref')
    (same : componentName ref' = componentName ref) (shallow : depth ≤ maxDepth)
    (shallow' : depth' ≤ maxDepth) (started : Draft.start doc ≤ a)
    (run : typeOf n ⟨doc.components, active⟩ schema owner hint origin depth a = some (type, b))
    (run' : typeOf n' ⟨doc.components, active'⟩ schema' owner' hint' origin' depth' a' =
      some (type', b')) :
    (StandsForOneType doc.components (componentName ref) (depth + 1) (depth' + 1) → type = type') ∧
      (¬ StandsForOneType doc.components (componentName ref) (depth + 1) (depth' + 1) → b ≤ a' →
        type ≠ type') := by
  rw [← settle_together_iff written written' same shallow shallow']
  constructor
  · rintro ⟨settled, settles, settles'⟩
    obtain ⟨rfl, -⟩ := typeOf_of_settles settles run
    exact (typeOf_of_settles settles' run').1
  · intro apart later
    have reserved : doc.components.map (fun entry => typeName entry.1) ⊆ a.taken :=
      started.2.subset
    have reserved' : doc.components.map (fun entry => typeName entry.1) ⊆ a'.taken :=
      fun name mem => Draft.mem_taken_of_le (le_trans (typeOf_le run) later) (reserved mem)
    by_cases settles : ∃ type, Settles doc.components schema depth type
    · obtain ⟨settled, settles⟩ := settles
      obtain ⟨rfl, -⟩ := typeOf_of_settles settles run
      by_cases settles' : ∃ type, Settles doc.components schema' depth' type
      · obtain ⟨settled', settles'⟩ := settles'
        obtain ⟨rfl, -⟩ := typeOf_of_settles settles' run'
        rintro rfl
        exact apart ⟨_, settles, settles'⟩
      · obtain ⟨name, mentions, fresh, -⟩ := typeOf_fresh (not_exists.1 settles') run'
        exact ne_of_settles_of_fresh reserved' settles mentions fresh
    · obtain ⟨name, mentions, fresh, taken⟩ := typeOf_fresh (not_exists.1 settles) run
      by_cases settles' : ∃ type, Settles doc.components schema' depth' type
      · obtain ⟨settled', settles'⟩ := settles'
        obtain ⟨rfl, -⟩ := typeOf_of_settles settles' run'
        exact (ne_of_settles_of_fresh reserved settles' mentions fresh).symm
      · obtain ⟨name', mentions', fresh', -⟩ := typeOf_fresh (not_exists.1 settles') run'
        rintro rfl
        obtain rfl : name = name' := by simpa [mentions] using mentions'
        exact fresh' (Draft.mem_taken_of_le later taken)

end References

def tagsReference : Schema := { ref := some "#/components/schemas/Tags" }

/-- The alias `Tags` is a list of objects, and a post refers to it twice. -/
def sharedTags : Document where
  openapi := none
  info := none
  paths := []
  schemas := some
    [("Tags",
        { typeNames := some (.single "array")
          items := some { properties := some [("label", { typeNames := some (.single "string") })] } }),
      ("Post", { properties := some [("own", tagsReference), ("shared", tagsReference)] })]
  tags := []
  source := none

/-- Its two properties do not have one type. -/
theorem sharedTags_types :
    ((OpenApi.NormalDocument.of sharedTags).document.components.lookup "Post").map
        (fun post => post.propertySchemas.map (·.ref)) =
      some [tagsReference.ref, tagsReference.ref] ∧
    (lower (.of sharedTags)).toOption.map
        (fun api => api.models.map fun model => (model.name, model.properties.map (·.type))) =
      some
        [("TagsItem", [.text]), ("TagsItem2", [.text]),
          ("Post", [.array (.model "TagsItem"), .array (.model "TagsItem2")])] := by
  decide

theorem sharedTags_not_standsForOneType : ¬ StandsForOneType sharedTags.components "Tags" 1 1 := by
  intro one
  obtain ⟨type, settles, -⟩ := one _ (by rfl) (by decide)
  cases settles with
  | settled planned => cases planned
  | onward planned rest =>
    cases planned
    cases rest with
    | settled planned => cases planned
    | onward planned _ => cases planned

theorem sharedTags_references_differ :
    ∃ type type' b b',
      typeOf 9 ⟨sharedTags.components, []⟩ tagsReference "Post" "own" .inlineObject 0
          (Draft.start sharedTags) = some (type, b) ∧
        typeOf 9 ⟨sharedTags.components, []⟩ tagsReference "Post" "shared" .inlineObject 0 b =
            some (type', b') ∧
          type ≠ type' := by
  have ends : ((typeOf 9 ⟨sharedTags.components, []⟩ tagsReference "Post" "own" .inlineObject 0
      (Draft.start sharedTags)).bind fun result =>
        typeOf 9 ⟨sharedTags.components, []⟩ tagsReference "Post" "shared" .inlineObject 0
          result.2).isSome = true := by
    rfl
  obtain ⟨⟨type', b'⟩, both⟩ := Option.isSome_iff_exists.1 ends
  obtain ⟨⟨type, b⟩, run, run'⟩ := Option.bind_eq_some_iff.1 both
  refine ⟨type, type', b, b', run, run', ?_⟩
  have named : componentName "#/components/schemas/Tags" = "Tags" := by rfl
  have written : tagsReference.ref = some "#/components/schemas/Tags" := rfl
  have refers := reference_types written written rfl (by decide) (by decide) (le_refl _) run run'
  exact refers.2 (named ▸ sharedTags_not_standsForOneType) (le_refl b)

end OpenApiCodegen.Lowering
