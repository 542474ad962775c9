import OpenApiCodegen.Proofs.Lowering.DocumentRuns

namespace OpenApiCodegen.Lowering

open Api
open OpenApi (Schema SchemaKind componentName)

/-- Names have `K` when they are names of components with models, or of models just made whose origin
is good. -/
structure NameRule (components : List (String × Schema)) (Good : Origin → Prop)
    (K : Draft → String → Prop) : Prop where
  lasting : Lasting K
  component : ∀ {draft : Draft} {key target}, components.lookup key = some target →
    target.kind ≠ .typeAlias → K draft (typeName key)
  made : ∀ {draft : Draft} {model : Model}, Good model.origin → K (draft.push model) model.name
  inlineObject : Good .inlineObject
  ofComponent : Good .component

def TypeHas (K : Draft → String → Prop) (draft : Draft) (type : DataType) : Prop :=
  ∀ name ∈ type.models, K draft name

def ModelHas (K : Draft → String → Prop) (draft : Draft) (model : Model) : Prop :=
  ∀ type ∈ model.types, TypeHas K draft type

def AllHave (K : Draft → String → Prop) (draft : Draft) : Prop :=
  ∀ model ∈ draft.models, ModelHas K draft model

section Growth

variable {K : Draft → String → Prop} {draft draft' : Draft}

theorem TypeHas.mono {type : DataType} (lasting : Lasting K) (le : draft ≤ draft')
    (has : TypeHas K draft type) : TypeHas K draft' type :=
  fun name mem => lasting le (has name mem)

theorem TypeHas.of_models_nil {type : DataType} (none : type.models = []) : TypeHas K draft type := by
  intro name mem
  rw [none] at mem
  cases mem

theorem ModelHas.mono {model : Model} (lasting : Lasting K) (le : draft ≤ draft')
    (has : ModelHas K draft model) : ModelHas K draft' model :=
  fun type mem => (has type mem).mono lasting le

theorem AllHave.reserve {name : String} (lasting : Lasting K) (all : AllHave K draft) :
    AllHave K (draft.reserve name) :=
  fun model mem => (all model mem).mono lasting (draft.le_reserve name)

theorem AllHave.push {model : Model} (lasting : Lasting K) (all : AllHave K draft)
    (has : ModelHas K draft model) : AllHave K (draft.push model) := by
  intro other mem
  rcases List.mem_cons.1 mem with rfl | mem
  · exact has.mono lasting (draft.le_push other)
  · exact (all other mem).mono lasting (draft.le_push model)

end Growth

theorem origin_of_modelOf {n depth : Nat} {scope : Scope} {kind : SchemaKind} {name : String}
    {schema : Schema} {origin : Origin} {draft draft' : Draft} {model : Model}
    (run : modelOf n scope kind name schema origin depth draft = some (model, draft')) :
    model.origin = origin ∨ model.origin = .component := by
  cases kind with
  | enumeration =>
    obtain ⟨rfl, -⟩ := Lower.pure_eq_some.1 run
    exact .inr rfl
  | union =>
    obtain ⟨_, -, rfl⟩ := unionModel_eq_some.1 run
    exact .inl rfl
  | composition =>
    cases n with
    | zero => cases run
    | succ n =>
      obtain ⟨_, _, _, _, _, -, -, -, rfl⟩ := compositionModel_eq_some.1 run
      exact .inl rfl
  | record =>
    obtain ⟨_, _, _, -, -, rfl⟩ := recordModel_eq_some.1 run
    exact .inl rfl
  | typeAlias =>
    obtain ⟨_, _, _, -, -, rfl⟩ := recordModel_eq_some.1 run
    exact .inl rfl
  | unsupported reason =>
    obtain ⟨rfl, -⟩ := Lower.pure_eq_some.1 run
    exact .inl rfl

section Runs

variable {K : Draft → String → Prop} {Good : Origin → Prop} {scope : Scope} {n depth : Nat}
  {schema : Schema} {owner hint name key : String} {origin : Origin} {draft draft' later : Draft}

theorem TypeHas.of_settled {components : List (String × Schema)} (rule : NameRule components Good K)
    {type : DataType} (planned : plan components schema depth = .settled type) :
    TypeHas K draft type := by
  unfold plan at planned
  split at planned
  · cases planned
    exact .of_models_nil rfl
  · cases written : schema.ref with
    | some ref =>
      rw [written] at planned
      dsimp only at planned
      cases looked : components.lookup (componentName ref) with
      | none =>
        rw [looked] at planned
        cases planned
        exact .of_models_nil rfl
      | some target =>
        rw [looked] at planned
        dsimp only at planned
        split at planned
        · cases planned
        · rename_i kind
          cases planned
          intro name mem
          obtain rfl : name = typeName (componentName ref) := by simpa [DataType.models] using mem
          exact rule.component looked kind
    | none =>
      rw [written] at planned
      exact .of_models_nil (models_of_planWritten planned)

theorem typeOf_has (rule : NameRule scope.components Good K) (good : Good origin) {type : DataType}
    (run : typeOf n scope schema owner hint origin depth draft = some (type, draft')) :
    TypeHas K draft' type := by
  induction n generalizing schema owner hint origin depth type draft' with
  | zero => cases run
  | succ n ih =>
    rw [typeOf_succ] at run
    cases planned : plan scope.components schema depth with
    | settled settled =>
      rw [planned] at run
      obtain ⟨rfl, rfl⟩ := Lower.pure_eq_some.1 run
      exact .of_settled rule planned
    | onward passage next =>
      rw [planned] at run
      obtain ⟨inner, typed, rfl⟩ := Lower.map_eq_some.1 run
      have goes : Good (passage.origin origin) := by
        cases passage <;> first | exact good | exact rule.inlineObject
      intro name mem
      rw [Passage.models_wrap] at mem
      exact ih goes typed name mem
    | make kind =>
      rw [planned] at run
      obtain ⟨name, model, middle, -, made, rfl, rfl⟩ := Plan.carryOut_make_run run
      obtain rfl := name_of_modelOf made
      have goes : Good model.origin := by
        rcases origin_of_modelOf made with same | same <;> rw [same]
        · exact good
        · exact rule.ofComponent
      intro mentioned mem
      obtain rfl : mentioned = model.name := by simpa [DataType.models] using mem
      exact rule.made goes

theorem properties_have (rule : NameRule scope.components Good K) {required : List String}
    {entries : List (String × Schema)} {properties : List Property}
    (typed : List.Forall₂ (TypedBetween (· ≤ ·) scope.components (typeOf n scope) owner required draft
      draft') entries properties) :
    ∀ property ∈ properties, TypeHas K draft' property.type := by
  induction typed with
  | nil => simp
  | cons head _ ih =>
    obtain ⟨_, type, after, _, run, le, rfl⟩ := head
    simp only [List.mem_cons, forall_eq_or_imp]
    exact ⟨(typeOf_has rule rule.inlineObject run).mono rule.lasting le, ih⟩

theorem lowerProperties_have (rule : NameRule scope.components Good K) {properties : List Property}
    (run : (lowerProperties scope.components (typeOf n scope) owner schema).work draft =
      some (properties, draft')) :
    draft ≤ draft' ∧ ∀ property ∈ properties, TypeHas K draft' property.type := by
  obtain ⟨le, typed⟩ := lowerProperties_run composes_le (typesKeep_le _) run
  exact ⟨le, properties_have rule typed⟩

theorem additionalType_has (rule : NameRule scope.components Good K) {additional : Option DataType}
    (run : additionalType (typeOf n scope) owner schema draft = some (additional, draft')) :
    draft ≤ draft' ∧ ∀ type ∈ additional, TypeHas K draft' type := by
  refine ⟨additionalType_keeps composes_le (typesKeep_le _) run, ?_⟩
  rcases additionalType_run run with ⟨value, _, type, typed, rfl⟩ | ⟨rfl, plain⟩
  · rintro _ ⟨⟩
    exact typeOf_has rule rule.inlineObject typed
  · intro type mem
    rw [plain type mem]
    exact .of_models_nil rfl

theorem recordModel_has (rule : NameRule scope.components Good K) {model : Model}
    (run : (recordModel scope.components (typeOf n scope) name schema origin).work draft =
      some (model, draft')) : ModelHas K draft' model := by
  obtain ⟨properties, middle, additional, owned, added, rfl⟩ := recordModel_eq_some.1 run
  obtain ⟨-, typed⟩ := lowerProperties_have rule owned
  obtain ⟨le, valued⟩ := additionalType_has rule added
  intro type mem
  simp only [Model.types, List.mem_append, List.mem_map, Option.mem_toList] at mem
  rcases mem with ⟨property, inside, rfl⟩ | mem
  · exact (typed property inside).mono rule.lasting le
  · exact valued type mem

theorem unionModel_has (rule : NameRule scope.components Good K) {model : Model}
    (run : (unionModel scope.components (typeOf n scope) name schema origin).work draft =
      some (model, draft')) : ModelHas K draft' model := by
  obtain ⟨properties, owned, rfl⟩ := unionModel_eq_some.1 run
  obtain ⟨-, typed⟩ := lowerProperties_have rule owned
  intro type mem
  simp only [Model.types, newModel, Option.toList_none, List.append_nil, List.mem_map] at mem
  obtain ⟨property, inside, rfl⟩ := mem
  exact typed property inside

theorem memberProperties_have {found : Option (String × List Property)}
    (run : (memberProperties n scope key depth).work draft = some (found, draft')) (le : draft' ≤ later)
    (all : AllHave K later) :
    ∀ member ∈ found, ∀ property ∈ member.2, TypeHas K later property.type := by
  induction n generalizing key depth with
  | zero => cases run
  | succ n ih =>
    rcases memberProperties_run run with ⟨rfl, -, -⟩ | ⟨_, _, _, _, inner, _, run⟩ |
      ⟨target, -, -, -, -, rfl⟩
    · simp
    · exact ih run
    · rintro _ ⟨⟩
      cases present : draft'.model? (typeName key) with
      | none => simp
      | some model =>
        intro property mem
        have kept : model ∈ later.models :=
          Draft.mem_models_of_le le (List.mem_of_find?_eq_some present)
        exact all model kept _ (List.mem_append_left _ (List.mem_map_of_mem mem))

theorem contribution_has {member : Schema} {result : Contribution} {merge : Merge}
    (run : contribution n scope name depth member draft = some (result, draft')) (le : draft' ≤ later)
    (all : AllHave K later) (gathered : ∀ property ∈ merge.properties, TypeHas K later property.type) :
    ∀ property ∈ (merge.take result).properties, TypeHas K later property.type := by
  have added : ∀ {member : String} {properties : List Property},
      (∀ property ∈ properties, TypeHas K later property.type) →
        ∀ property ∈ (merge.add member properties).properties, TypeHas K later property.type :=
    fun typed property mem => (mem_putProperties mem).elim (gathered property) (typed property)
  unfold contribution at run
  split at run
  · obtain ⟨rfl, -⟩ := Lower.pure_eq_some.1 run
    exact gathered
  cases written : member.ref with
  | some ref =>
    simp only [written, Lower.bind_eq_some] at run
    obtain ⟨found, middle, looked, rest⟩ := run
    cases found with
    | none =>
      obtain ⟨rfl, -⟩ := Lower.pure_eq_some.1 rest
      exact gathered
    | some found =>
      obtain ⟨rfl, rfl⟩ := Lower.pure_eq_some.1 rest
      exact added (memberProperties_have looked le all found rfl)
  | none =>
    simp only [written, Lower.bind_eq_some, Lower.pure_eq_some, pushModel_eq_some] at run
    obtain ⟨memberName, start, -, model, middle, made, -, last, rfl, rfl, rfl⟩ := run
    have kept : model ∈ later.models := Draft.mem_models_of_le le List.mem_cons_self
    exact added fun property mem =>
      all model kept _ (List.mem_append_left _ (List.mem_map_of_mem mem))

theorem mem_types_composed {merge : Merge} {own : List Property} {additional : Option DataType}
    {type : DataType} (mem : type ∈ (composed name schema origin merge own additional).types) :
    (∃ property, (property ∈ merge.properties ∨ property ∈ own) ∧ property.type = type) ∨
      type ∈ additional := by
  simp only [composed, Model.types, dropPlaceholders, requireNames, List.map_map, List.mem_append,
    List.mem_map, Option.mem_toList, Function.comp_apply] at mem
  rcases mem with ⟨property, inside, rfl⟩ | mem
  · exact .inl ⟨property, mem_putProperties inside, rfl⟩
  · exact .inr mem

theorem gathered_of_contributions {P : Merge → Prop} {members : List Schema}
    {contributions : List Contribution}
    (gathered : members.mapM (contribution n scope name depth) draft = some (contributions, draft'))
    (step : ∀ {member result before after merge},
      contribution n scope name depth member before = some (result, after) → after ≤ draft' →
        P merge → P (merge.take result))
    (start : Merge) (holds : P start) : P (contributions.foldl Merge.take start) := by
  have parts := (mapM_run composes_le (fun _ _ _ _ _ step => contribution_le step) gathered).2
  clear gathered
  induction parts generalizing start with
  | nil => exact holds
  | cons head _ ih =>
    obtain ⟨before, after, _, run, le⟩ := head
    exact ih _ (step run le holds)

theorem compositionModel_has (rule : NameRule scope.components Good K) {model : Model}
    (run : (compositionModel n scope name schema origin depth).work draft = some (model, draft'))
    (all : AllHave K draft') : ModelHas K draft' model := by
  cases n with
  | zero => cases run
  | succ n =>
    obtain ⟨contributions, first, own, second, additional, gathered, owned, added, rfl⟩ :=
      compositionModel_eq_some.1 run
    obtain ⟨leOwn, typed⟩ := lowerProperties_have rule owned
    obtain ⟨leAdded, valued⟩ := additionalType_has rule added
    have merged := gathered_of_contributions
      (P := fun merge => ∀ property ∈ merge.properties, TypeHas K draft' property.type)
      gathered (fun step le => contribution_has step (le_trans le (le_trans leOwn leAdded)) all)
      ⟨schema.description, [], []⟩ (by simp)
    intro type mem
    rcases mem_types_composed mem with ⟨property, inside | inside, rfl⟩ | mem
    · exact merged property inside
    · exact (typed property inside).mono rule.lasting leAdded
    · exact valued type mem

theorem modelOf_has (rule : NameRule scope.components Good K) {kind : SchemaKind} {model : Model}
    (run : modelOf n scope kind name schema origin depth draft = some (model, draft'))
    (all : AllHave K draft') : ModelHas K draft' model := by
  cases kind with
  | enumeration =>
    obtain ⟨rfl, -⟩ := Lower.pure_eq_some.1 run
    simp [ModelHas, enumModel, newModel, Model.types]
  | union => exact unionModel_has rule run
  | composition => exact compositionModel_has rule run all
  | record => exact recordModel_has rule run
  | typeAlias => exact recordModel_has rule run
  | unsupported reason =>
    obtain ⟨rfl, -⟩ := Lower.pure_eq_some.1 run
    simp [ModelHas, newModel, Model.types]

end Runs

theorem History.allHave {components : List (String × Schema)} {Good : Origin → Prop}
    {K : Draft → String → Prop} {begun : Call → Prop} {active : List String} {draft draft' : Draft}
    (rule : NameRule components Good K) (history : History components begun active draft draft')
    (all : AllHave K draft) : AllHave K draft' := by
  induction history with
  | done => exact all
  | inline _ _ made _ within after =>
    have kept := within (all.reserve rule.lasting)
    exact after (kept.push rule.lasting (modelOf_has rule made kept))
  | component _ _ _ _ _ made _ within after =>
    -- what was made on the way to the model is there before the model
    have kept := within all
    exact after (kept.push rule.lasting (modelOf_has rule made kept))

theorem NameRule.typesEnsure {components : List (String × Schema)} {K : Draft → String → Prop}
    (rule : NameRule components (· ≠ .composition) K) :
    TypesEnsure (AllHave K) (TypeHas K) ⟨components, []⟩ where
  lasting _ _ _ le has := has.mono rule.lasting le
  plain := .of_models_nil
  type n schema owner hint origin depth good draft type draft' all run := by
    have history := (history_of_run (closed_true components) n).1 trivial run
    exact ⟨history.le, history.allHave rule all, typeOf_has rule (by exact good) run⟩
  member n key depth draft found draft' all run := by
    have history := (history_of_run (closed_true components) n).2.2.1 trivial run
    have kept := history.allHave rule all
    exact ⟨history.le, kept, memberProperties_have run (le_refl _) kept⟩

end OpenApiCodegen.Lowering
