import OpenApiCodegen.Proofs.Api.Lookup
import OpenApiCodegen.Proofs.Lowering.References

namespace OpenApiCodegen.Lowering

open Api
open OpenApi (Schema SchemaKind Document NormalDocument)

def Shared (components : List (String × Schema)) (name : String) : Prop :=
  ∃ entry ∈ components, ∃ other ∈ components, entry.1 ≠ other.1 ∧ entry.2.kind ≠ .typeAlias ∧
    other.2.kind ≠ .typeAlias ∧ typeName entry.1 = name ∧ typeName other.1 = name

/-- The model is what the schema of a component became, and `older` are the models before it. -/
inductive MadeOf (components : List (String × Schema)) (start : Draft) (entry : String × Schema)
    (model : Model) (older : List Model) : Prop
  | intro {n depth : Nat} {others : List String} {before after : Draft} :
      start ≤ before → entry.1 ∉ others →
        modelOf n ⟨components, entry.1 :: others⟩ entry.2.kind (typeName entry.1) entry.2 .component
            depth before = some (model, after) →
          after.models = older → MadeOf components start entry model older

theorem MadeOf.name_eq {components : List (String × Schema)} {start : Draft} {entry : String × Schema}
    {model : Model} {older : List Model} (made : MadeOf components start entry model older) :
    model.name = typeName entry.1 := by
  obtain ⟨-, -, run, -⟩ := made
  exact name_of_modelOf run

def NamesTaken (draft : Draft) : Prop :=
  ∀ model ∈ draft.models, model.name ∈ draft.taken

section Histories

variable {components : List (String × Schema)} {active : List String} {draft draft' : Draft}

theorem NamesTaken.reserve {name : String} (taken : NamesTaken draft) :
    NamesTaken (draft.reserve name) :=
  fun model mem => List.mem_cons_of_mem _ (taken model mem)

theorem NamesTaken.push {model : Model} (taken : NamesTaken draft) : NamesTaken (draft.push model) := by
  intro other mem
  rcases List.mem_cons.1 mem with rfl | mem
  · exact List.mem_cons_self
  · exact List.mem_cons_of_mem _ (taken other mem)

theorem History.namesTaken {begun : Call → Prop}
    (history : History components begun active draft draft') (taken : NamesTaken draft) :
    NamesTaken draft' := by
  induction history with
  | done => exact taken
  | inline _ _ _ _ within after => exact after (within taken.reserve).push
  | component _ _ _ _ _ _ _ within after => exact after (within taken).push

/-- A model that is made gets a name that was not taken, unless it is made for a component. -/
theorem History.fresh (history : History components (Listed components) active draft draft')
    {model : Model} (mem : model ∈ draft'.models) :
    model ∈ draft.models ∨ model.name ∉ draft.taken ∨
      ∃ entry ∈ components, typeName entry.1 = model.name := by
  induction history with
  | done => exact .inl mem
  | @inline active draft middle draft' name made n depth kind schema origin free history run rest
      within after =>
    have le := le_trans (draft.le_reserve name) history.le
    have earlier : draft.taken ⊆ (middle.push made).taken :=
      fun _ taken => Draft.mem_taken_of_le (le_trans le (middle.le_push made)) taken
    rcases after mem with old | new | component
    · rcases List.mem_cons.1 old with rfl | old
      · rw [name_of_modelOf run]
        exact .inr (.inl free)
      · rcases within old with old | new | component
        · exact .inl old
        · exact .inr (.inl fun taken => new (List.mem_cons_of_mem _ taken))
        · exact .inr (.inr component)
    · exact .inr (.inl fun taken => new (earlier taken))
    · exact .inr (.inr component)
  | @component active draft middle draft' key made n depth schema called free kind absent history run
      rest within after =>
    have earlier : draft.taken ⊆ (middle.push made).taken :=
      fun _ taken => Draft.mem_taken_of_le (le_trans history.le (middle.le_push made)) taken
    rcases after mem with old | new | component
    · rcases List.mem_cons.1 old with rfl | old
      · exact .inr (.inr ⟨(key, schema), called, (name_of_modelOf run).symm⟩)
      · exact within old
    · exact .inr (.inl fun taken => new (earlier taken))
    · exact .inr (.inr component)

def NamesakesShared (components : List (String × Schema)) (draft : Draft) : Prop :=
  draft.models.Pairwise fun model older => model.name = older.name → Shared components model.name

theorem NamesakesShared.push {model : Model} (shared : NamesakesShared components draft)
    (new : ∀ older ∈ draft.models, model.name = older.name → Shared components model.name) :
    NamesakesShared components (draft.push model) :=
  List.pairwise_cons.2 ⟨new, shared⟩

theorem History.namesakesShared (history : History components (Listed components) active draft draft')
    (reserved : Reserved components draft) (taken : NamesTaken draft)
    (shared : NamesakesShared components draft) : NamesakesShared components draft' := by
  induction history with
  | done => exact shared
  | @inline active draft middle draft' name made n depth kind schema origin free history run rest
      within after =>
    have kept := reserved.mono (draft.le_reserve name)
    have inner := within kept taken.reserve shared
    have new : ∀ older ∈ middle.models, made.name = older.name → Shared components made.name := by
      intro older mem same
      rw [name_of_modelOf run] at same
      -- the name is taken before the contents are made, and was not taken before that
      rcases history.fresh mem with old | new | ⟨entry, listed, named⟩
      · exact absurd (taken older old) (same ▸ free)
      · exact absurd List.mem_cons_self (same ▸ new)
      · exact absurd (reserved entry listed) (by rw [named, ← same]; exact free)
    exact after (kept.mono (le_trans history.le (middle.le_push made)))
      (history.namesTaken taken.reserve).push (inner.push new)
  | @component active draft middle draft' key made n depth schema called free kind absent history run
      rest within after =>
    have inner := within reserved taken shared
    have new : ∀ older ∈ middle.models, made.name = older.name → Shared components made.name := by
      intro older mem same
      rw [name_of_modelOf run] at same ⊢
      rcases history.origin reserved mem with old | other | @⟨key', schema', _, _, _, _, _, called',
        within', free', kind', run', _⟩
      · rw [isLowered_iff.2 ⟨older, old, same.symm⟩] at absent
        cases absent
      · exact absurd same (other (key, schema) called)
      · -- `key` was being lowered all the while, so the namesake is for another key
        have apart : key ≠ key' := by
          rintro rfl
          exact free' (within' List.mem_cons_self)
        exact ⟨(key, schema), called, (key', schema'), called', apart, kind, kind', rfl,
          (name_of_modelOf run').symm.trans same.symm⟩
    exact after (reserved.mono (le_trans history.le (middle.le_push made)))
      (history.namesTaken taken).push (inner.push new)

def NamedMadeOf (components : List (String × Schema)) (start draft : Draft) : Prop :=
  ∀ model older, model :: older <:+ draft.models →
    (∀ entry ∈ components, typeName entry.1 ≠ model.name) ∨
      ∃ entry ∈ components, entry.2.kind ≠ .typeAlias ∧ MadeOf components start entry model older

theorem NamedMadeOf.push {start : Draft} {model : Model} (named : NamedMadeOf components start draft)
    (new : (∀ entry ∈ components, typeName entry.1 ≠ model.name) ∨
      ∃ entry ∈ components, entry.2.kind ≠ .typeAlias ∧
        MadeOf components start entry model draft.models) :
    NamedMadeOf components start (draft.push model) := by
  intro other older suffix
  rcases List.suffix_cons_iff.1 suffix with same | suffix
  · cases same
    exact new
  · exact named other older suffix

theorem History.namedMadeOf {start : Draft}
    (history : History components (Listed components) active draft draft')
    (reserved : Reserved components draft) (le : start ≤ draft)
    (named : NamedMadeOf components start draft) : NamedMadeOf components start draft' := by
  have invariant : Invariant components (Listed components) fun _ later =>
      start ≤ later ∧ NamedMadeOf components start later := by
    constructor
    · rintro active later name ⟨le, named⟩
      exact ⟨le_trans le (later.le_reserve name), named⟩
    · exact fun kept => kept
    · rintro active later model other ⟨le, named⟩
      exact ⟨le_trans le (later.le_push model), named.push (.inl other)⟩
    · rintro active before later key schema model n depth called free kind - run ⟨le, -⟩ ⟨le', named⟩
      refine ⟨le_trans le' (later.le_push model), named.push (.inr ?_)⟩
      exact ⟨(key, schema), called, kind, le, free, run, rfl⟩
  exact (history.keeps invariant reserved ⟨le, named⟩).2

end Histories

theorem history_of_lower {doc : NormalDocument} {api : Api} (run : lower doc = .ok api) :
    ∃ draft, History doc.document.components (Listed doc.document.components) []
        (Draft.start doc.document) draft ∧
      api.models = draft.models.reverse ∧
        ∀ entry ∈ doc.document.components, entry.2.kind ≠ .typeAlias →
          isLowered draft (typeName entry.1) = true := by
  obtain ⟨operations, middle, draft, components, rest, models, -⟩ := lower_run run
  obtain ⟨history, made⟩ :=
    lowerComponents_run (closed_listed doc.document.components) (fun _ mem => mem) components
  have ensured : TypesEnsure
      (History doc.document.components (Listed doc.document.components) [] (Draft.start doc.document))
      (fun _ _ => True) ⟨doc.document.components, []⟩ := by
    constructor
    · exact fun _ _ _ _ _ => trivial
    · exact fun _ => trivial
    · intro n schema owner hint origin depth _ later type later' history run
      have more := (history_of_run (closed_listed doc.document.components) n).1 trivial run
      exact ⟨more.le, history.trans more, trivial⟩
    · intro n key depth later found later' history run
      have more := (history_of_run (closed_listed doc.document.components) n).2.2.1 trivial run
      exact ⟨more.le, history.trans more, fun _ _ _ _ => trivial⟩
  obtain ⟨le, history, -⟩ := lowerOperations_ensures ensured history rest
  exact ⟨draft, history, models, fun entry mem kind => isLowered_of_le le (made entry mem kind)⟩

def modelled (components : List (String × Schema)) : List (String × Schema) :=
  components.filter (·.2.kind ≠ .typeAlias)

def IsModelOf (doc : Document) (api : Api) (entry : String × Schema) (id : Nat) : Prop :=
  ∃ model, api.models[id]? = some model ∧
    MadeOf doc.components (Draft.start doc) entry model (api.models.take id).reverse

/-- Every component that is no alias has one model, no two the same one, and is found by its name. -/
structure KeepsSchemas (doc : Document) (api : Api) : Prop where
  own : ∀ entry ∈ modelled doc.components, ∃! id, IsModelOf doc api entry id
  apart : (modelled doc.components).Pairwise fun entry other =>
    ∀ id, IsModelOf doc api entry id → ¬ IsModelOf doc api other id
  distinct : (api.models.map (·.name)).Nodup
  found : ∀ entry ∈ modelled doc.components, ∀ id, IsModelOf doc api entry id →
    api.modelId? (typeName entry.1) = some id

section Documents

variable {doc : NormalDocument} {api : Api} {entry other : String × Schema} {id : Nat}

theorem mem_modelled {components : List (String × Schema)} :
    entry ∈ modelled components ↔ entry ∈ components ∧ entry.2.kind ≠ .typeAlias := by
  simp [modelled]

theorem IsModelOf.madeOf {document : Document} {model : Model}
    (made : IsModelOf document api entry id) (at_ : api.models[id]? = some model) :
    MadeOf document.components (Draft.start document) entry model (api.models.take id).reverse := by
  obtain ⟨found, at', made⟩ := made
  rw [at_, Option.some_inj] at at'
  exact at' ▸ made

theorem IsModelOf.name_eq {document : Document} {model : Model}
    (made : IsModelOf document api entry id) (at_ : api.models[id]? = some model) :
    model.name = typeName entry.1 :=
  (made.madeOf at_).name_eq

theorem namesakes_of_lower (run : lower doc = .ok api) :
    api.models.Pairwise fun (model other : Model) =>
      model.name = other.name → Shared doc.document.components model.name := by
  obtain ⟨draft, history, models, -⟩ := history_of_lower run
  have shared := history.namesakesShared (reserved_start doc.document)
    (by simp [NamesTaken, Draft.start]) .nil
  rw [models, List.pairwise_reverse]
  exact shared.imp fun named same => same ▸ named same.symm

theorem shared_of_namesakes (run : lower doc = .ok api) {i j : Nat} {model other : Model}
    (first : api.models[i]? = some model) (second : api.models[j]? = some other) (apart : i ≠ j)
    (same : model.name = other.name) : Shared doc.document.components model.name := by
  have pairs := List.pairwise_iff_getElem.1 (namesakes_of_lower run)
  obtain ⟨short, rfl⟩ := List.getElem?_eq_some_iff.1 first
  obtain ⟨short', rfl⟩ := List.getElem?_eq_some_iff.1 second
  rcases Nat.lt_or_gt_of_ne apart with lt | lt
  · exact pairs i j short short' lt same
  · rw [same]
    exact pairs j i short' short lt same.symm

theorem isModelOf_of_lower (run : lower doc = .ok api) {model : Model}
    (at_ : api.models[id]? = some model) :
    (∀ entry ∈ doc.document.components, typeName entry.1 ≠ model.name) ∨
      ∃ entry ∈ modelled doc.document.components, IsModelOf doc.document api entry id := by
  obtain ⟨draft, history, models, -⟩ := history_of_lower run
  have named := history.namedMadeOf (reserved_start doc.document) (le_refl _)
    (by simp [NamedMadeOf, Draft.start])
  have suffix : model :: (api.models.take id).reverse <:+ draft.models := by
    have upTo : (api.models.take (id + 1)).reverse = model :: (api.models.take id).reverse := by
      simp [List.take_add_one, at_]
    have whole : api.models.reverse = draft.models := by simp [models]
    rw [← upTo, ← whole, List.reverse_suffix]
    exact List.take_prefix _ _
  refine (named model _ suffix).imp_right ?_
  rintro ⟨entry, mem, kind, made⟩
  exact ⟨entry, mem_modelled.2 ⟨mem, kind⟩, model, at_, made⟩

theorem exists_named_of_lower (run : lower doc = .ok api)
    (mem : entry ∈ modelled doc.document.components) :
    ∃ (id : Nat) (model : Model), api.models[id]? = some model ∧ model.name = typeName entry.1 := by
  obtain ⟨draft, -, models, made⟩ := history_of_lower run
  obtain ⟨listed, kind⟩ := mem_modelled.1 mem
  obtain ⟨model, inside, named⟩ := isLowered_iff.1 (made entry listed kind)
  have here : model ∈ api.models := by simpa [models] using inside
  obtain ⟨id, at_⟩ := List.mem_iff_getElem?.1 here
  exact ⟨id, model, at_, named⟩

theorem exists_isModelOf_of_named (run : lower doc = .ok api) (listed : entry ∈ doc.document.components)
    {model : Model} (at_ : api.models[id]? = some model) (named : model.name = typeName entry.1) :
    ∃ entry' ∈ modelled doc.document.components, typeName entry'.1 = typeName entry.1 ∧
      IsModelOf doc.document api entry' id := by
  rcases isModelOf_of_lower run at_ with none | ⟨entry', mem, made⟩
  · exact absurd named.symm (none entry listed)
  · exact ⟨entry', mem, (made.name_eq at_).symm.trans named, made⟩

def TypeNamesDistinct (components : List (String × Schema)) : Prop :=
  ((modelled components).map fun entry => typeName entry.1).Nodup

theorem TypeNamesDistinct.eq {components : List (String × Schema)}
    (distinct : TypeNamesDistinct components) (mem : entry ∈ modelled components) (mem' : other ∈ modelled components)
    (same : typeName entry.1 = typeName other.1) : entry = other :=
  List.inj_on_of_nodup_map distinct mem mem' same

theorem TypeNamesDistinct.not_shared {components : List (String × Schema)} {name : String}
    (distinct : TypeNamesDistinct components) : ¬ Shared components name := by
  rintro ⟨entry, mem, other, mem', apart, kind, kind', named, named'⟩
  have same := distinct.eq (mem_modelled.2 ⟨mem, kind⟩) (mem_modelled.2 ⟨mem', kind'⟩)
    (named.trans named'.symm)
  exact apart (congrArg Prod.fst same)

theorem namesDistinct_of_lower (distinct : TypeNamesDistinct doc.document.components)
    (run : lower doc = .ok api) : api.NamesDistinct := by
  rw [Api.NamesDistinct, List.Nodup, List.pairwise_map]
  refine (namesakes_of_lower run).imp ?_
  intro model other shared same
  exact distinct.not_shared (shared same)

theorem KeepsSchemas.typeNamesDistinct {document : Document} (keeps : KeepsSchemas document api) :
    TypeNamesDistinct document.components := by
  rw [TypeNamesDistinct, List.Nodup, List.pairwise_map]
  refine keeps.apart.imp_of_mem fun {entry other} mem mem' apart same => ?_
  obtain ⟨id, made, -⟩ := keeps.own entry mem
  obtain ⟨id', made', -⟩ := keeps.own other mem'
  have first := keeps.found entry mem id made
  rw [same, keeps.found other mem' id' made', Option.some_inj] at first
  exact apart id made (first ▸ made')

/-- Schemas are kept apart exactly when no two components with models have one type name. -/
theorem keepsSchemas_of_lower (run : lower doc = .ok api) :
    KeepsSchemas doc.document api ↔ TypeNamesDistinct doc.document.components := by
  refine ⟨KeepsSchemas.typeNamesDistinct, fun distinct => ?_⟩
  have names := namesDistinct_of_lower distinct run
  have named : ∀ {entry id}, IsModelOf doc.document api entry id →
      ∃ model, api.models[id]? = some model ∧ model.name = typeName entry.1 :=
    fun ⟨model, at_, made⟩ => ⟨model, at_, made.name_eq⟩
  constructor
  · intro entry mem
    obtain ⟨id, model, at_, called⟩ := exists_named_of_lower run mem
    -- some model has the name of the entry, and whatever it was made of is the entry
    have own : IsModelOf doc.document api entry id := by
      rcases isModelOf_of_lower run at_ with none | ⟨other, mem', made⟩
      · exact absurd called.symm (none entry (mem_modelled.1 mem).1)
      · rwa [distinct.eq mem mem' (called.symm.trans (made.name_eq at_))]
    refine ⟨id, own, fun id' made => ?_⟩
    obtain ⟨model', at', called'⟩ := named made
    exact names.id_eq at' at_ (called'.trans called.symm)
  · refine (List.pairwise_map.1 distinct).imp fun {entry other} apart id made made' => ?_
    obtain ⟨model, at_, called⟩ := named made
    exact apart (called.symm.trans (made'.name_eq at_))
  · exact names
  · intro entry mem id made
    obtain ⟨model, at_, called⟩ := named made
    exact called ▸ names.modelId? at_

end Documents

def accounts (key : String) : Document where
  openapi := none
  info := none
  paths := []
  schemas := some
    [("user", { properties := some [("id", { typeNames := some (.single "string") })] }),
      (key, { properties := some [("name", { typeNames := some (.single "string") })] })]
  tags := []
  source := none

/-- Keys that differ in the case of the first letter only: the second schema is passed over. -/
theorem namesakes_merged :
    ∃ api, lower (.of (accounts "User")) = .ok api ∧
      api.models.map (fun model => (model.name, model.properties.map (·.name))) = [("User", ["id"])] ∧
        ¬ KeepsSchemas (NormalDocument.of (accounts "User")).document api := by
  have models : (lower (.of (accounts "User"))).toOption.map (fun api =>
      api.models.map fun model => (model.name, model.properties.map (·.name))) =
        some [("User", ["id"])] := by
    rfl
  have shared : ¬ TypeNamesDistinct (NormalDocument.of (accounts "User")).document.components := by
    unfold TypeNamesDistinct
    decide
  obtain ⟨api, run, models⟩ := exists_of_toOption_map models
  exact ⟨api, run, models, fun keeps => shared keeps.typeNamesDistinct⟩

theorem accounts_keepsSchemas :
    ∃ api, lower (.of (accounts "Account")) = .ok api ∧
      KeepsSchemas (NormalDocument.of (accounts "Account")).document api := by
  obtain ⟨api, run⟩ : ∃ api, lower (.of (accounts "Account")) = .ok api :=
    exists_of_toOption (by rfl)
  have distinct : TypeNamesDistinct (NormalDocument.of (accounts "Account")).document.components := by
    unfold TypeNamesDistinct
    decide
  exact ⟨api, run, (keepsSchemas_of_lower run).2 distinct⟩

end OpenApiCodegen.Lowering
