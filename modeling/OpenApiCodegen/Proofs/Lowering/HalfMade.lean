import OpenApiCodegen.Proofs.Lowering.MemberNames

namespace OpenApiCodegen.Lowering

open Api
open OpenApi (Schema SchemaKind Document NormalDocument componentName)

section Merging

variable {components : List (String × Schema)} {members : List Schema} {member : Schema}
  {names : List String} {active : List String} {draft draft' : Draft} {key : String} {schema : Schema}

theorem Merged.plain (merged : Merged components key names) :
    ∃ schema, components.lookup key = some schema ∧
      (schema.kind = .record ∨ schema.kind = .composition) := by
  cases merged with
  | record looked kind => exact ⟨_, looked, .inl kind⟩
  | composition looked kind _ => exact ⟨_, looked, .inr kind⟩

theorem Merged.not_alias (merged : Merged components key names) :
    ∀ target ∈ components.lookup key, target.kind ≠ .typeAlias := by
  obtain ⟨schema, looked, plain⟩ := merged.plain
  intro target looked'
  rw [looked] at looked'
  cases looked'
  rcases plain with plain | plain <;> simp [plain]

theorem MergedMembers.gained (merged : MergedMembers components members names) (mem : member ∈ members) :
    (∀ ref ∈ member.ref, ∃ gained, Merged components (componentName ref) gained ∧ gained ⊆ names) ∧
      (¬ member.isDescriptionOnly → member.ref = none → propertyKeys member ⊆ names) := by
  induction members generalizing names with
  | nil => cases mem
  | cons first rest ih =>
    cases merged with
    | description only tail =>
      rcases List.mem_cons.1 mem with rfl | mem
      · have absent := Schema.ref_of_isDescriptionOnly only
        exact ⟨by simp [absent], fun substantial => absurd only substantial⟩
      · exact ih tail mem
    | @reference _ ref _ gained others written merged tail =>
      rcases List.mem_cons.1 mem with rfl | mem
      · refine ⟨fun ref' written' => ?_, fun _ absent => ?_⟩
        · rw [written] at written'
          cases written'
          exact ⟨gained, merged, List.subset_append_left _ _⟩
        · rw [absent] at written
          cases written
      · obtain ⟨references, inline⟩ := ih tail mem
        refine ⟨fun ref written => ?_, fun substantial absent =>
          List.subset_append_of_subset_right _ (inline substantial absent)⟩
        obtain ⟨gained, merged, subset⟩ := references ref written
        exact ⟨gained, merged, List.subset_append_of_subset_right _ subset⟩
    | inline substantial absent tail =>
      rcases List.mem_cons.1 mem with rfl | mem
      · exact ⟨by simp [absent], fun _ _ => List.subset_append_left _ _⟩
      · obtain ⟨references, inline⟩ := ih tail mem
        refine ⟨fun ref written => ?_, fun substantial absent =>
          List.subset_append_of_subset_right _ (inline substantial absent)⟩
        obtain ⟨gained, merged, subset⟩ := references ref written
        exact ⟨gained, merged, List.subset_append_of_subset_right _ subset⟩

theorem Merged.of_inherits (merged : Merged components key names) {other : String}
    (inherits : Inherits components key other) :
    ∃ gained, Merged components other gained ∧ gained ⊆ names := by
  obtain ⟨schema, looked, kind, mem⟩ := inherits
  cases merged with
  | record looked' kind' =>
    rw [looked] at looked'
    cases looked'
    rw [kind] at kind'
    cases kind'
  | composition looked' _ members =>
    rw [looked] at looked'
    cases looked'
    obtain ⟨inside, listed, named⟩ := List.mem_filterMap.1 mem
    obtain ⟨ref, written, rfl⟩ := Option.map_eq_some_iff.1 named
    obtain ⟨gained, merged, subset⟩ := (members.gained listed).1 ref written
    refine ⟨gained, merged, fun wire mem => ?_⟩
    rw [mem_firsts, List.mem_append]
    exact .inl (subset mem)

def NamesWithin (components : List (String × Schema)) (draft : Draft) : Prop :=
  ∀ key names, Merged components key names → ∀ model ∈ draft.models, model.name = typeName key →
    wireNames model.properties ⊆ names

theorem names_subset_of_modelOf {n depth : Nat} {model : Model}
    (looked : components.lookup key = some schema) (merged : Merged components key names)
    (run : modelOf n ⟨components, active⟩ schema.kind (typeName key) schema .component depth draft =
      some (model, draft')) (within : NamesWithin components draft') :
    wireNames model.properties ⊆ names := by
  have gains : ∀ {other}, Inherits components key other →
      ∃ gained, Merged components other gained ∧ gained ⊆ names := fun inherits => merged.of_inherits inherits
  cases merged with
  | record looked' kind =>
    rw [looked] at looked'
    cases looked'
    rw [kind] at run
    rw [wireNames_of_recordModel run]
    exact List.Subset.refl _
  | composition looked' kind members =>
    rw [looked] at looked'
    cases looked'
    rw [kind] at run
    intro wire mem
    rcases receives_of_modelOf run mem with own | ⟨part, inline, mem⟩ |
      ⟨other, reference, member, leads, model, kept, named, mem⟩
    · rw [mem_firsts, List.mem_append]
      exact .inr own
    · simp only [Schema.inlineMembers, List.mem_filter, Bool.and_eq_true, Bool.not_eq_true',
        Option.isNone_iff_eq_none] at inline
      obtain ⟨listed, substantial, absent⟩ := inline
      rw [mem_firsts, List.mem_append]
      exact .inl ((members.gained listed).2 (by simp [substantial]) absent mem)
    · obtain ⟨gained, merged, subset⟩ := gains ⟨_, looked, kind, reference⟩
      obtain rfl := leads.eq_of_plain merged.not_alias
      exact subset (within _ gained merged model kept named mem)

theorem History.namesWithin (distinct : (components.map fun entry => typeName entry.1).Nodup)
    (history : History components (Reached components) active draft draft')
    (reserved : Reserved components draft) (within : NamesWithin components draft) :
    NamesWithin components draft' := by
  have all := history.modelsHave (P := fun key => ∃ names, Merged components key names)
    (Q := fun key model => ∀ names, Merged components key names → wireNames model.properties ⊆ names)
    distinct ?_ ?_ reserved fun key _ model mem named names merged => within key names merged model mem named
  · exact fun key names merged model mem named => all key ⟨names, merged⟩ model mem named names merged
  · rintro key ⟨names, merged⟩
    exact merged.plain.imp fun _ => And.left
  · intro active before draft key schema model n depth _ looked called _ run within names merged
    exact names_subset_of_modelOf looked merged run fun key names merged model mem named =>
      within key ⟨names, merged⟩ model mem named names merged

end Merging

/-- The name comes to the heir through the one member only. -/
structure OnlyThrough (components : List (String × Schema)) (heir member wire : String) : Prop where
  own : ∀ schema ∈ components.lookup heir, wire ∉ propertyKeys schema
  inline : ∀ schema ∈ components.lookup heir, ∀ part ∈ schema.inlineMembers, wire ∉ propertyKeys part
  others : ∀ {other names}, Inherits components heir other → other ≠ member →
    Merged components other names → wire ∉ names

section HalfMade

variable {components : List (String × Schema)} {active : List String} {draft draft' : Draft}
  {n depth : Nat} {schema : Schema} {key heir member wire : String} {names : List String}
  {model : Model}

theorem History.absent_of_active (distinct : (components.map fun entry => typeName entry.1).Nodup)
    (history : History components (Reached components) active draft draft')
    (reserved : Reserved components draft) (listed : (key, schema) ∈ components) (busy : key ∈ active)
    (absent : ∀ model ∈ draft.models, model.name ≠ typeName key) :
    ∀ model ∈ draft'.models, model.name ≠ typeName key := by
  intro model mem named
  rcases history.origin reserved mem with old | other | ⟨called, more, free, -, run, -⟩
  · exact absent model old named
  · exact other _ listed named.symm
  · have same :=
      List.inj_on_of_nodup_map distinct called.listed listed ((name_of_modelOf run).symm.trans named)
    cases same
    exact free (more busy)

theorem covered_of_demands (distinct : (components.map fun entry => typeName entry.1).Nodup)
    (shallow : Shallow components) (called : Reached components (.component key schema depth []))
    (kind : schema.kind ≠ .typeAlias)
    (run : modelOf n ⟨components, [key]⟩ schema.kind (typeName key) schema .component depth draft =
      some (model, draft')) (followed : Followed components draft' [key])
    (demands : Demands components key heir) : Covered draft' [key] heir := by
  have path := callsFor_of_demands demands
  clear demands
  induction path with
  | refl => exact .inr List.mem_cons_self
  | @tail before heir _ callsFor ih =>
    -- the component itself has no model yet, but its contents are made already
    rcases ih with lowered | busy
    · exact followed callsFor lowered
    · obtain rfl := List.mem_singleton.1 busy
      exact covered_of_modelOf distinct shallow called List.not_mem_nil kind run callsFor

theorem lacks_of_modelOf (looked : components.lookup heir = some schema) (kind : schema.kind = .composition)
    (merged : Merged components heir names) (only : OnlyThrough components heir member wire)
    (within : NamesWithin components draft')
    (absent : ∀ model ∈ draft'.models, model.name ≠ typeName member)
    (run : modelOf n ⟨components, active⟩ .composition (typeName heir) schema .component depth draft =
      some (model, draft')) : wire ∉ wireNames model.properties := by
  intro mem
  rcases receives_of_modelOf run mem with own | ⟨part, inline, mem⟩ |
    ⟨other, reference, brought, leads, model', kept, named, mem⟩
  · exact only.own schema looked own
  · exact only.inline schema looked part inline mem
  · have inherits : Inherits components heir other := ⟨schema, looked, kind, reference⟩
    obtain ⟨gained, merged, -⟩ := merged.of_inherits inherits
    obtain rfl := leads.eq_of_plain merged.not_alias
    by_cases same : other = member
    · exact absent model' kept (same ▸ named)
    · exact only.others inherits same merged (within _ gained merged model' kept named mem)

theorem History.lacks {target : Schema} (distinct : (components.map fun entry => typeName entry.1).Nodup)
    (history : History components (Reached components) active draft draft')
    (reserved : Reserved components draft) (fresh : draft.models = [])
    (listed : (member, target) ∈ components) (busy : member ∈ active)
    (looked : components.lookup heir = some schema) (kind : schema.kind = .composition)
    (merged : Merged components heir names) (only : OnlyThrough components heir member wire)
    (mem : model ∈ draft'.models) (named : model.name = typeName heir) :
    wire ∉ wireNames model.properties := by
  have within : NamesWithin components draft' :=
    history.namesWithin distinct reserved (by simp [NamesWithin, fresh])
  have absent : ∀ model ∈ draft'.models, model.name ≠ typeName member :=
    history.absent_of_active distinct reserved listed busy (by simp [fresh])
  rcases history.origin reserved mem with old | unnamed | ⟨called, -, -, -, run, le⟩
  · simp [fresh] at old
  · exact absurd named.symm (unnamed _ (mem_of_lookup looked))
  · have same := List.inj_on_of_nodup_map distinct called.listed (mem_of_lookup looked)
      ((name_of_modelOf run).symm.trans named)
    cases same
    rw [kind] at run
    refine lacks_of_modelOf looked kind merged only ?_ ?_ run
    · exact fun key names merged model mem => within key names merged model (Draft.mem_models_of_le le mem)
    · exact fun model mem => absent model (Draft.mem_models_of_le le mem)

theorem lowerComponents_first {rest : List (String × Schema)} (listed : components = (key, schema) :: rest)
    (kind : schema.kind ≠ .typeAlias) (fresh : draft.models = [])
    (run : (lowerComponents n ⟨components, []⟩).work draft = some ((), draft')) :
    ∃ n model middle, modelOf n ⟨components, [key]⟩ schema.kind (typeName key) schema .component 0
          draft = some (model, middle) ∧
        History components (Reached components) [key] draft middle ∧
          History components (Reached components) [] (middle.push model) draft' := by
  subst listed
  have split : (lowerComponents n ⟨(key, schema) :: rest, []⟩).work =
      ((lowerComponent n ⟨(key, schema) :: rest, []⟩ key schema 0).work >>= fun _ =>
        rest.forM fun entry => (lowerComponent n ⟨(key, schema) :: rest, []⟩ entry.1 entry.2 0).work) :=
    work_lowerComponents
  rw [split] at run
  obtain ⟨⟨⟩, middle, first, others⟩ := Lower.bind_eq_some.1 run
  have begun : ∀ entry ∈ (key, schema) :: rest,
      Reached ((key, schema) :: rest) (.component entry.1 entry.2 0 []) :=
    fun entry mem => ⟨entry.1, entry.2, mem, .refl⟩
  have step : ∀ entry ∈ rest, ∀ draft draft',
      (lowerComponent n ⟨(key, schema) :: rest, []⟩ entry.1 entry.2 0).work draft = some ((), draft') →
        History ((key, schema) :: rest) (Reached ((key, schema) :: rest)) [] draft draft' :=
    fun entry mem _ _ run =>
      (history_of_run closed_reached n).2.2.2 (begun entry (List.mem_cons_of_mem _ mem)) run
  have later := (forM_run History.composes step others).1
  cases n with
  | zero => cases first
  | succ n =>
    rcases lowerComponent_run first with ⟨lowered | busy | expanded, -⟩ |
      ⟨-, free, -, model, middle, made, rfl⟩
    · simp [isLowered, fresh] at lowered
    · cases busy
    · exact absurd expanded kind
    · have entered := closed_reached (begun _ List.mem_cons_self) (.entered free kind)
      exact ⟨n, model, middle, made, history_of_modelOf closed_reached entered made, later⟩

end HalfMade

/-- When lowering begins with a member that demands its heir, the heir is made while the member is half
made. -/
theorem name_missing {doc : NormalDocument} {api : Api} {target : Schema} {rest : List (String × Schema)}
    {names : List String} {heir member wire : String}
    (distinct : (doc.document.components.map fun entry => typeName entry.1).Nodup)
    (shallow : Shallow doc.document.components) (other : heir ≠ member)
    (inherits : Inherits doc.document.components heir member)
    (demands : Demands doc.document.components member heir)
    (merged : Merged doc.document.components heir names)
    (only : OnlyThrough doc.document.components heir member wire)
    (first : doc.document.components = (member, target) :: rest) (run : lower doc = .ok api) :
    ∃ model, api.model? (typeName heir) = some model ∧ wire ∉ wireNames model.properties := by
  obtain ⟨gained, brought, -⟩ := merged.of_inherits inherits
  obtain ⟨schema, looked, kind, reference⟩ := inherits
  have listed := mem_of_lookup looked
  have top : (member, target) ∈ doc.document.components := by simp [first]
  have plain : target.kind ≠ .typeAlias := brought.not_alias target (lookup_of_mem distinct top)
  have reserved := reserved_start doc.document
  obtain ⟨finish, model, components, -, mem, named, answer⟩ :=
    exists_model_of_lower listed (by simp [kind]) run
  obtain ⟨n, made, middle, began, history, later⟩ := lowerComponents_first first plain rfl components
  have le := middle.le_push made
  -- the heir has a model when that of the member is about to be kept
  have lowered : isLowered middle (typeName heir) = true := by
    have followed : Followed doc.document.components middle [member] :=
      history.followed distinct shallow reserved (by simp [Followed, isLowered, Draft.start])
    have called : Reached doc.document.components (.component member target 0 []) :=
      ⟨member, target, top, .refl⟩
    rcases covered_of_demands distinct shallow called plain began followed demands with lowered | busy
    · exact lowered
    · exact absurd (List.mem_singleton.1 busy) other
  -- no other one is made for it, so this is the one that is found
  have old : model ∈ middle.models := by
    obtain ⟨-, kept⟩ := later.keepsModels listed (reserved.mono (le_trans history.le le))
      (isLowered_of_le le lowered)
    rcases List.mem_cons.1 (kept model mem named) with rfl | kept
    · have same :=
        List.inj_on_of_nodup_map distinct top listed ((name_of_modelOf began).symm.trans named)
      cases same
      exact absurd rfl other
    · exact kept
  exact ⟨model, answer, history.lacks distinct reserved rfl top List.mem_cons_self looked kind merged only
    old named⟩

end OpenApiCodegen.Lowering
