import OpenApiCodegen.Proofs.Lowering.Coverage

namespace OpenApiCodegen.Lowering

open Api
open OpenApi (Schema SchemaKind componentName)

/-- Where a composition that refers to the component takes properties from. -/
inductive LeadsTo (components : List (String × Schema)) : String → String → Prop
  | here {key : String} {target : Schema} :
      components.lookup key = some target → target.kind ≠ .typeAlias → LeadsTo components key key
  | onward {key inner member : String} {target : Schema} :
      components.lookup key = some target → target.kind = .typeAlias →
        aliasTarget? target = some inner → LeadsTo components inner member →
          LeadsTo components key member

/-- The reference, which is nested so deep, leads to the component within the limit of nesting. -/
inductive LeadsWithin (components : List (String × Schema)) : (depth : Nat) → String → String → Prop
  | here {key : String} {target : Schema} {depth : Nat} :
      depth ≤ maxDepth → components.lookup key = some target → target.kind ≠ .typeAlias →
        LeadsWithin components depth key key
  | onward {key inner member : String} {target : Schema} {depth : Nat} :
      depth ≤ maxDepth → components.lookup key = some target → target.kind = .typeAlias →
        aliasTarget? target = some inner → LeadsWithin components (depth + 1) inner member →
          LeadsWithin components depth key member

def Brings (components : List (String × Schema)) (models : List Model) (key wire : String) : Prop :=
  ∃ member, LeadsTo components key member ∧
    ∃ model ∈ models, model.name = typeName member ∧ wire ∈ wireNames model.properties

/-- A composition has the name by itself or from an inline member, or one of these references brings
it. -/
def Receives (components : List (String × Schema)) (models : List Model) (schema : Schema)
    (references : List String) (wire : String) : Prop :=
  wire ∈ propertyKeys schema ∨ (∃ part ∈ schema.inlineMembers, wire ∈ propertyKeys part) ∨
    ∃ key ∈ references, Brings components models key wire

section Leading

variable {components : List (String × Schema)} {models models' : List Model}
  {key member wire : String}

theorem LeadsTo.eq_of_plain (leads : LeadsTo components key member)
    (plain : ∀ target ∈ components.lookup key, target.kind ≠ .typeAlias) : key = member := by
  cases leads with
  | here => rfl
  | onward looked kind => exact absurd kind (plain _ looked)

theorem Brings.mono (more : models ⊆ models') (brings : Brings components models key wire) :
    Brings components models' key wire := by
  obtain ⟨member, leads, model, mem, held⟩ := brings
  exact ⟨member, leads, model, more mem, held⟩

theorem Receives.mono {schema : Schema} {references references' : List String} (more : models ⊆ models')
    (less : references ⊆ references') (receives : Receives components models schema references wire) :
    Receives components models' schema references' wire := by
  rcases receives with own | inline | ⟨key, mem, brings⟩
  · exact .inl own
  · exact .inr (.inl inline)
  · exact .inr (.inr ⟨key, less mem, brings.mono more⟩)

theorem aliasTarget?_cases {schema : Schema} {inner : String} (target : aliasTarget? schema = some inner) :
    schema.ref.map componentName = some inner ∨
      schema.ref = none ∧ ∃ member, schema.soleMember? = some member ∧
        member.ref.map componentName = some inner := by
  unfold aliasTarget? at target
  cases written : schema.ref with
  | some ref => exact .inl (by simpa [written] using target)
  | none =>
    rw [written, Option.none_or, Option.map_bind] at target
    obtain ⟨member, first, target⟩ := Option.bind_eq_some_iff.1 target
    exact .inr ⟨rfl, member, by simp [Schema.soleMember?, first], target⟩

end Leading

section Runs

variable {components : List (String × Schema)} {scope : Scope} {schema : Schema} {active : List String}
  {n depth : Nat} {key member name wire : String} {origin : Origin} {draft draft' : Draft}

theorem leads_of_memberProperties {found : Option (String × List Property)}
    (run : (memberProperties n scope key depth).work draft = some (found, draft'))
    {brought : String × List Property} (some : found = some brought) :
    brought.2 = [] ∨ ∃ member, LeadsTo scope.components key member ∧
      ∃ model ∈ draft'.models, model.name = typeName member ∧ brought.2 = model.properties := by
  induction n generalizing key depth with
  | zero => cases run
  | succ n ih =>
    rcases memberProperties_run run with ⟨rfl, -, -⟩ | ⟨target, looked, -, kind, inner, hop, run⟩ |
      ⟨target, looked, -, kind, -, rfl⟩
    · cases some
    · refine (ih run).imp_right ?_
      rintro ⟨member, leads, held⟩
      exact ⟨member, .onward looked kind hop leads, held⟩
    · cases some
      cases present : draft'.model? (typeName key) with
      | none => exact .inl rfl
      | some model =>
        have named := List.find?_some present
        exact .inr ⟨key, .here looked kind, model, List.mem_of_find?_eq_some present, by simpa using named, rfl⟩

theorem brings_of_memberProperties {found : Option (String × List Property)}
    (run : (memberProperties n scope key depth).work draft = some (found, draft'))
    {brought : String × List Property} (some : found = some brought) (mem : wire ∈ wireNames brought.2) :
    Brings scope.components draft'.models key wire := by
  rcases leads_of_memberProperties run some with none | ⟨member, leads, model, made, named, same⟩
  · rw [none] at mem
    cases mem
  · exact ⟨member, leads, model, made, named, same ▸ mem⟩

/-- The component that a reference leads to is found unless it is being made. -/
theorem LeadsWithin.memberProperties_run (leads : LeadsWithin components depth key member)
    (idle : member ∉ active) {found : Option (String × List Property)}
    (run : (memberProperties n ⟨components, active⟩ key depth).work draft = some (found, draft')) :
    ∃ model ∈ draft'.models, model.name = typeName member ∧
      found = some (typeName member, model.properties) := by
  induction leads generalizing n with
  | @here key target depth short looked kind =>
    cases n with
    | zero => cases run
    | succ n =>
      rcases Lowering.memberProperties_run run with ⟨-, -, aliases⟩ | ⟨target', looked', -, kind', -⟩ |
        ⟨target', looked', -, -, lowered, rfl⟩
      · exact absurd (aliases short target looked).1 kind
      · rw [looked] at looked'
        cases looked'
        exact absurd kind' kind
      · rw [looked] at looked'
        cases looked'
        obtain ⟨model, mem, named, present⟩ :=
          model?_of_isLowered (isLowered_of_lowerComponent idle kind lowered)
        exact ⟨model, mem, named, by simp [present]⟩
  | @onward key inner member target depth short looked kind hop _ ih =>
    cases n with
    | zero => cases run
    | succ n =>
      rcases Lowering.memberProperties_run run with ⟨-, -, aliases⟩ |
        ⟨target', looked', deep, -, inner', hop', run⟩ | ⟨target', looked', -, kind', -⟩
      · have none := (aliases short target looked).2
        rw [hop] at none
        cases none
      · rw [looked] at looked'
        cases looked'
        rw [hop] at hop'
        cases hop'
        exact ih idle run
      · rw [looked] at looked'
        cases looked'
        exact absurd kind kind'

theorem LeadsWithin.leadsTo (leads : LeadsWithin components depth key member) :
    LeadsTo components key member := by
  induction leads with
  | here _ looked kind => exact .here looked kind
  | onward _ looked kind hop _ ih => exact .onward looked kind hop ih

theorem LeadsTo.within (leads : LeadsTo components key member) (shallow : Shallow components)
    (called : Reached components (.member key depth active)) : LeadsWithin components depth key member := by
  induction leads generalizing depth with
  | here looked kind => exact .here (shallow called) looked kind
  | onward looked kind hop _ ih =>
    have short := shallow called
    exact .onward short looked kind hop (ih (closed_reached called (.hop short looked kind hop)))

theorem plan_refers {target : Schema} (written : schema.ref.map componentName = some key)
    (looked : components.lookup key = some target) (depth : Nat) :
    plan components schema depth = .settled .any ∨
      plan components schema depth =
        if target.kind = .typeAlias then .onward (.reference key) target
        else .settled (.model (typeName key)) := by
  obtain ⟨ref, refers, rfl⟩ := Option.map_eq_some_iff.1 written
  by_cases deep : maxDepth < depth
  · exact .inl (if_pos deep)
  · rw [plan_reference components refers (Nat.not_lt.1 deep), looked]
    exact .inr rfl

theorem plan_sole {part : Schema} (kind : schema.kind = .typeAlias) (absent : schema.ref = none)
    (sole : schema.soleMember? = some part) (depth : Nat) :
    plan components schema depth = .settled .any ∨
      plan components schema depth = .onward .member part := by
  by_cases deep : maxDepth < depth
  · exact .inl (if_pos deep)
  · rw [plan, if_neg deep, absent]
    simp only [planWritten, kind, sole, or_true]

theorem typeOf_of_onward {passage : Passage} {next : Schema} {owner hint : String} {type : DataType}
    (planned : plan scope.components schema depth = .settled .any ∨
      plan scope.components schema depth = .onward passage next)
    (plain : ∀ type, passage.wrap type = type)
    (run : typeOf n scope schema owner hint origin depth draft = some (type, draft')) :
    type = .any ∨ ∃ n owner hint origin depth,
      typeOf n scope next owner hint origin depth draft = some (type, draft') := by
  cases n with
  | zero => cases run
  | succ n =>
    rw [typeOf_succ] at run
    rcases planned with planned | planned
    · rw [planned] at run
      exact .inl (Lower.pure_eq_some.1 run).1.symm
    · rw [planned] at run
      obtain ⟨inner, typed, rfl⟩ := Lower.map_eq_some.1 run
      rw [plain inner]
      exact .inr ⟨n, _, _, _, _, typed⟩

theorem LeadsTo.type (leads : LeadsTo components key member) {owner hint : String}
    {type : DataType} (written : schema.ref.map componentName = some key)
    (run : typeOf n ⟨components, active⟩ schema owner hint origin depth draft = some (type, draft')) :
    type = .any ∨ type = .model (typeName member) := by
  induction leads generalizing n schema owner hint origin depth with
  | @here key target looked kind =>
    have planned := plan_refers written looked depth
    rw [if_neg kind] at planned
    cases n with
    | zero => cases run
    | succ n =>
      rw [typeOf_succ] at run
      rcases planned with planned | planned
      · rw [planned] at run
        exact .inl (Lower.pure_eq_some.1 run).1.symm
      · rw [planned] at run
        exact .inr (Lower.pure_eq_some.1 run).1.symm
  | @onward key inner member target looked kind hop _ ih =>
    have planned := plan_refers written looked depth
    rw [if_pos kind] at planned
    rcases typeOf_of_onward planned (fun _ => rfl) run with any | ⟨n, _, _, _, depth, run⟩
    · exact .inl any
    rcases aliasTarget?_cases hop with refers | ⟨absent, part, sole, refers⟩
    · exact ih refers run
    · rcases typeOf_of_onward (plan_sole kind absent sole depth) (fun _ => rfl) run with
        any | ⟨n, _, _, _, depth, run⟩
      · exact .inl any
      · exact ih refers run

end Runs

section Names

variable {scope : Scope} {schema member : Schema} {n depth : Nat} {name wire : String}
  {origin : Origin} {draft draft' : Draft} {model : Model}

theorem mem_wireNames_of_modelOf
    (run : modelOf n scope .composition name schema origin depth draft = some (model, draft')) :
    ∃ m results, List.Forall₂ (fun member (result : Contribution) => ∃ before after,
        contribution m scope name depth member before = some (result, after) ∧ after ≤ draft')
          (schema.allOf.getD []) results ∧
      ∀ wire, wire ∈ wireNames model.properties ↔
        wire ∈ propertyKeys schema ∨ ∃ result ∈ results, wire ∈ result.names := by
  cases n with
  | zero => cases run
  | succ n =>
    obtain ⟨results, first, own, second, additional, gathered, owned, added, rfl⟩ :=
      compositionModel_eq_some.1 run
    have leOwn := (lowerProperties_run composes_le (typesKeep_le _) owned).1
    have leAdded := additionalType_keeps composes_le (typesKeep_le _) added
    have parts := (mapM_run composes_le (fun _ _ _ _ _ step => contribution_le step) gathered).2
    refine ⟨n, results, parts.imp ?_, fun wire => ?_⟩
    · rintro member result ⟨before, after, -, step, le⟩
      exact ⟨before, after, step, le_trans le (le_trans leOwn leAdded)⟩
    · rw [wireNames_composed, mem_firsts, List.mem_append, wireNames_of_lowerProperties owned,
        List.mem_flatMap, or_comm]

theorem receives_of_modelOf
    (run : modelOf n scope .composition name schema origin depth draft = some (model, draft'))
    (mem : wire ∈ wireNames model.properties) :
    Receives scope.components draft'.models schema schema.memberKeys wire := by
  obtain ⟨m, results, parts, names⟩ := mem_wireNames_of_modelOf run
  rcases (names wire).1 mem with own | ⟨result, listed, given⟩
  · exact .inl own
  obtain ⟨member, inside, before, after, step, le⟩ := exists_of_forall₂_right parts listed
  obtain ⟨references, inline⟩ := names_of_contribution step
  cases written : member.ref with
  | some ref =>
    obtain ⟨found, looked, same⟩ := references ref written
    rw [same] at given
    cases found with
    | none => cases given
    | some brought =>
      have reference : componentName ref ∈ schema.memberKeys :=
        List.mem_filterMap.2 ⟨member, inside, by simp [written]⟩
      have brings := (brings_of_memberProperties looked rfl given).mono fun _ => Draft.mem_models_of_le le
      exact .inr (.inr ⟨componentName ref, reference, brings⟩)
  | none =>
    rw [inline written] at given
    by_cases only : member.isDescriptionOnly
    · rw [if_pos only] at given
      cases given
    · rw [if_neg only] at given
      exact .inr (.inl ⟨member, List.mem_filter.2 ⟨inside, by simp [only, written]⟩, given⟩)

theorem names_of_own
    (run : modelOf n scope .composition name schema origin depth draft = some (model, draft')) :
    propertyKeys schema ⊆ wireNames model.properties := by
  obtain ⟨m, results, parts, names⟩ := mem_wireNames_of_modelOf run
  exact fun wire own => (names wire).2 (.inl own)

theorem names_of_inlineMember
    (run : modelOf n scope .composition name schema origin depth draft = some (model, draft'))
    (mem : member ∈ schema.inlineMembers) : propertyKeys member ⊆ wireNames model.properties := by
  obtain ⟨m, results, parts, names⟩ := mem_wireNames_of_modelOf run
  simp only [Schema.inlineMembers, List.mem_filter, Bool.and_eq_true, Bool.not_eq_true',
    Option.isNone_iff_eq_none] at mem
  obtain ⟨inside, substantial, absent⟩ := mem
  obtain ⟨result, listed, before, after, step, -⟩ := exists_of_forall₂ parts inside
  intro wire own
  refine (names wire).2 (.inr ⟨result, listed, ?_⟩)
  rw [(names_of_contribution step).2 absent, substantial]
  exact own

/-- What a reference leads to gives all its names, unless it is being made. -/
theorem LeadsTo.names_of_modelOf {components : List (String × Schema)} {active : List String}
    {key other : String} (leads : LeadsTo components key other) (shallow : Shallow components)
    (entered : Reached components (.model .composition schema depth active)) (idle : other ∉ active)
    (mem : key ∈ schema.memberKeys)
    (run : modelOf n ⟨components, active⟩ .composition name schema origin depth draft =
      some (model, draft')) :
    ∃ found ∈ draft'.models, found.name = typeName other ∧
      wireNames found.properties ⊆ wireNames model.properties := by
  obtain ⟨m, results, parts, names⟩ := mem_wireNames_of_modelOf run
  obtain ⟨member, inside, named⟩ := List.mem_filterMap.1 mem
  obtain ⟨ref, written, rfl⟩ := Option.map_eq_some_iff.1 named
  obtain ⟨result, listed, before, after, step, le⟩ := exists_of_forall₂ parts inside
  obtain ⟨found, looked, given⟩ := (names_of_contribution step).1 ref written
  have called := closed_reached entered (.reference mem)
  obtain ⟨source, kept, named, rfl⟩ := (leads.within shallow called).memberProperties_run idle looked
  refine ⟨source, Draft.mem_models_of_le le kept, named, fun wire held => ?_⟩
  refine (names wire).2 (.inr ⟨result, listed, ?_⟩)
  rw [given]
  exact held

end Names

end OpenApiCodegen.Lowering
