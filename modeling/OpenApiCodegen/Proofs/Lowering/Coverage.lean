import OpenApiCodegen.Proofs.Lowering.InheritedNames

namespace OpenApiCodegen.Lowering

open Api
open OpenApi (Schema SchemaKind Document NormalDocument componentName)

def Call.isComponent : Call → Bool
  | .component _ _ _ _ => true
  | _ => false

/-- One call makes another in the course of making one component. -/
def Within (components : List (String × Schema)) (call call' : Call) : Prop :=
  Calls components call call' ∧ call.isComponent = false

def Covered (draft : Draft) (active : List String) (key : String) : Prop :=
  isLowered draft (typeName key) = true ∨ key ∈ active

theorem Covered.mono {draft draft' : Draft} {active : List String} {key : String} (le : draft ≤ draft')
    (covered : Covered draft active key) : Covered draft' active key :=
  covered.imp_left (isLowered_of_le le)

def Covers (components : List (String × Schema)) (active : List String) (draft : Draft) (call : Call) : Prop :=
  ∀ ⦃key schema depth⦄, Relation.ReflTransGen (Within components) call (.component key schema depth active) →
    Covered draft active key

def GetsType (n : Nat) (scope : Scope) (schema : Schema) (draft : Draft) : Prop :=
  ∃ owner hint before type after,
    typeOf n scope schema owner hint .inlineObject 0 before = some (type, after) ∧ after ≤ draft

theorem GetsType.mono {n : Nat} {scope : Scope} {schema : Schema} {draft draft' : Draft}
    (le : draft ≤ draft') (typed : GetsType n scope schema draft) : GetsType n scope schema draft' := by
  obtain ⟨owner, hint, before, type, after, run, le'⟩ := typed
  exact ⟨owner, hint, before, type, after, run, le_trans le' le⟩

section Runs

variable {components : List (String × Schema)} {active : List String} {draft draft' : Draft}
  {n depth : Nat} {schema part : Schema} {name key : String} {origin : Origin}

theorem Covers.mono {call : Call} (le : draft ≤ draft') (covers : Covers components active draft call) :
    Covers components active draft' call :=
  fun _ _ _ path => (covers path).mono le

theorem covers_of_calls {call : Call} (inner : call.isComponent = false)
    (each : ∀ call', Calls components call call' → Covers components active draft call') :
    Covers components active draft call := by
  intro key schema depth path
  rcases Relation.ReflTransGen.cases_head path with rfl | ⟨call', ⟨calls, -⟩, path⟩
  · cases inner
  · exact each call' calls path

theorem covered_of_lowerComponent (kind : schema.kind ≠ .typeAlias)
    (run : (lowerComponent n ⟨components, active⟩ key schema depth).work draft = some ((), draft')) :
    Covered draft' active key := by
  by_cases busy : key ∈ active
  · exact .inr busy
  · exact .inl (isLowered_of_lowerComponent busy kind run)

theorem getsType_of_lowerProperties {scope : Scope} {owner : String} {properties : List Property}
    (run : (lowerProperties scope.components (typeOf n scope) owner schema).work draft =
      some (properties, draft')) (mem : part ∈ schema.propertySchemas) :
    GetsType n scope part draft' := by
  obtain ⟨entry, listed, rfl⟩ := List.mem_map.1 mem
  obtain ⟨-, typed⟩ := lowerProperties_run composes_le (typesKeep_le _) run
  obtain ⟨property, -, before, type, after, -, made, le, -⟩ := exists_of_forall₂ typed listed
  exact ⟨owner, entry.1, before, type, after, made, le⟩

theorem getsType_of_additionalType {scope : Scope} {owner : String} {additional : Option DataType}
    (run : additionalType (typeOf n scope) owner schema draft = some (additional, draft'))
    (mem : part ∈ schema.valueSchemas) : GetsType n scope part draft' := by
  rcases written : schema.additional with _ | (yes | value) <;>
    simp only [Schema.valueSchemas, written, List.mem_singleton, List.not_mem_nil] at mem
  subst mem
  simp only [additionalType, written] at run
  obtain ⟨type, typed, -⟩ := Lower.map_eq_some.1 run
  exact ⟨owner, "Value", draft, type, draft', typed, le_refl draft'⟩

theorem getsType_of_recordModel {scope : Scope} {model : Model}
    (run : (recordModel scope.components (typeOf n scope) name schema origin).work draft =
      some (model, draft')) (mem : part ∈ schema.contents) : GetsType n scope part draft' := by
  obtain ⟨properties, middle, additional, owned, added, -⟩ := recordModel_eq_some.1 run
  rcases List.mem_append.1 mem with mem | mem
  · exact (getsType_of_lowerProperties owned mem).mono
      (additionalType_keeps composes_le (typesKeep_le _) added)
  · exact getsType_of_additionalType added mem

theorem getsType_of_contribution {scope : Scope} {member : Schema} {result : Contribution}
    (run : contribution n scope name depth member draft = some (result, draft'))
    (substantial : ¬ member.isDescriptionOnly) (written : member.ref = none)
    (mem : part ∈ member.contents) : GetsType n scope part draft' := by
  unfold contribution at run
  rw [if_neg substantial, written] at run
  simp only [Lower.bind_eq_some, Lower.pure_eq_some, pushModel_eq_some] at run
  obtain ⟨_, _, _, model, middle, made, _, last, rfl, -, rfl⟩ := run
  exact (getsType_of_recordModel made mem).mono (middle.le_push model)

theorem compositionModel_covers {scope : Scope} {model : Model}
    (run : (compositionModel (n + 1) scope name schema origin depth).work draft = some (model, draft')) :
    (∀ part ∈ schema.contentsAs .composition, GetsType n scope part draft') ∧
      ∀ key ∈ schema.memberKeys, ∃ before found after,
        (memberProperties n scope key depth).work before = some (found, after) ∧ after ≤ draft' := by
  obtain ⟨contributions, first, own, second, additional, gathered, owned, added, -⟩ :=
    compositionModel_eq_some.1 run
  have leOwn := (lowerProperties_run composes_le (typesKeep_le _) owned).1
  have leAdded := additionalType_keeps composes_le (typesKeep_le _) added
  have parts := (mapM_run composes_le (fun _ _ _ _ _ step => contribution_le step) gathered).2
  constructor
  · intro part mem
    rcases List.mem_append.1 mem with inside | own
    · obtain ⟨member, inline, inside⟩ := List.mem_flatMap.1 inside
      simp only [Schema.inlineMembers, List.mem_filter, Bool.and_eq_true, Bool.not_eq_true',
        Option.isNone_iff_eq_none] at inline
      obtain ⟨listed, substantial, written⟩ := inline
      obtain ⟨result, -, before, after, -, step, le⟩ := exists_of_forall₂ parts listed
      exact (getsType_of_contribution step (by simp [substantial]) written inside).mono
        (le_trans le (le_trans leOwn leAdded))
    · rcases List.mem_append.1 own with mem | mem
      · exact (getsType_of_lowerProperties owned mem).mono leAdded
      · exact getsType_of_additionalType added mem
  · intro key mem
    obtain ⟨member, listed, named⟩ := List.mem_filterMap.1 mem
    obtain ⟨ref, written, rfl⟩ := Option.map_eq_some_iff.1 named
    obtain ⟨result, -, before, after, -, step, le⟩ := exists_of_forall₂ parts listed
    obtain ⟨found, looked, -⟩ := exists_memberProperties_of_contribution step written
    exact ⟨before, found, after, looked, le_trans le (le_trans leOwn leAdded)⟩

theorem getsType_of_modelOf {scope : Scope} {kind : SchemaKind} {model : Model}
    (plain : kind ≠ .composition)
    (run : modelOf n scope kind name schema origin depth draft = some (model, draft'))
    (mem : part ∈ schema.contentsAs kind) : GetsType n scope part draft' := by
  cases kind with
  | enumeration => cases mem
  | union =>
    obtain ⟨properties, owned, -⟩ := unionModel_eq_some.1 run
    exact getsType_of_lowerProperties owned mem
  | composition => exact absurd rfl plain
  | record => exact getsType_of_recordModel run mem
  | typeAlias => exact getsType_of_recordModel run mem
  | unsupported reason => cases mem

theorem GetsType.covers
    (types : ∀ {schema owner hint origin depth draft type draft'},
      typeOf n ⟨components, active⟩ schema owner hint origin depth draft = some (type, draft') →
        Covers components active draft' (.type schema depth active))
    (typed : GetsType n ⟨components, active⟩ schema draft) :
    Covers components active draft (.type schema 0 active) := by
  obtain ⟨owner, hint, before, type, after, run, le⟩ := typed
  exact (types run).mono le

theorem modelOf_covers
    (types : ∀ {schema owner hint origin depth draft type draft'},
      typeOf n ⟨components, active⟩ schema owner hint origin depth draft = some (type, draft') →
        Covers components active draft' (.type schema depth active))
    (composition : ∀ {name schema origin depth draft model draft'},
      (compositionModel n ⟨components, active⟩ name schema origin depth).work draft = some (model, draft') →
        Covers components active draft' (.model .composition schema depth active))
    {kind : SchemaKind} {model : Model}
    (run : modelOf n ⟨components, active⟩ kind name schema origin depth draft = some (model, draft')) :
    Covers components active draft' (.model kind schema depth active) := by
  by_cases composed : kind = .composition
  · subst composed
    exact composition run
  · refine covers_of_calls rfl fun call' calls => ?_
    cases calls with
    | content mem => exact (getsType_of_modelOf composed run mem).covers types
    | reference mem => exact absurd rfl composed

theorem memberProperties_covers {found : Option (String × List Property)}
    (members : ∀ {key depth draft found draft'},
      (memberProperties n ⟨components, active⟩ key depth).work draft = some (found, draft') →
        Covers components active draft' (.member key depth active))
    (run : (memberProperties (n + 1) ⟨components, active⟩ key depth).work draft = some (found, draft')) :
    Covers components active draft' (.member key depth active) := by
  refine covers_of_calls rfl fun call' calls => ?_
  rcases memberProperties_run run with ⟨-, -, aliases⟩ | ⟨target, looked, -, kind, inner, hop, run⟩ |
    ⟨target, looked, -, kind, lowered, -⟩
  · cases calls with
    | hop shallow looked kind hop =>
      have none := (aliases shallow _ looked).2
      rw [none] at hop
      cases hop
    | lower shallow looked kind => exact absurd (aliases shallow _ looked).1 kind
  · cases calls with
    | hop _ looked' _ hop' =>
      rw [looked] at looked'
      cases looked'
      rw [hop] at hop'
      cases hop'
      exact members run
    | lower _ looked' kind' =>
      rw [looked] at looked'
      cases looked'
      exact absurd kind kind'
  · cases calls with
    | hop _ looked' kind' _ =>
      rw [looked] at looked'
      cases looked'
      exact absurd kind' kind
    | lower _ looked' _ =>
      rw [looked] at looked'
      cases looked'
      intro key' schema depth' path
      -- the path ends here: making a component is no part of making another one
      rcases Relation.ReflTransGen.cases_head path with same | ⟨_, ⟨_, inner⟩, _⟩
      · cases same
        exact covered_of_lowerComponent kind lowered
      · cases inner

theorem covers_of_run (n : Nat) :
    (∀ {schema owner hint origin depth draft type draft'},
      typeOf n ⟨components, active⟩ schema owner hint origin depth draft = some (type, draft') →
        Covers components active draft' (.type schema depth active)) ∧
    (∀ {name schema origin depth draft model draft'},
      (compositionModel n ⟨components, active⟩ name schema origin depth).work draft = some (model, draft') →
        Covers components active draft' (.model .composition schema depth active)) ∧
    ∀ {key depth draft found draft'},
      (memberProperties n ⟨components, active⟩ key depth).work draft = some (found, draft') →
        Covers components active draft' (.member key depth active) := by
  induction n with
  | zero => refine ⟨?_, ?_, ?_⟩ <;> intros <;> rename_i run <;> cases run
  | succ n ih =>
    obtain ⟨types, compositions, members⟩ := ih
    refine ⟨?_, ?_, ?_⟩
    · intro schema owner hint origin depth draft type draft' run
      rw [typeOf_succ] at run
      refine covers_of_calls rfl fun call' calls => ?_
      cases calls with
      | onward planned =>
        rw [planned] at run
        obtain ⟨type, next, -⟩ := Lower.map_eq_some.1 run
        exact types next
      | made planned =>
        rw [planned] at run
        obtain ⟨name, model, middle, -, made, -, rfl⟩ := Plan.carryOut_make_run run
        exact (modelOf_covers types compositions made).mono (middle.le_push model)
    · intro name schema origin depth draft model draft' run
      obtain ⟨contents, references⟩ := compositionModel_covers run
      refine covers_of_calls rfl fun call' calls => ?_
      cases calls with
      | content mem => exact (contents _ mem).covers types
      | reference mem =>
        obtain ⟨before, found, after, looked, le⟩ := references _ mem
        exact (members looked).mono le
    · intro key depth draft found draft' run
      exact memberProperties_covers members run

end Runs

/-- No member of a composition is nested so deep that it would be left out. -/
def Shallow (components : List (String × Schema)) : Prop :=
  ∀ {key depth active}, Reached components (.member key depth active) → depth ≤ maxDepth

/-- A call and the one that stands for it when other components are active. The types of contents
start anew; only members are nested deeper or less deep. -/
inductive Alike (active : List String) : Call → Call → Prop
  | type {schema : Schema} {depth : Nat} {others : List String} :
      Alike active (.type schema depth others) (.type schema depth active)
  | model {kind : SchemaKind} {schema : Schema} {depth depth' : Nat} {others : List String} :
      Alike active (.model kind schema depth others) (.model kind schema depth' active)
  | member {key : String} {depth depth' : Nat} {others : List String} :
      Alike active (.member key depth others) (.member key depth' active)
  | component {key : String} {schema : Schema} {depth depth' : Nat} {others : List String} :
      Alike active (.component key schema depth others) (.component key schema depth' active)

section Demanding

variable {components : List (String × Schema)} {active : List String} {call call' copy : Call}

theorem Within.replay (shallow : Shallow components) (within : Within components call call')
    (alike : Alike active call copy) (reached : Reached components copy) :
    ∃ copy', Within components copy copy' ∧ Alike active call' copy' := by
  obtain ⟨calls, inner⟩ := within
  cases alike with
  | type =>
    cases calls with
    | onward planned => exact ⟨_, ⟨.onward planned, rfl⟩, .type⟩
    | made planned => exact ⟨_, ⟨.made planned, rfl⟩, .model⟩
  | model =>
    cases calls with
    | content mem => exact ⟨_, ⟨.content mem, rfl⟩, .type⟩
    | reference mem => exact ⟨_, ⟨.reference mem, rfl⟩, .member⟩
  | member =>
    cases calls with
    | hop _ looked kind hop => exact ⟨_, ⟨.hop (shallow reached) looked kind hop, rfl⟩, .member⟩
    | lower _ looked kind => exact ⟨_, ⟨.lower (shallow reached) looked kind, rfl⟩, .component⟩
  | component => cases inner

theorem replay (shallow : Shallow components)
    (path : Relation.ReflTransGen (Within components) call call') (alike : Alike active call copy)
    (reached : Reached components copy) :
    ∃ copy', Relation.ReflTransGen (Within components) copy copy' ∧ Alike active call' copy' := by
  -- the copies are reached as well, so none of them is too deep to go on
  have stays : ∃ copy', Relation.ReflTransGen (Within components) copy copy' ∧
      Alike active call' copy' ∧ Reached components copy' := by
    induction path with
    | refl => exact ⟨copy, .refl, alike, reached⟩
    | tail _ within ih =>
      obtain ⟨middle, path, alike, reached⟩ := ih
      obtain ⟨copy', within', alike'⟩ := within.replay shallow alike reached
      exact ⟨copy', path.tail within', alike', closed_reached reached within'.1⟩
  obtain ⟨copy', path, alike, -⟩ := stays
  exact ⟨copy', path, alike⟩

def CallsFor (components : List (String × Schema)) (key other : String) : Prop :=
  ∃ schema depth active target depth' active', (key, schema) ∈ components ∧
    schema.kind ≠ .typeAlias ∧
      Relation.ReflTransGen (Within components) (.model schema.kind schema depth active)
        (.component other target depth' active')

theorem callsFor_of_path {key : String} {schema : Schema} {depth : Nat} (listed : (key, schema) ∈ components)
    (path : Relation.ReflTransGen (Calls components) (.component key schema depth active) call) :
    ∃ owner top, (owner, top) ∈ components ∧ Relation.ReflTransGen (CallsFor components) key owner ∧
      ((∃ depth active, call = .component owner top depth active) ∨
        call.isComponent = false ∧ top.kind ≠ .typeAlias ∧ ∃ depth active,
          Relation.ReflTransGen (Within components) (.model top.kind top depth active) call) := by
  induction path with
  | refl => exact ⟨key, schema, listed, .refl, .inl ⟨_, _, rfl⟩⟩
  | @tail before call _ calls ih =>
    obtain ⟨owner, top, mem, demanded, ⟨depth, active, rfl⟩ | ⟨inner, kind, depth, active, path⟩⟩ := ih
    · cases calls with
      | entered free kind => exact ⟨owner, top, mem, demanded, .inr ⟨rfl, kind, _, _, .refl⟩⟩
    -- only a call for another component leaves the making of the owner
    · have path' := path.tail ⟨calls, inner⟩
      cases calls with
      | @lower target depth' active' other shallow looked plain =>
        exact ⟨other, target, mem_of_lookup looked,
          demanded.tail ⟨top, depth, active, target, _, _, mem, kind, path'⟩, .inl ⟨_, _, rfl⟩⟩
      | onward => exact ⟨owner, top, mem, demanded, .inr ⟨rfl, kind, _, _, path'⟩⟩
      | made => exact ⟨owner, top, mem, demanded, .inr ⟨rfl, kind, _, _, path'⟩⟩
      | content => exact ⟨owner, top, mem, demanded, .inr ⟨rfl, kind, _, _, path'⟩⟩
      | reference => exact ⟨owner, top, mem, demanded, .inr ⟨rfl, kind, _, _, path'⟩⟩
      | hop => exact ⟨owner, top, mem, demanded, .inr ⟨rfl, kind, _, _, path'⟩⟩
      | entered => cases inner

theorem callsFor_of_demands {key other : String} (demands : Demands components key other) :
    Relation.ReflTransGen (CallsFor components) key other := by
  obtain ⟨schema, depth, active, schema', depth', active', listed, path⟩ := demands
  obtain ⟨owner, top, -, demanded, ⟨_, _, same⟩ | ⟨inner, -⟩⟩ := callsFor_of_path listed path
  · cases same
    exact demanded
  · cases inner

end Demanding

def Followed (components : List (String × Schema)) (draft : Draft) (active : List String) : Prop :=
  ∀ ⦃key other⦄, CallsFor components key other → isLowered draft (typeName key) = true →
    Covered draft active other

section Following

variable {components : List (String × Schema)} {active : List String} {draft draft' : Draft}
  {n depth : Nat} {schema : Schema} {key other : String} {model : Model}

theorem isLowered_push {name : String} :
    isLowered (draft.push model) name = true ↔ model.name = name ∨ isLowered draft name = true := by
  simp [isLowered, Draft.push]

theorem covered_of_modelOf (distinct : (components.map fun entry => typeName entry.1).Nodup)
    (shallow : Shallow components)
    (called : Reached components (.component key schema depth active)) (free : key ∉ active)
    (kind : schema.kind ≠ .typeAlias)
    (run : modelOf n ⟨components, key :: active⟩ schema.kind (typeName key) schema .component depth
      draft = some (model, draft')) (callsFor : CallsFor components key other) :
    Covered draft' (key :: active) other := by
  obtain ⟨schema', depth', active', target, depth'', active'', listed, _, path⟩ := callsFor
  have same : (key, schema') = (key, schema) :=
    List.inj_on_of_nodup_map distinct listed called.listed rfl
  cases same
  have reached := closed_reached called (.entered free kind)
  have model : Alike (key :: active) (.model schema.kind schema depth' active')
      (.model schema.kind schema depth (key :: active)) := .model
  obtain ⟨copy, path, alike⟩ := replay shallow path model reached
  cases alike with
  | component =>
    have covers : Covers components (key :: active) draft' (.model schema.kind schema depth (key :: active)) :=
      modelOf_covers (covers_of_run n).1 (covers_of_run n).2.1 run
    exact covers path

theorem History.followed (distinct : (components.map fun entry => typeName entry.1).Nodup)
    (shallow : Shallow components)
    (history : History components (Reached components) active draft draft')
    (reserved : Reserved components draft) (followed : Followed components draft active) :
    Followed components draft' active := by
  refine history.keeps (I := fun active draft => Followed components draft active) ?_ reserved followed
  constructor
  · exact fun followed => followed
  · exact fun followed _ _ callsFor lowered =>
      (followed callsFor lowered).imp_right (List.mem_cons_of_mem _)
  · intro active draft model unnamed followed key other callsFor lowered
    rcases isLowered_push.1 lowered with named | lowered
    · obtain ⟨schema, _, _, _, _, _, listed, -⟩ := callsFor
      exact absurd named.symm (unnamed _ listed)
    · exact (followed callsFor lowered).mono (draft.le_push model)
  · intro active before draft made schema model n depth called free kind _ run _ followed
    -- what was covered by the component being made is covered by its model from now on
    have kept : ∀ {other}, Covered draft (made :: active) other → Covered (draft.push model) active other := by
      intro other covered
      rcases covered with lowered | busy
      · exact .inl (isLowered_push.2 (.inr lowered))
      · rcases List.mem_cons.1 busy with rfl | busy
        · exact .inl (isLowered_push.2 (.inl (name_of_modelOf run)))
        · exact .inr busy
    intro key other callsFor lowered
    rcases isLowered_push.1 lowered with named | lowered
    · obtain ⟨top, _, _, _, _, _, listed, -⟩ := id callsFor
      have same : (key, top) = (made, schema) :=
        List.inj_on_of_nodup_map distinct listed called.listed
          (named.symm.trans (name_of_modelOf run))
      cases same
      exact kept (covered_of_modelOf distinct shallow called free kind run callsFor)
    · exact kept (followed callsFor lowered)

end Following

end OpenApiCodegen.Lowering
