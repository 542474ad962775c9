import OpenApiCodegen.Proofs.Lowering.Calls
import OpenApiCodegen.Proofs.Lowering.FreshNames

namespace OpenApiCodegen.Lowering

open Api
open OpenApi (Schema SchemaKind componentName)

/-- The models made between two drafts while components are active. A model of a component is made
by a call that has begun, a model without a name of its own under a fresh name. -/
inductive History (components : List (String × Schema)) (begun : Call → Prop) :
    List String → Draft → Draft → Prop
  | done {active : List String} {draft : Draft} : History components begun active draft draft
  | inline {active : List String} {draft middle draft' : Draft} {name : String} {model : Model}
      {n depth : Nat} {kind : SchemaKind} {schema : Schema} {origin : Origin} :
      name ∉ draft.taken →
        History components begun active (draft.reserve name) middle →
          modelOf n ⟨components, active⟩ kind name schema origin depth (draft.reserve name) =
              some (model, middle) →
            History components begun active (middle.push model) draft' →
              History components begun active draft draft'
  | component {active : List String} {draft middle draft' : Draft} {key : String} {model : Model}
      {n depth : Nat} {schema : Schema} :
      begun (.component key schema depth active) → key ∉ active → schema.kind ≠ .typeAlias →
        isLowered draft (typeName key) = false →
          History components begun (key :: active) draft middle →
            modelOf n ⟨components, key :: active⟩ schema.kind (typeName key) schema .component depth
                draft = some (model, middle) →
              History components begun active (middle.push model) draft' →
                History components begun active draft draft'

namespace History

variable {components : List (String × Schema)} {begun : Call → Prop} {active : List String}
  {draft middle draft' : Draft}

theorem trans (first : History components begun active draft middle)
    (second : History components begun active middle draft') :
    History components begun active draft draft' := by
  induction first with
  | done => exact second
  | inline fresh within run _ _ ih => exact .inline fresh within run (ih second)
  | component called free kind absent within run _ _ ih =>
    exact .component called free kind absent within run (ih second)

theorem composes : Composes (History components begun active) :=
  ⟨fun _ => .done, trans⟩

theorem le (history : History components begun active draft draft') : draft ≤ draft' := by
  induction history with
  | done => exact le_refl _
  | inline _ _ _ _ within after =>
    exact le_trans (Draft.le_reserve _ _) (le_trans within (le_trans (Draft.le_push _ _) after))
  | component _ _ _ _ _ _ _ within after =>
    exact le_trans within (le_trans (Draft.le_push _ _) after)

end History

def Reserved (components : List (String × Schema)) (draft : Draft) : Prop :=
  ∀ entry ∈ components, typeName entry.1 ∈ draft.taken

theorem Reserved.mono {components : List (String × Schema)} {draft draft' : Draft} (le : draft ≤ draft')
    (reserved : Reserved components draft) : Reserved components draft' :=
  fun entry mem => Draft.mem_taken_of_le le (reserved entry mem)

/-- What each step of a history keeps. Models of no component are called after none, as long as the
names of components are reserved. -/
structure Invariant (components : List (String × Schema)) (begun : Call → Prop)
    (I : List String → Draft → Prop) : Prop where
  reserve : ∀ {active draft name}, I active draft → I active (draft.reserve name)
  enter : ∀ {active draft key}, I active draft → I (key :: active) draft
  inline : ∀ {active draft model}, (∀ entry ∈ components, typeName entry.1 ≠ model.name) →
    I active draft → I active (draft.push model)
  component : ∀ {active before draft key schema model n depth},
    begun (.component key schema depth active) → key ∉ active → schema.kind ≠ .typeAlias →
      isLowered before (typeName key) = false →
        modelOf n ⟨components, key :: active⟩ schema.kind (typeName key) schema .component depth before =
            some (model, draft) →
          I active before → I (key :: active) draft → I active (draft.push model)

section Histories

variable {components : List (String × Schema)} {begun : Call → Prop} {active : List String}
  {draft draft' : Draft}

theorem History.keeps {I : List String → Draft → Prop} (invariant : Invariant components begun I)
    (history : History components begun active draft draft') (reserved : Reserved components draft)
    (holds : I active draft) : I active draft' := by
  induction history with
  | done => exact holds
  | @inline active draft middle draft' name model n depth kind schema origin fresh within run after
      inner later =>
    have kept := reserved.mono (draft.le_reserve name)
    have kept' := kept.mono (le_trans within.le (middle.le_push model))
    -- a fresh name is not reserved
    have other : ∀ entry ∈ components, typeName entry.1 ≠ model.name := by
      intro entry mem same
      rw [name_of_modelOf run] at same
      exact fresh (same ▸ reserved entry mem)
    exact later kept' (invariant.inline other (inner kept (invariant.reserve holds)))
  | @component active draft middle draft' key model n depth schema called free kind absent within run
      after inner later =>
    have kept' := reserved.mono (le_trans within.le (middle.le_push model))
    have held := inner reserved (invariant.enter holds)
    exact later kept' (invariant.component called free kind absent run holds held)

/-- The model was made for a component by a call that had begun, while at least this was active. -/
inductive MadeFor (components : List (String × Schema)) (begun : Call → Prop) (active : List String)
    (draft : Draft) (model : Model) : Prop
  | intro {key : String} {schema : Schema} {depth n : Nat} {others : List String} {before after : Draft} :
      begun (.component key schema depth others) → active ⊆ others → key ∉ others →
        schema.kind ≠ .typeAlias →
          modelOf n ⟨components, key :: others⟩ schema.kind (typeName key) schema .component depth
              before = some (model, after) →
            after ≤ draft → MadeFor components begun active draft model

theorem MadeFor.mono {model : Model} (le : draft ≤ draft') (made : MadeFor components begun active draft model) :
    MadeFor components begun active draft' model := by
  obtain ⟨called, more, free, kind, run, le'⟩ := made
  exact ⟨called, more, free, kind, run, le_trans le' le⟩

/-- A model with the name of a component was made for a component; the names of all others are
fresh. -/
theorem History.origin (history : History components begun active draft draft')
    (reserved : Reserved components draft) {model : Model} (mem : model ∈ draft'.models) :
    model ∈ draft.models ∨ (∀ entry ∈ components, typeName entry.1 ≠ model.name) ∨
      MadeFor components begun active draft' model := by
  have invariant : Invariant components begun fun inner later => active ⊆ inner ∧
      ∀ model ∈ later.models, model ∈ draft.models ∨
        (∀ entry ∈ components, typeName entry.1 ≠ model.name) ∨
          MadeFor components begun active later model := by
    constructor
    · rintro inner later name ⟨more, known⟩
      refine ⟨more, fun model mem => ?_⟩
      exact (known model mem).imp_right (.imp_right (.mono (later.le_reserve name)))
    · rintro inner later key ⟨more, known⟩
      exact ⟨List.subset_cons_of_subset key more, known⟩
    · rintro inner later made other ⟨more, known⟩
      refine ⟨more, fun model mem => ?_⟩
      rcases List.mem_cons.1 mem with rfl | mem
      · exact .inr (.inl other)
      · exact (known model mem).imp_right (.imp_right (.mono (later.le_push made)))
    · rintro inner before later key schema made n depth called free kind - run ⟨more, -⟩ ⟨-, known⟩
      refine ⟨more, fun model mem => ?_⟩
      rcases List.mem_cons.1 mem with rfl | mem
      · exact .inr (.inr ⟨called, more, free, kind, run, later.le_push model⟩)
      · exact (known model mem).imp_right (.imp_right (.mono (later.le_push made)))
  exact (history.keeps invariant reserved ⟨List.Subset.refl active, fun _ mem => .inl mem⟩).2 model mem

end Histories

/-- The schema of a model that gets a fresh name: one that a type is asked for, or a member written inside
a composition. -/
def Unnamed (begun : Call → Prop) (active : List String) (kind : SchemaKind) (schema : Schema)
    (depth : Nat) : Prop :=
  begun (.model kind schema depth active) ∨
    ∃ whole, begun (.model .composition whole depth active) ∧ schema ∈ whole.inlineMembers

/-- A relation that holds of the drafts before and after a model is made, if it holds of what is done on
the way, and of drafts that lie several such steps apart. -/
structure Steps (components : List (String × Schema)) (begun : Call → Prop)
    (R : List String → Draft → Draft → Prop) : Prop where
  composes : ∀ active, Composes (R active)
  inline : ∀ {active draft middle name model n depth kind schema origin},
    Unnamed begun active kind schema depth → name ∉ draft.taken → R active (draft.reserve name) middle →
      modelOf n ⟨components, active⟩ kind name schema origin depth (draft.reserve name) =
          some (model, middle) → R active draft (middle.push model)
  component : ∀ {active draft middle key model n depth schema},
    begun (.component key schema depth active) → key ∉ active → schema.kind ≠ .typeAlias →
      isLowered draft (typeName key) = false → R (key :: active) draft middle →
        modelOf n ⟨components, key :: active⟩ schema.kind (typeName key) schema .component depth draft =
            some (model, middle) → R active draft (middle.push model)

theorem History.steps (components : List (String × Schema)) (begun : Call → Prop) :
    Steps components begun (History components begun) where
  composes _ := History.composes
  inline _ fresh within run := .inline fresh within run .done
  component called free kind absent within run := .component called free kind absent within run .done

def RunsKeep (components : List (String × Schema)) (begun : Call → Prop)
    (R : List String → Draft → Draft → Prop) (n : Nat) : Prop :=
  (∀ {active schema owner hint origin depth draft type draft'},
      begun (.type schema depth active) →
        typeOf n ⟨components, active⟩ schema owner hint origin depth draft = some (type, draft') →
          R active draft draft') ∧
  (∀ {active name schema origin depth draft model draft'},
      begun (.model .composition schema depth active) →
        (compositionModel n ⟨components, active⟩ name schema origin depth).work draft =
            some (model, draft') → R active draft draft') ∧
  (∀ {active key depth draft found draft'}, begun (.member key depth active) →
      (memberProperties n ⟨components, active⟩ key depth).work draft = some (found, draft') →
        R active draft draft') ∧
  ∀ {active key schema depth draft draft'}, begun (.component key schema depth active) →
      (lowerComponent n ⟨components, active⟩ key schema depth).work draft = some ((), draft') →
        R active draft draft'

section Runs

variable {components : List (String × Schema)} {begun : Call → Prop} {active : List String}
  {R : List String → Draft → Draft → Prop} {draft draft' : Draft} {n depth : Nat}

theorem typesKeep_steps {parts : List Schema}
    (types : ∀ {schema owner hint origin depth draft type draft'}, begun (.type schema depth active) →
      typeOf n ⟨components, active⟩ schema owner hint origin depth draft = some (type, draft') →
        R active draft draft')
    (called : ∀ part ∈ parts, begun (.type part 0 active)) :
    TypesKeep (R active) (typeOf n ⟨components, active⟩) parts :=
  fun part mem _ _ _ _ _ run => types (called part mem) run

theorem contribution_steps (steps : Steps components begun R) {name : String} {member : Schema}
    {result : Contribution}
    (unnamed : ¬ member.isDescriptionOnly → member.ref = none → Unnamed begun active .record member depth)
    (types : ¬ member.isDescriptionOnly → member.ref = none → TypesKeep (R active)
      (typeOf n ⟨components, active⟩) member.contents)
    (members : ∀ ref ∈ member.ref, ∀ draft found draft',
      (memberProperties n ⟨components, active⟩ (componentName ref) depth).work draft = some (found, draft') →
        R active draft draft')
    (run : contribution n ⟨components, active⟩ name depth member draft = some (result, draft')) :
    R active draft draft' := by
  have composes := steps.composes active
  unfold contribution at run
  split at run
  · obtain ⟨-, rfl⟩ := Lower.pure_eq_some.1 run
    exact composes.refl _
  · rename_i substantial
    cases written : member.ref with
    | some ref =>
      simp only [written, Lower.bind_eq_some] at run
      obtain ⟨found, middle, looked, rest⟩ := run
      have same : middle = draft' := by
        cases found <;> exact (Lower.pure_eq_some.1 rest).2
      exact same ▸ members ref written _ _ _ looked
    | none =>
      simp only [written, Lower.bind_eq_some, Lower.pure_eq_some, inlineName_eq_some,
        pushModel_eq_some] at run
      obtain ⟨memberName, start, ⟨rfl, rfl⟩, model, middle, made, -, -, rfl, -, rfl⟩ := run
      have within := recordModel_keeps composes (types substantial written) made
      exact steps.inline (unnamed substantial written) (freshName_not_mem _ _) within
        (show modelOf n ⟨components, active⟩ .record _ member .composition depth _ = _ from made)

theorem compositionModel_steps (steps : Steps components begun R) {name : String} {schema : Schema}
    {origin : Origin} {model : Model} (called : begun (.model .composition schema depth active))
    (contents : TypesKeep (R active) (typeOf n ⟨components, active⟩) (schema.contentsAs .composition))
    (members : ∀ key ∈ schema.memberKeys, ∀ draft found draft',
      (memberProperties n ⟨components, active⟩ key depth).work draft = some (found, draft') →
        R active draft draft')
    (run : (compositionModel (n + 1) ⟨components, active⟩ name schema origin depth).work draft =
      some (model, draft')) : R active draft draft' := by
  have composes := steps.composes active
  obtain ⟨contributions, first, own, second, additional, gathered, owned, added, -⟩ :=
    compositionModel_eq_some.1 run
  have parts : R active draft first := by
    refine (mapM_run composes ?_ gathered).1
    intro member mem draft result draft' run
    have inline : ¬ member.isDescriptionOnly → member.ref = none → member ∈ schema.inlineMembers := by
      intro substantial written
      simp only [Schema.inlineMembers, List.mem_filter]
      exact ⟨mem, by simp [substantial, written]⟩
    refine contribution_steps steps ?_ ?_ ?_ run
    · exact fun substantial written => .inr ⟨schema, called, inline substantial written⟩
    · intro substantial written
      refine contents.mono fun part inside => ?_
      simp only [Schema.contentsAs, List.mem_append, List.mem_flatMap]
      exact .inl ⟨member, inline substantial written, inside⟩
    · intro ref written
      exact members _ (List.mem_filterMap.2 ⟨member, mem, by simp [Option.mem_def.1 written]⟩)
  have properties := (lowerProperties_run composes
    (contents.mono fun part mem => by simp [Schema.contentsAs, Schema.contents, mem]) owned).1
  have values := additionalType_keeps composes
    (contents.mono fun part mem => by simp [Schema.contentsAs, Schema.contents, mem]) added
  exact composes.trans parts (composes.trans properties values)

/-- The model of a schema is made by giving types to its contents, and for a composition by making
its members. -/
theorem modelOf_steps (closed : Closed components begun) (steps : Steps components begun R)
    (types : ∀ {schema owner hint origin depth draft type draft'}, begun (.type schema depth active) →
      typeOf n ⟨components, active⟩ schema owner hint origin depth draft = some (type, draft') →
        R active draft draft')
    (composition : ∀ {name schema origin depth draft model draft'},
      begun (.model .composition schema depth active) →
        (compositionModel n ⟨components, active⟩ name schema origin depth).work draft =
            some (model, draft') → R active draft draft')
    {kind : SchemaKind} {name : String} {schema : Schema} {origin : Origin} {model : Model}
    (called : begun (.model kind schema depth active))
    (run : modelOf n ⟨components, active⟩ kind name schema origin depth draft =
      some (model, draft')) : R active draft draft' := by
  have composes := steps.composes active
  have contents : TypesKeep (R active) (typeOf n ⟨components, active⟩) (schema.contentsAs kind) :=
    typesKeep_steps types fun part mem => closed called (.content mem)
  cases kind with
  | enumeration =>
    obtain ⟨-, rfl⟩ := Lower.pure_eq_some.1 run
    exact composes.refl _
  | union =>
    obtain ⟨properties, owned, -⟩ := unionModel_eq_some.1 run
    exact (lowerProperties_run composes contents owned).1
  | composition => exact composition called run
  | record => exact recordModel_keeps composes contents run
  | typeAlias => exact recordModel_keeps composes contents run
  | unsupported reason =>
    obtain ⟨-, rfl⟩ := Lower.pure_eq_some.1 run
    exact composes.refl _

theorem steps_of_run (closed : Closed components begun) (steps : Steps components begun R) (n : Nat) :
    RunsKeep components begun R n := by
  induction n with
  | zero => refine ⟨?_, ?_, ?_, ?_⟩ <;> intros <;> rename_i run <;> cases run
  | succ n ih =>
    obtain ⟨types, compositions, members, lowered⟩ := ih
    refine ⟨?_, ?_, ?_, ?_⟩
    · intro active schema owner hint origin depth draft type draft' called run
      rw [typeOf_succ] at run
      cases planned : plan components schema depth with
      | settled type =>
        rw [planned] at run
        obtain ⟨-, rfl⟩ := Lower.pure_eq_some.1 run
        exact (steps.composes active).refl _
      | onward passage next =>
        rw [planned] at run
        obtain ⟨type, next, -⟩ := Lower.map_eq_some.1 run
        exact types (closed called (.onward planned)) next
      | make kind =>
        rw [planned] at run
        obtain ⟨name, model, middle, rfl, made, rfl, rfl⟩ := Plan.carryOut_make_run run
        have goes := closed called (.made planned)
        have within := modelOf_steps closed steps types compositions goes made
        exact steps.inline (.inl goes) (freshName_not_mem _ _) within made
    · intro active name schema origin depth draft model draft' called run
      have contents : TypesKeep (R active) (typeOf n ⟨components, active⟩)
          (schema.contentsAs .composition) :=
        typesKeep_steps types fun part mem => closed called (.content mem)
      refine compositionModel_steps steps called contents (fun key mem draft found draft' run => ?_) run
      exact members (closed called (.reference mem)) run
    · intro active key depth draft found draft' called run
      rcases memberProperties_run run with ⟨-, rfl, -⟩ |
        ⟨target, looked, shallow, kind, inner, hop, run⟩ | ⟨target, looked, shallow, kind, run, -⟩
      · exact (steps.composes active).refl _
      · exact members (closed called (.hop shallow looked kind hop)) run
      · exact lowered (closed called (.lower shallow looked kind)) run
    · intro active key schema depth draft draft' called run
      rcases lowerComponent_run run with ⟨-, rfl⟩ | ⟨absent, free, kind, model, middle, made, rfl⟩
      · exact (steps.composes active).refl _
      · have within := modelOf_steps closed steps types compositions
          (closed called (.entered free kind)) made
        exact steps.component called free kind absent within made

theorem history_of_run (closed : Closed components begun) (n : Nat) :
    RunsKeep components begun (History components begun) n :=
  steps_of_run closed (History.steps components begun) n

theorem history_of_modelOf (closed : Closed components begun) {kind : SchemaKind} {name : String}
    {schema : Schema} {origin : Origin} {model : Model} (called : begun (.model kind schema depth active))
    (run : modelOf n ⟨components, active⟩ kind name schema origin depth draft =
      some (model, draft')) : History components begun active draft draft' := by
  obtain ⟨types, compositions, -⟩ := history_of_run closed n
  exact modelOf_steps closed (History.steps components begun) types compositions called run

end Runs

section Growth

variable {draft draft' : Draft} {n depth : Nat} {scope : Scope} {schema : Schema} {owner hint name key : String}
  {origin : Origin}

theorem closed_true (components : List (String × Schema)) : Closed components fun _ => True :=
  fun _ _ => trivial

theorem typeOf_le {type : DataType}
    (run : typeOf n scope schema owner hint origin depth draft = some (type, draft')) :
    draft ≤ draft' :=
  ((history_of_run (closed_true scope.components) n).1 trivial run).le

theorem memberProperties_le {found : Option (String × List Property)}
    (run : (memberProperties n scope key depth).work draft = some (found, draft')) : draft ≤ draft' :=
  ((history_of_run (closed_true scope.components) n).2.2.1 trivial run).le

theorem contribution_le {member : Schema} {result : Contribution}
    (run : contribution n scope name depth member draft = some (result, draft')) : draft ≤ draft' :=
  (contribution_steps (History.steps scope.components fun _ => True) (fun _ _ => .inl trivial)
    (fun _ _ _ _ _ _ _ _ _ run => (history_of_run (closed_true scope.components) n).1 trivial run)
    (fun _ _ _ _ _ run => (history_of_run (closed_true scope.components) n).2.2.1 trivial run) run).le

theorem typesKeep_le (parts : List Schema) : TypesKeep (· ≤ ·) (typeOf n scope) parts :=
  fun _ _ _ _ _ _ _ run => typeOf_le run

theorem composes_le : Composes (· ≤ · : Draft → Draft → Prop) :=
  ⟨le_refl, le_trans⟩

end Growth

end OpenApiCodegen.Lowering
