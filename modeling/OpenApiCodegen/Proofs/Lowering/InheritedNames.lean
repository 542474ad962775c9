import OpenApiCodegen.Proofs.Api.Lookup
import OpenApiCodegen.Proofs.Lowering.Inheritance

namespace OpenApiCodegen.Lowering

open Api
open OpenApi (Schema SchemaKind Document NormalDocument componentName)

def Reached (components : List (String × Schema)) (call : Call) : Prop :=
  ∃ key schema, (key, schema) ∈ components ∧
    Relation.ReflTransGen (Calls components) (.component key schema 0 []) call

/-- One of the members of the composition is a reference to the other component. -/
def Inherits (components : List (String × Schema)) (key member : String) : Prop :=
  ∃ schema, components.lookup key = some schema ∧ schema.kind = .composition ∧
    member ∈ schema.memberKeys

/-- To make one component, the other one may have to be made. -/
def Demands (components : List (String × Schema)) (key other : String) : Prop :=
  ∃ schema depth active schema' depth' active', (key, schema) ∈ components ∧
    Relation.ReflTransGen (Calls components) (.component key schema depth active)
      (.component other schema' depth' active')

/-- All that a component inherits from, itself included. -/
def Ancestor (components : List (String × Schema)) : String → String → Prop :=
  Relation.ReflTransGen (Inherits components)

/-- The assumptions under which a component has all the names of the recursive merge: what is
inherited from is a record or a composition, the limit of nesting is not met, and no component is
needed to make one that it inherits from. -/
structure Inheritable (components : List (String × Schema)) (key : String) : Prop where
  plain : ∀ {heir member}, Ancestor components key heir → Inherits components heir member →
    ∃ schema, components.lookup member = some schema ∧
      (schema.kind = .record ∨ schema.kind = .composition)
  shallow : ∀ {heir member depth active}, Ancestor components key heir → Inherits components heir member →
    Reached components (.member member depth active) → depth ≤ maxDepth
  apart : ∀ {heir member}, Ancestor components key heir → Inherits components heir member →
    ¬ Demands components member heir

def Call.active : Call → List String
  | .type _ _ active => active
  | .model _ _ _ active => active
  | .member _ _ active => active
  | .component _ _ _ active => active

section Reaching

variable {components : List (String × Schema)} {call call' : Call}

theorem closed_reached : Closed components (Reached components) := by
  rintro call call' ⟨key, schema, mem, path⟩ calls
  exact ⟨key, schema, mem, path.tail calls⟩

theorem Reached.listed {key : String} {schema : Schema} {depth : Nat} {active : List String}
    (reached : Reached components (.component key schema depth active)) :
    (key, schema) ∈ components := by
  obtain ⟨first, top, mem, path⟩ := reached
  rcases Relation.ReflTransGen.cases_tail path with same | ⟨before, path, calls⟩
  · cases same
    exact mem
  · cases calls with
    | lower _ looked _ => exact mem_of_lookup looked

def Call.Busy (components : List (String × Schema)) (call : Call) : Prop :=
  ∀ key ∈ call.active, ∃ schema depth active, (key, schema) ∈ components ∧
    Relation.ReflTransGen (Calls components) (.component key schema depth active) call

theorem Call.Busy.step (busy : call.Busy components) (listed : Listed components call)
    (calls : Calls components call call') : call'.Busy components := by
  have extend : ∀ key ∈ call.active, ∃ schema depth active, (key, schema) ∈ components ∧
      Relation.ReflTransGen (Calls components) (.component key schema depth active) call' := by
    intro key active
    obtain ⟨schema, depth, others, listed, path⟩ := busy key active
    exact ⟨schema, depth, others, listed, path.tail calls⟩
  cases calls with
  | @entered schema depth active key free kind =>
    intro other mem
    rcases List.mem_cons.1 mem with rfl | before
    · exact ⟨schema, depth, active, listed, .single (.entered free kind)⟩
    · exact extend other before
  | _ => exact extend

theorem Reached.busy (reached : Reached components call) : call.Busy components := by
  obtain ⟨first, top, mem, path⟩ := reached
  induction path with
  | refl => simp [Call.Busy, Call.active]
  | @tail before call path calls ih =>
    have listed : Listed components before := by
      cases before with
      | component => exact Reached.listed ⟨first, top, mem, path⟩
      | _ => trivial
    exact ih.step listed calls

theorem Reached.demands {key other : String} {schema : Schema} {depth : Nat} {active : List String}
    (reached : Reached components (.component key schema depth active)) (mem : other ∈ active) :
    Demands components other key := by
  obtain ⟨schema', depth', active', listed, path⟩ := reached.busy other mem
  exact ⟨schema', depth', active', schema, depth, active, listed, path⟩

end Reaching

section Lookup

variable {components components' : List (String × Schema)}

theorem lookup_of_mem (distinct : (components.map fun entry => typeName entry.1).Nodup) {key : String}
    {schema : Schema} (mem : (key, schema) ∈ components) : components.lookup key = some schema := by
  cases looked : components.lookup key with
  | none => exact absurd (List.lookup_eq_none_iff.1 looked _ mem) (by simp)
  | some found =>
    have same : (key, found) = (key, schema) :=
      List.inj_on_of_nodup_map distinct (mem_of_lookup looked) mem rfl
    cases same
    rfl

theorem lookup_eq_of_perm (distinct : (components.map fun entry => typeName entry.1).Nodup)
    (order : components'.Perm components) (key : String) :
    components'.lookup key = components.lookup key := by
  have distinct' : (components'.map fun entry => typeName entry.1).Nodup :=
    (order.map _).nodup_iff.2 distinct
  cases looked : components'.lookup key with
  | some found => exact (lookup_of_mem distinct (order.mem_iff.1 (mem_of_lookup looked))).symm
  | none =>
    cases other : components.lookup key with
    | none => rfl
    | some found =>
      have mem := order.mem_iff.2 (mem_of_lookup other)
      rw [lookup_of_mem distinct' mem] at looked
      cases looked

theorem Calls.of_lookup (same : ∀ key, components'.lookup key = components.lookup key) {call call' : Call}
    (calls : Calls components' call call') : Calls components call call' := by
  have plans : ∀ schema depth, plan components' schema depth = plan components schema depth := by
    intro schema depth
    unfold plan
    simp only [same]
  cases calls with
  | onward planned => exact .onward (plans _ _ ▸ planned)
  | made planned => exact .made (plans _ _ ▸ planned)
  | content mem => exact .content mem
  | reference mem => exact .reference mem
  | hop shallow looked kind hop => exact .hop shallow (same _ ▸ looked) kind hop
  | lower shallow looked kind => exact .lower shallow (same _ ▸ looked) kind
  | entered free kind => exact .entered free kind

mutual

theorem Merged.of_lookup (same : ∀ key, components'.lookup key = components.lookup key) {key : String}
    {names : List String} : Merged components' key names → Merged components key names
  | .record looked kind => .record (same _ ▸ looked) kind
  | .composition looked kind members => .composition (same _ ▸ looked) kind (members.of_lookup same)

theorem MergedMembers.of_lookup (same : ∀ key, components'.lookup key = components.lookup key)
    {members : List Schema} {names : List String} :
    MergedMembers components' members names → MergedMembers components members names
  | .nil => .nil
  | .description only rest => .description only (rest.of_lookup same)
  | .reference written gained rest => .reference written (gained.of_lookup same) (rest.of_lookup same)
  | .inline substantial absent rest => .inline substantial absent (rest.of_lookup same)

end

theorem Reached.of_perm (same : ∀ key, components'.lookup key = components.lookup key)
    (order : components'.Perm components) {call : Call} (reached : Reached components' call) :
    Reached components call := by
  obtain ⟨key, schema, mem, path⟩ := reached
  exact ⟨key, schema, order.mem_iff.1 mem,
    Relation.ReflTransGen.mono (fun _ _ => Calls.of_lookup same) _ _ path⟩

theorem Demands.of_perm (same : ∀ key, components'.lookup key = components.lookup key)
    (order : components'.Perm components) {key other : String} (demands : Demands components' key other) :
    Demands components key other := by
  obtain ⟨schema, depth, active, schema', depth', active', mem, path⟩ := demands
  exact ⟨schema, depth, active, schema', depth', active', order.mem_iff.1 mem,
    Relation.ReflTransGen.mono (fun _ _ => Calls.of_lookup same) _ _ path⟩

theorem Inherits.of_lookup (same : ∀ key, components'.lookup key = components.lookup key)
    {key member : String} (inherits : Inherits components' key member) :
    Inherits components key member := by
  obtain ⟨schema, looked, rest⟩ := inherits
  exact ⟨schema, same key ▸ looked, rest⟩

theorem Inheritable.of_perm (distinct : (components.map fun entry => typeName entry.1).Nodup)
    (order : components'.Perm components) {key : String} (inheritable : Inheritable components key) :
    Inheritable components' key := by
  have same := lookup_eq_of_perm distinct order
  have ancestors : ∀ {heir}, Ancestor components' key heir → Ancestor components key heir :=
    fun ancestor => Relation.ReflTransGen.mono (fun _ _ => Inherits.of_lookup same) _ _ ancestor
  constructor
  · intro heir member ancestor inherits
    rw [same]
    exact inheritable.plain (ancestors ancestor) (inherits.of_lookup same)
  · intro heir member depth active ancestor inherits reached
    exact inheritable.shallow (ancestors ancestor) (inherits.of_lookup same) (reached.of_perm same order)
  · intro heir member ancestor inherits demands
    exact inheritable.apart (ancestors ancestor) (inherits.of_lookup same) (demands.of_perm same order)

end Lookup

def ModelsHave (P : String → Prop) (Q : String → Model → Prop) (draft : Draft) : Prop :=
  ∀ key, P key → ∀ model ∈ draft.models, model.name = typeName key → Q key model

theorem History.modelsHave {components : List (String × Schema)} {active : List String}
    {draft draft' : Draft} {P : String → Prop} {Q : String → Model → Prop}
    (distinct : (components.map fun entry => typeName entry.1).Nodup)
    (declared : ∀ key, P key → ∃ schema, components.lookup key = some schema)
    (made : ∀ {active before draft key schema model n depth}, P key →
      components.lookup key = some schema → Reached components (.component key schema depth active) →
        key ∉ active →
          modelOf n ⟨components, key :: active⟩ schema.kind (typeName key) schema .component depth before =
              some (model, draft) →
            ModelsHave P Q draft → Q key model)
    (history : History components (Reached components) active draft draft')
    (reserved : Reserved components draft) (holds : ModelsHave P Q draft) : ModelsHave P Q draft' := by
  refine history.keeps (I := fun _ draft => ModelsHave P Q draft) ?_ reserved holds
  constructor
  · exact fun holds => holds
  · exact fun holds => holds
  · intro active draft other unnamed holds key chosen model mem named
    rcases List.mem_cons.1 mem with rfl | mem
    · obtain ⟨schema, looked⟩ := declared key chosen
      exact absurd named.symm (unnamed _ (mem_of_lookup looked))
    · exact holds key chosen model mem named
  · intro active before draft other target new n depth called free _ _ run _ holds key chosen model mem named
    rcases List.mem_cons.1 mem with rfl | mem
    · obtain ⟨schema, looked⟩ := declared key chosen
      have same : (key, schema) = (other, target) :=
        List.inj_on_of_nodup_map distinct (mem_of_lookup looked) called.listed
          (named.symm.trans (name_of_modelOf run))
      cases same
      exact made chosen looked called free run holds
    · exact holds key chosen model mem named

def AncestorsMerged (components : List (String × Schema)) (key : String) (draft : Draft) : Prop :=
  ∀ heir, Ancestor components key heir → ∀ model ∈ draft.models, model.name = typeName heir →
    Merged components heir (wireNames model.properties)

section Merging

variable {components : List (String × Schema)} {active : List String} {key heir : String}
  {schema : Schema} {draft draft' : Draft}

theorem Inheritable.plain_of_ancestor (inheritable : Inheritable components key)
    (looked : components.lookup key = some schema) (kind : schema.kind = .composition)
    (ancestor : Ancestor components key heir) :
    ∃ target, components.lookup heir = some target ∧
      (target.kind = .record ∨ target.kind = .composition) := by
  rcases Relation.ReflTransGen.cases_tail ancestor with rfl | ⟨before, ancestor, inherits⟩
  · exact ⟨schema, looked, .inr kind⟩
  · exact inheritable.plain ancestor inherits

theorem Inheritable.inherited {member : String} {depth : Nat} {target : Schema}
    (inheritable : Inheritable components key) (ancestor : Ancestor components key heir)
    (looked : components.lookup heir = some target) (kind : target.kind = .composition)
    (called : Reached components (.component heir target depth active)) (free : heir ∉ active)
    (mem : member ∈ target.memberKeys) (merged : AncestorsMerged components key draft) :
    Inherited ⟨components, heir :: active⟩ depth draft member := by
  have inherits : Inherits components heir member := ⟨target, looked, kind, mem⟩
  have apart := inheritable.apart ancestor inherits
  constructor
  · have entered : Reached components (.model .composition target depth (heir :: active)) := by
      rw [← kind]
      exact closed_reached called (.entered free (by simp [kind]))
    exact inheritable.shallow ancestor inherits (closed_reached entered (.reference mem))
  -- a member that is being made has demanded the heir
  · intro busy
    rcases List.mem_cons.1 busy with rfl | busy
    · exact apart ⟨target, depth, active, target, depth, active, called.listed, .refl⟩
    · exact apart (called.demands busy)
  · obtain ⟨schema, looked, plain⟩ := inheritable.plain ancestor inherits
    refine ⟨schema, looked, ?_⟩
    rcases plain with plain | plain <;> simp [plain]
  · exact merged member (ancestor.tail inherits)

theorem History.ancestorsMerged (distinct : (components.map fun entry => typeName entry.1).Nodup)
    (inheritable : Inheritable components key) (looked : components.lookup key = some schema)
    (kind : schema.kind = .composition)
    (history : History components (Reached components) active draft draft')
    (reserved : Reserved components draft) (merged : AncestorsMerged components key draft) :
    AncestorsMerged components key draft' := by
  have plain : ∀ heir, Ancestor components key heir → ∃ target, components.lookup heir = some target ∧
      (target.kind = .record ∨ target.kind = .composition) :=
    fun heir ancestor => inheritable.plain_of_ancestor looked kind ancestor
  refine history.modelsHave distinct (fun heir ancestor => (plain heir ancestor).imp fun _ => And.left) ?_
    reserved merged
  intro active before draft heir target model n depth ancestor found called free run merged
  obtain ⟨expected, found', plain⟩ := plain heir ancestor
  rw [found] at found'
  cases found'
  exact merged_of_modelOf found plain run fun composed member mem =>
    inheritable.inherited ancestor found composed called free mem merged

end Merging

theorem exists_model_of_lower {doc : NormalDocument} {api : Api} {key : String} {schema : Schema}
    (listed : (key, schema) ∈ doc.document.components) (kind : schema.kind ≠ .typeAlias)
    (run : lower doc = .ok api) :
    ∃ middle model, (lowerComponents (callBound doc.document) ⟨doc.document.components, []⟩).work
          (Draft.start doc.document) = some ((), middle) ∧
        middle.models ⊆ api.models ∧ model ∈ middle.models ∧ model.name = typeName key ∧
          api.model? (typeName key) = some model := by
  obtain ⟨operations, middle, draft, components, rest, models, -⟩ := lower_run run
  obtain ⟨history, lowered⟩ :=
    lowerComponents_run (closed_true doc.document.components) (fun _ _ => trivial) components
  have made := lowered _ listed kind
  have reserved := (reserved_start doc.document).mono history.le
  obtain ⟨le, old⟩ := lowerOperations_keepsModels listed reserved made rest
  obtain ⟨model, mem, named⟩ := isLowered_iff.1 (isLowered_of_le le made)
  have mem' : model ∈ api.models := by simpa [models] using mem
  obtain ⟨found, inside, same, answer⟩ := Api.model?_of_mem mem'
  rw [models, List.mem_reverse] at inside
  have called : found.name = typeName key := same.trans named
  have kept : middle.models ⊆ api.models := by
    intro other mem
    simpa [models] using Draft.mem_models_of_le le mem
  exact ⟨middle, found, components, kept, old found inside called, called, named ▸ answer⟩

theorem names_inherited {doc doc' : NormalDocument} {api : Api} {key : String} {schema : Schema}
    (distinct : (doc.document.components.map fun entry => typeName entry.1).Nodup)
    (listed : (key, schema) ∈ doc.document.components) (kind : schema.kind = .composition)
    (inheritable : Inheritable doc.document.components key)
    (order : doc'.document.components.Perm doc.document.components) (run : lower doc' = .ok api) :
    ∃ names model, Merged doc.document.components key names ∧
      api.model? (typeName key) = some model ∧ wireNames model.properties = names := by
  have distinct' : (doc'.document.components.map fun entry => typeName entry.1).Nodup :=
    (order.map _).nodup_iff.2 distinct
  have listed' := order.mem_iff.2 listed
  have looked := lookup_of_mem distinct' listed'
  obtain ⟨middle, model, components, -, mem, named, answer⟩ :=
    exists_model_of_lower listed' (by simp [kind]) run
  obtain ⟨history, -⟩ := lowerComponents_run closed_reached
    (fun entry mem => ⟨entry.1, entry.2, mem, .refl⟩) components
  have start : AncestorsMerged doc'.document.components key (Draft.start doc'.document) := by
    simp [AncestorsMerged, Draft.start]
  have merged := history.ancestorsMerged distinct' (inheritable.of_perm distinct order) looked kind
    (reserved_start doc'.document) start
  refine ⟨_, model, ?_, answer, rfl⟩
  exact (merged key .refl model mem named).of_lookup (lookup_eq_of_perm distinct order)

end OpenApiCodegen.Lowering
