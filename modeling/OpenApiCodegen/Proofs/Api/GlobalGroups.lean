import Mathlib.Data.List.Induction
import Mathlib.Data.List.Nodup
import OpenApiCodegen.Api.GlobalGroup
import OpenApiCodegen.Proofs.Text.NumberedNames

namespace OpenApiCodegen

namespace Api

theorem foldl_traced {α β : Type} {Holds : List α → β → Prop} {step : β → α → β} {start : β}
    (begins : Holds [] start)
    (keeps : ∀ done item state, Holds done state → Holds (done ++ [item]) (step state item))
    (items : List α) : Holds items (items.foldl step start) := by
  induction items using List.reverseRecOn with
  | nil => exact begins
  | append_singleton done item ih =>
    rw [List.foldl_append]
    exact keeps done item _ ih

theorem exists_mem_concat {α : Type} {Holds : α → Prop} {items : List α} {last : α} :
    (∃ item ∈ items ++ [last], Holds item) ↔ (∃ item ∈ items, Holds item) ∨ Holds last := by
  simp [or_and_right, exists_or]

section Changes

variable {key : Location × String} {change : GlobalGroup → GlobalGroup} {groups : List GlobalGroup}
  {group : GlobalGroup} {parameter : Parameter} {route : Route}

theorem mem_changeGroup :
    group ∈ changeGroup key change groups ↔
      ∃ before ∈ groups, (if before.key = key then change before else before) = group :=
  List.mem_map

theorem map_changeGroup {β : Type} {f : GlobalGroup → β}
    (blind : ∀ group ∈ groups, f (change group) = f group) :
    (changeGroup key change groups).map f = groups.map f := by
  rw [changeGroup, List.map_map]
  refine List.map_congr_left fun group mem => ?_
  dsimp only [Function.comp_apply]
  split
  · exact blind group mem
  · rfl

@[simp] theorem key_groupOf (parameter : Parameter) : (groupOf parameter).key = parameter.key :=
  rfl

@[simp] theorem key_demand (group : GlobalGroup) (required : Bool) :
    (group.demand required).key = group.key :=
  rfl

theorem mem_addRoute {other : Route} :
    other ∈ (group.addRoute route).routes ↔ other ∈ group.routes ∨ other = route := by
  unfold GlobalGroup.addRoute
  split
  · rename_i applies
    have inside : route ∈ group.routes := List.contains_iff_mem.1 applies
    constructor
    · exact .inl
    · rintro (mem | rfl)
      · exact mem
      · exact inside
  · simp

theorem nodup_addRoute (nodup : group.routes.Nodup) : (group.addRoute route).routes.Nodup := by
  unfold GlobalGroup.addRoute
  split
  · exact nodup
  · rename_i absent
    have outside : route ∉ group.routes := fun mem => absent (List.contains_iff_mem.2 mem)
    simpa using nodup.concat outside

def GlobalGroup.demands (group : GlobalGroup) : (Location × String) × Bool :=
  (group.key, group.required)

theorem demands_addRoute (group : GlobalGroup) (route : Route) :
    (group.addRoute route).demands = group.demands := by
  unfold GlobalGroup.addRoute
  split <;> rfl

end Changes

structure Joined (parameters : List Parameter) (groups : List GlobalGroup) : Prop where
  distinct : (groups.map GlobalGroup.key).Nodup
  keys : ∀ key, key ∈ groups.map GlobalGroup.key ↔ key ∈ parameters.map Parameter.key
  required : ∀ group ∈ groups, group.required = true ↔
    ∃ parameter ∈ parameters, parameter.key = group.key ∧ parameter.required = true
  routes : ∀ group ∈ groups, group.routes = []

section Joining

variable {parameters : List Parameter} {groups : List GlobalGroup} {parameter : Parameter}

theorem Joined.known (joined : Joined parameters groups)
    (known : parameter.key ∈ groups.map GlobalGroup.key) :
    Joined (parameters ++ [parameter])
      (changeGroup parameter.key (·.demand parameter.required) groups) := by
  have keys : (changeGroup parameter.key (·.demand parameter.required) groups).map GlobalGroup.key =
      groups.map GlobalGroup.key :=
    map_changeGroup fun _ _ => rfl
  refine ⟨keys ▸ joined.distinct, fun key => ?_, fun group mem => ?_, fun group mem => ?_⟩
  · rw [keys, List.map_append, List.mem_append, joined.keys]
    constructor
    · exact .inl
    · rintro (before | now)
      · exact before
      · rw [List.mem_singleton.1 now]
        exact (joined.keys _).1 known
  · obtain ⟨before, inside, rfl⟩ := mem_changeGroup.1 mem
    have demanded := joined.required before inside
    by_cases same : before.key = parameter.key
    · have demand : (before.demand parameter.required).required = true ↔
          before.required = true ∨ parameter.required = true :=
        Bool.or_eq_true_iff
      rw [if_pos same, demand, demanded, exists_mem_concat, key_demand]
      simp only [same, true_and]
    · have other : parameter.key ≠ before.key := Ne.symm same
      simp only [if_neg same, demanded, exists_mem_concat, other, false_and, or_false]
  · obtain ⟨before, inside, rfl⟩ := mem_changeGroup.1 mem
    have none := joined.routes before inside
    split
    · exact none
    · exact none

theorem Joined.opened (joined : Joined parameters groups)
    (absent : parameter.key ∉ groups.map GlobalGroup.key) :
    Joined (parameters ++ [parameter]) (groups ++ [groupOf parameter]) := by
  have fresh : ∀ other ∈ parameters, other.key ≠ parameter.key := by
    intro other mem same
    exact absent ((joined.keys _).2 (List.mem_map.2 ⟨other, mem, same⟩))
  refine ⟨?_, fun key => ?_, fun group mem => ?_, fun group mem => ?_⟩
  · rw [List.map_append]
    simpa using joined.distinct.concat absent
  · simp [joined.keys]
  · rcases List.mem_append.1 mem with old | new
    · have apart : parameter.key ≠ group.key := by
        intro same
        exact absent (same ▸ List.mem_map_of_mem old)
      simp only [joined.required group old, exists_mem_concat, apart, false_and, or_false]
    · obtain rfl := List.mem_singleton.1 new
      constructor
      · exact fun required => ⟨parameter, by simp, rfl, required⟩
      · rintro ⟨other, inside, same, required⟩
        rcases List.mem_append.1 inside with before | now
        · exact absurd same (fresh other before)
        · rw [List.mem_singleton.1 now] at required
          exact required
  · rcases List.mem_append.1 mem with old | new
    · exact joined.routes group old
    · rw [List.mem_singleton.1 new]
      rfl

theorem Joined.join (joined : Joined parameters groups) (parameter : Parameter) :
    Joined (parameters ++ [parameter]) (joinGroup groups parameter) := by
  have found : groups.any (·.key = parameter.key) = true ↔
      parameter.key ∈ groups.map GlobalGroup.key := by
    simp
  unfold joinGroup
  split
  · rename_i any
    exact joined.known (found.1 any)
  · rename_i none
    exact joined.opened fun known => none (found.2 known)

theorem joined_foldl (parameters : List Parameter) :
    Joined parameters (parameters.foldl joinGroup []) := by
  refine foldl_traced ⟨by simp, by simp, by simp, by simp⟩ ?_ parameters
  exact fun done parameter groups joined => joined.join parameter

end Joining

/-- The groups after the uses have put their routes into those that were opened. -/
structure Attached (opened : List GlobalGroup) (uses : List (Operation × Parameter))
    (groups : List GlobalGroup) : Prop where
  demands : groups.map GlobalGroup.demands = opened.map GlobalGroup.demands
  distinct : ∀ group ∈ groups, group.routes.Nodup
  routes : ∀ group ∈ groups, ∀ route, route ∈ group.routes ↔
    ∃ use ∈ uses, use.2.key = group.key ∧ use.1.route = route

section Attaching

variable {opened groups : List GlobalGroup} {uses : List (Operation × Parameter)}

theorem Attached.attach (attached : Attached opened uses groups) (use : Operation × Parameter) :
    Attached opened (uses ++ [use]) (attachRoute groups use) := by
  refine ⟨?_, fun group mem => ?_, fun group mem route => ?_⟩
  · rw [← attached.demands]
    exact map_changeGroup fun group _ => demands_addRoute group _
  · obtain ⟨before, inside, rfl⟩ := mem_changeGroup.1 mem
    have nodup := attached.distinct before inside
    split
    · exact nodup_addRoute nodup
    · exact nodup
  · obtain ⟨before, inside, rfl⟩ := mem_changeGroup.1 mem
    have routes := attached.routes before inside route
    by_cases same : before.key = use.2.key
    · have key : (before.addRoute use.1.route).key = before.key :=
        congrArg Prod.fst (demands_addRoute before _)
      rw [if_pos same, mem_addRoute, routes, exists_mem_concat, key]
      simp only [same, true_and, eq_comm]
    · have other : use.2.key ≠ before.key := Ne.symm same
      simp only [if_neg same, routes, exists_mem_concat, other, false_and, or_false]

theorem attached_foldl (opened : List GlobalGroup) (none : ∀ group ∈ opened, group.routes = [])
    (uses : List (Operation × Parameter)) : Attached opened uses (uses.foldl attachRoute opened) := by
  have begins : Attached opened [] opened := by
    refine ⟨rfl, fun group mem => ?_, fun group mem route => ?_⟩
    · rw [none group mem]
      exact List.nodup_nil
    · simp [none group mem]
  exact foldl_traced begins (fun done use groups attached => attached.attach use) uses

end Attaching

section Groups

variable {api : Api} {group : GlobalGroup}

theorem attached_draftGroups (api : Api) :
    Attached (((globalUses api).map (·.2)).foldl joinGroup []) (globalUses api) (draftGroups api) :=
  attached_foldl _ (joined_foldl _).routes _

theorem keys_draftGroups (api : Api) : (draftGroups api).map GlobalGroup.key =
    (((globalUses api).map (·.2)).foldl joinGroup []).map GlobalGroup.key := by
  have first := congrArg (List.map Prod.fst) (attached_draftGroups api).demands
  simpa [List.map_map, Function.comp_def, GlobalGroup.demands] using first

theorem required_draftGroups (mem : group ∈ draftGroups api) :
    group.required = true ↔
      ∃ use ∈ globalUses api, use.2.key = group.key ∧ use.2.required = true := by
  have inside : group.demands ∈ (draftGroups api).map GlobalGroup.demands := List.mem_map_of_mem mem
  rw [(attached_draftGroups api).demands] at inside
  obtain ⟨opened, listed, same⟩ := List.mem_map.1 inside
  obtain ⟨key, required⟩ := Prod.mk.inj same
  rw [← key, ← required, (joined_foldl _).required opened listed]
  simp only [List.mem_map, exists_exists_and_eq_and]

theorem map_globalGroups {β : Type} {f : GlobalGroup → β}
    (blind : ∀ group getter, f { group with getter := getter } = f group) :
    (globalGroups api).map f = (draftGroups api).map f := by
  have length : (draftGroups api).length ≤
      (Text.numberRepeats ((draftGroups api).map (getterBase (draftGroups api)))).length := by
    simp [Text.length_numberRepeats]
  have fields := List.map_fst_zip length
  rw [globalGroups, List.map_map]
  conv_rhs => rw [← fields, List.map_map]
  exact List.map_congr_left fun entry _ => blind entry.1 _

theorem getters_globalGroups (api : Api) : (globalGroups api).map (·.getter) =
    (Text.numberRepeats ((draftGroups api).map (getterBase (draftGroups api)))).map (· ++ "Getter") := by
  have length : (Text.numberRepeats ((draftGroups api).map (getterBase (draftGroups api)))).length ≤
      (draftGroups api).length := by
    simp [Text.length_numberRepeats]
  have bases := List.map_snd_zip length
  rw [globalGroups, List.map_map]
  conv_rhs => rw [← bases, List.map_map]
  rfl

theorem exists_draft (mem : group ∈ globalGroups api) :
    ∃ draft ∈ draftGroups api,
      draft.key = group.key ∧ draft.required = group.required ∧ draft.routes = group.routes := by
  have inside : (group.key, group.required, group.routes) ∈
      (globalGroups api).map fun group => (group.key, group.required, group.routes) :=
    List.mem_map.2 ⟨group, mem, rfl⟩
  rw [map_globalGroups fun _ _ => rfl] at inside
  obtain ⟨draft, listed, same⟩ := List.mem_map.1 inside
  simp only [Prod.mk.injEq] at same
  exact ⟨draft, listed, same⟩

/-- A parameter at the location, with the name, that is marked as global. -/
def Operation.DeclaresGlobal (operation : Operation) (location : Location) (name : String) : Prop :=
  ∃ parameter ∈ operation.parameters,
    parameter.location = location ∧ parameter.wireName = name ∧ parameter.marked = true

instance (operation : Operation) (location : Location) (name : String) :
    Decidable (operation.DeclaresGlobal location name) :=
  inferInstanceAs (Decidable (∃ parameter ∈ operation.parameters,
    parameter.location = location ∧ parameter.wireName = name ∧ parameter.marked = true))

theorem mem_globalUses {use : Operation × Parameter} :
    use ∈ globalUses api ↔ use.1 ∈ api.operations ∧ use.2 ∈ use.1.parameters ∧
      use.2.marked = true ∧ (use.2.location = .header ∨ use.2.location = .query) := by
  obtain ⟨operation, parameter⟩ := use
  simp only [globalUses, Operation.globals, Parameter.isGlobal, List.mem_flatMap, List.mem_map,
    List.mem_filter, Prod.mk.injEq, Bool.and_eq_true, Bool.or_eq_true, beq_iff_eq]
  constructor
  · rintro ⟨_, mem, _, inside, rfl, rfl⟩
    exact ⟨mem, inside⟩
  · rintro ⟨mem, inside⟩
    exact ⟨operation, mem, parameter, inside, rfl, rfl⟩

theorem key_mem_globalGroups {location : Location} {name : String} :
    (location, name) ∈ (globalGroups api).map GlobalGroup.key ↔
      ∃ use ∈ globalUses api, use.2.location = location ∧ use.2.wireName = name := by
  rw [map_globalGroups fun _ _ => rfl, keys_draftGroups, (joined_foldl _).keys]
  simp [Parameter.key]

theorem location_of_mem (mem : group ∈ globalGroups api) :
    group.location = .header ∨ group.location = .query := by
  obtain ⟨use, used, same, -⟩ := key_mem_globalGroups.1 (List.mem_map_of_mem mem)
  exact same ▸ (mem_globalUses.1 used).2.2.2

theorem appliesTo_iff (mem : group ∈ globalGroups api) {method : OpenApi.Method} {path : String} :
    group.appliesTo method path = true ↔ ∃ operation ∈ api.operations,
      operation.method = method ∧ operation.path = path ∧
        operation.DeclaresGlobal group.location group.name := by
  obtain ⟨draft, listed, key, -, routes⟩ := exists_draft mem
  have attached := (attached_draftGroups api).routes draft listed ⟨method, path⟩
  rw [GlobalGroup.appliesTo, List.contains_iff_mem, ← routes, attached, key]
  constructor
  · rintro ⟨use, used, same, route⟩
    obtain ⟨listed, inside, marked, -⟩ := mem_globalUses.1 used
    obtain ⟨sameMethod, samePath⟩ := Route.mk.inj route
    obtain ⟨location, name⟩ := Prod.mk.inj same
    exact ⟨use.1, listed, sameMethod, samePath, use.2, inside, location, name, marked⟩
  · rintro ⟨operation, listed, rfl, rfl, parameter, inside, location, name, marked⟩
    refine ⟨(operation, parameter), mem_globalUses.2 ⟨listed, inside, marked, ?_⟩, ?_, rfl⟩
    · exact location ▸ location_of_mem mem
    · exact Prod.ext location name

/-- The groups are those of the parameters marked as global in headers and queries, each once, and each
is demanded by the parameters and reaches the operations that it comes from. -/
structure GroupedExactly (api : Api) : Prop where
  distinct : ((globalGroups api).map GlobalGroup.key).Nodup
  groups : ∀ location name,
    (∃ group ∈ globalGroups api, group.location = location ∧ group.name = name) ↔
      (location = .header ∨ location = .query) ∧
        ∃ operation ∈ api.operations, operation.DeclaresGlobal location name
  applies : ∀ group ∈ globalGroups api, ∀ method path, group.appliesTo method path = true ↔
    ∃ operation ∈ api.operations, operation.method = method ∧ operation.path = path ∧
      operation.DeclaresGlobal group.location group.name
  routes : ∀ group ∈ globalGroups api, group.routes.Nodup
  required : ∀ group ∈ globalGroups api, group.required = true ↔
    ∃ operation ∈ api.operations, ∃ parameter ∈ operation.parameters,
      parameter.location = group.location ∧ parameter.wireName = group.name ∧
        parameter.marked = true ∧ parameter.required = true

theorem groupedExactly (api : Api) : GroupedExactly api where
  distinct := by
    rw [map_globalGroups fun _ _ => rfl, keys_draftGroups]
    exact (joined_foldl _).distinct
  groups location name := by
    have known : (∃ group ∈ globalGroups api, group.location = location ∧ group.name = name) ↔
        (location, name) ∈ (globalGroups api).map GlobalGroup.key := by
      simp [GlobalGroup.key]
    rw [known, key_mem_globalGroups]
    constructor
    · rintro ⟨use, used, rfl, rfl⟩
      obtain ⟨listed, inside, marked, location⟩ := mem_globalUses.1 used
      exact ⟨location, use.1, listed, use.2, inside, rfl, rfl, marked⟩
    · rintro ⟨place, operation, listed, parameter, inside, rfl, rfl, marked⟩
      exact ⟨(operation, parameter), mem_globalUses.2 ⟨listed, inside, marked, place⟩, rfl, rfl⟩
  applies group mem method path := appliesTo_iff mem
  routes group mem := by
    obtain ⟨draft, listed, -, -, routes⟩ := exists_draft mem
    exact routes ▸ (attached_draftGroups api).distinct draft listed
  required group mem := by
    obtain ⟨draft, listed, key, required, -⟩ := exists_draft mem
    rw [← required, required_draftGroups listed, key]
    constructor
    · rintro ⟨use, used, same, demanded⟩
      obtain ⟨listed, inside, marked, -⟩ := mem_globalUses.1 used
      obtain ⟨location, name⟩ := Prod.mk.inj same
      exact ⟨use.1, listed, use.2, inside, location, name, marked, demanded⟩
    · rintro ⟨operation, listed, parameter, inside, location, name, marked, demanded⟩
      have place := location ▸ location_of_mem mem
      exact ⟨(operation, parameter), mem_globalUses.2 ⟨listed, inside, marked, place⟩,
        Prod.ext location name, demanded⟩

end Groups

end Api

end OpenApiCodegen
