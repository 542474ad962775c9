import OpenApiCodegen.Proofs.Server.PackageNames

namespace OpenApiCodegen.Server

open Api (Operation Placement)

def sharedTypes : List String :=
  ["DecodeError", "StatusError", "ParamError", "Route", "Routes", "Register"]

def modelNames (api : Api) : List String :=
  api.placements.map (·.model.name)

/-- What keeps the names of a package apart. All other names differ by how they are written. -/
structure NamesApart (api : Api) : Prop where
  models : (modelNames api).Nodup
  operations : ((api.includedOperations .server).map fun entry => goName entry.2).Nodup
  values : ∀ place ∈ api.placements, declaresValues place = true →
    place.model.name ++ "Values" ∉ modelNames api
  handlers : ∀ entry ∈ api.includedOperations .server, goName entry.2 ++ "Ctrl" ∉ modelNames api
  parameters : ∀ entry ∈ api.includedOperations .server, hasParameters entry.2 = true →
    parametersName entry.2 ∉ modelNames api
  shared : ∀ name ∈ sharedTypes, name ∉ modelNames api

instance (api : Api) : Decidable (NamesApart api) :=
  decidable_of_iff ((modelNames api).Nodup ∧
      ((api.includedOperations .server).map fun entry => goName entry.2).Nodup ∧
      (∀ place ∈ api.placements, declaresValues place = true →
        place.model.name ++ "Values" ∉ modelNames api) ∧
      (∀ entry ∈ api.includedOperations .server, goName entry.2 ++ "Ctrl" ∉ modelNames api) ∧
      (∀ entry ∈ api.includedOperations .server, hasParameters entry.2 = true →
        parametersName entry.2 ∉ modelNames api) ∧
      ∀ name ∈ sharedTypes, name ∉ modelNames api)
    ⟨fun ⟨models, operations, values, handlers, parameters, shared⟩ =>
        ⟨models, operations, values, handlers, parameters, shared⟩,
      fun apart => ⟨apart.models, apart.operations, apart.values, apart.handlers, apart.parameters,
        apart.shared⟩⟩

def endings : List (List Char) := [['P', 'a', 'r', 'a', 'm', 's'], ['C', 't', 'r', 'l']]

def valuesEnding : List Char := ['V', 'a', 'l', 'u', 'e', 's']

def isSmall (name : List Char) : Bool :=
  name.head?.any Char.isLower

def hasOwnEnding (name : List Char) : Bool :=
  endings.all (fun ending => !ending.isSuffixOf name) && (!valuesEnding.isSuffixOf name || isSmall name)

section Fixed

variable {checked : Bool} {name : String}

theorem fixedNames_sublist (checked : Bool) : (fixedNames checked).Sublist (fixedNames true) := by
  cases checked with
  | true => exact .refl _
  | false => exact .append (.refl _) (List.nil_sublist _)

theorem fixedNames_nodup (checked : Bool) : (fixedNames checked).Nodup := by
  have written : ((fixedNames true).map String.toList).Nodup := by
    simp only [fixedNames, supportNames, routeNames, checkNames, if_true, List.cons_append,
      List.nil_append, List.map_cons, List.map_nil]
    repeat rw [String.toList_ofList]
    decide
  exact written.of_map.sublist (fixedNames_sublist checked)

theorem isSmall_of_fixed (mem : name ∈ fixedNames checked) (other : name ∉ sharedTypes) :
    isSmall name.toList = true := by
  have all : (fixedNames true).all (fun name => isSmall name.toList || sharedTypes.contains name) =
      true := by
    simp only [fixedNames, supportNames, routeNames, checkNames, if_true, List.cons_append,
      List.nil_append, List.all_cons, List.all_nil]
    repeat rw [String.toList_ofList]
    rfl
  have small := List.all_eq_true.1 all name ((fixedNames_sublist checked).subset mem)
  rcases Bool.or_eq_true_iff.1 small with small | listed
  · exact small
  · exact absurd (List.contains_iff_mem.1 listed) other

theorem hasOwnEnding_of_fixed (mem : name ∈ fixedNames checked) : hasOwnEnding name.toList = true := by
  have all : (fixedNames true).all (fun name => hasOwnEnding name.toList) = true := by
    simp only [fixedNames, supportNames, routeNames, checkNames, if_true, List.cons_append,
      List.nil_append, List.all_cons, List.all_nil]
    repeat rw [String.toList_ofList]
    rfl
  exact List.all_eq_true.1 all name ((fixedNames_sublist checked).subset mem)

theorem mem_fixed_of_shared (mem : name ∈ sharedTypes) : name ∈ fixedNames checked := by
  simp only [sharedTypes, List.mem_cons, List.not_mem_nil, or_false] at mem
  rcases mem with rfl | rfl | rfl | rfl | rfl | rfl <;> simp [fixedNames, supportNames, routeNames]

end Fixed

section Made

variable {operation other : Operation} {name base : String} {checked : Bool}

theorem toList_params (base : String) : (base ++ "Params").toList = base.toList ++ ['P', 'a', 'r', 'a', 'm', 's'] := by
  rw [String.toList_append, String.toList_ofList]

theorem toList_ctrl (base : String) : (base ++ "Ctrl").toList = base.toList ++ ['C', 't', 'r', 'l'] := by
  rw [String.toList_append, String.toList_ofList]

theorem toList_values (base : String) : (base ++ "Values").toList = base.toList ++ valuesEnding := by
  rw [String.toList_append, String.toList_ofList]
  rfl

theorem toList_read (base : String) : ("read" ++ base).toList = ['r', 'e', 'a', 'd'] ++ base.toList := by
  rw [String.toList_append, String.toList_ofList]

theorem mem_operationNames :
    name ∈ operationNames operation ↔
      hasParameters operation = true ∧
          (name = goName operation ++ "Params" ∨ name = "read" ++ (goName operation ++ "Params")) ∨
        name = goName operation ++ "Ctrl" := by
  unfold operationNames parametersName
  split <;> simp_all [or_assoc]

theorem capitalized_goName (operation : Operation) : Text.Capitalized (goName operation).toList :=
  Text.capitalized_pascalCase operation.id

theorem ne_read {rest : List Char} (capitalized : Text.Capitalized name.toList) :
    name.toList ≠ ['r', 'e', 'a', 'd'] ++ rest :=
  capitalized.ne_cons (by decide)

theorem append_ne {ending ending' rest rest' : List Char} (apart : ¬ending <:+ ending')
    (apart' : ¬ending' <:+ ending) : rest ++ ending ≠ rest' ++ ending' := by
  intro same
  have ends : ending <:+ rest ++ ending := List.suffix_append _ _
  have ends' : ending' <:+ rest ++ ending := same ▸ List.suffix_append _ _
  exact (List.suffix_or_suffix_of_suffix ends ends').elim apart apart'

theorem spelled_of_operation (mem : name ∈ operationNames operation) :
    name.toList = (goName operation).toList ++ ['P', 'a', 'r', 'a', 'm', 's'] ∨
      name.toList = ['r', 'e', 'a', 'd'] ++ (goName operation).toList ++ ['P', 'a', 'r', 'a', 'm', 's'] ∨
        name.toList = (goName operation).toList ++ ['C', 't', 'r', 'l'] := by
  rcases mem_operationNames.1 mem with ⟨-, rfl | rfl⟩ | rfl
  · exact .inl (toList_params _)
  · rw [toList_read, toList_params, ← List.append_assoc]
    exact .inr (.inl rfl)
  · exact .inr (.inr (toList_ctrl _))

theorem goName_unique (mem : name ∈ operationNames operation) (mem' : name ∈ operationNames other) :
    goName operation = goName other := by
  have clash : ∀ {a b : List Char}, a ++ ['P', 'a', 'r', 'a', 'm', 's'] ≠ b ++ ['C', 't', 'r', 'l'] :=
    append_ne (by decide) (by decide)
  apply String.toList_inj.1
  -- equal endings leave the names with or without what is put in front, others cannot be equal
  rcases spelled_of_operation mem with first | first | first <;>
    rcases spelled_of_operation mem' with second | second | second <;> rw [first] at second
  · exact List.append_cancel_right second
  · exact absurd (List.append_cancel_right second) (ne_read (capitalized_goName operation))
  · exact absurd second clash
  · exact absurd (List.append_cancel_right second).symm (ne_read (capitalized_goName other))
  · exact List.append_cancel_left (List.append_cancel_right second)
  · exact absurd second clash
  · exact absurd second.symm clash
  · exact absurd second.symm clash
  · exact List.append_cancel_right second

theorem operationNames_nodup (operation : Operation) : (operationNames operation).Nodup := by
  have reader : goName operation ++ "Params" ≠ "read" ++ (goName operation ++ "Params") := by
    intro same
    have lists := congrArg String.toList same
    rw [toList_read, toList_params, ← List.append_assoc] at lists
    exact ne_read (capitalized_goName operation) (List.append_cancel_right lists)
  have handler : ∀ base other : String, base ++ "Params" ≠ other ++ "Ctrl" := by
    intro base other same
    have lists := congrArg String.toList same
    rw [toList_params, toList_ctrl] at lists
    exact append_ne (by decide) (by decide) lists
  have handler' := handler ("read" ++ goName operation) (goName operation)
  rw [String.append_assoc] at handler'
  unfold operationNames parametersName
  split <;> simp [reader, handler, handler']

theorem nodup_operationNames (operations : List Operation) :
    (operations.flatMap operationNames).Nodup ↔ (operations.map goName).Nodup := by
  constructor
  · have handlers : ((operations.map goName).map (· ++ "Ctrl")).Sublist
        (operations.flatMap operationNames) := by
      induction operations with
      | nil => exact .slnil
      | cons first rest ih =>
        have own : [goName first ++ "Ctrl"].Sublist (operationNames first) :=
          List.sublist_append_right _ _
        exact own.append ih
    exact fun distinct => (distinct.sublist handlers).of_map
  · intro distinct
    refine List.nodup_flatMap.2 ⟨fun operation _ => operationNames_nodup operation, ?_⟩
    refine (List.pairwise_map.1 distinct).imp fun {operation other} apart => ?_
    exact List.disjoint_left.2 fun name mem mem' => apart (goName_unique mem mem')

theorem mem_valuesNames {places : List Placement} :
    name ∈ places.flatMap valuesNames ↔
      ∃ place ∈ places, declaresValues place = true ∧ name = place.model.name ++ "Values" := by
  simp only [List.mem_flatMap, valuesNames]
  refine exists_congr fun place => and_congr_right fun _ => ?_
  split <;> simp_all

theorem nodup_valuesNames {places : List Placement} (distinct : (places.map (·.model.name)).Nodup) :
    (places.flatMap valuesNames).Nodup := by
  have inside : (places.flatMap valuesNames).Sublist
      ((places.map (·.model.name)).map (· ++ "Values")) := by
    induction places with
    | nil => exact .slnil
    | cons first rest ih =>
      have tail := ih (List.nodup_cons.1 distinct).2
      rw [List.flatMap_cons, List.map_cons, List.map_cons, valuesNames]
      split
      · exact tail.cons_cons _
      · exact tail.cons _
  refine (distinct.map fun name other same => ?_).sublist inside
  exact (String.append_left_inj _).1 same

theorem not_isSmall {name : List Char} (capitalized : Text.Capitalized name) : isSmall name = false := by
  cases name with
  | nil => rfl
  | cons c rest =>
    by_contra small
    have lower : c.isLower = true := by simpa [isSmall] using small
    exact capitalized.ne_cons lower rfl

theorem capitalized_values (capitalized : Text.Capitalized base.toList) :
    Text.Capitalized (base ++ "Values").toList := by
  rw [toList_values]
  exact capitalized.append (.letters (by decide) (by decide))

theorem shared_of_capitalized (capitalized : Text.Capitalized name.toList)
    (mem : name ∈ fixedNames checked) : name ∈ sharedTypes := by
  by_contra other
  have small := isSmall_of_fixed mem other
  rw [not_isSmall capitalized] at small
  cases small

theorem values_not_fixed (capitalized : Text.Capitalized base.toList) :
    base ++ "Values" ∉ fixedNames checked := by
  intro mem
  obtain ⟨-, ends⟩ := Bool.and_eq_true_iff.1 (hasOwnEnding_of_fixed mem)
  have suffix : valuesEnding.isSuffixOf (base ++ "Values").toList = true := by
    rw [toList_values, List.isSuffixOf_iff_suffix]
    exact List.suffix_append _ _
  rw [suffix, not_isSmall (capitalized_values capitalized)] at ends
  cases ends

theorem operation_not_fixed (mem : name ∈ operationNames operation) : name ∉ fixedNames checked := by
  intro fixed
  obtain ⟨none, -⟩ := Bool.and_eq_true_iff.1 (hasOwnEnding_of_fixed fixed)
  have apart : ∀ ending ∈ endings, ¬ending <:+ name.toList := by
    intro ending listed suffix
    have other := List.all_eq_true.1 none ending listed
    rw [List.isSuffixOf_iff_suffix.2 suffix] at other
    cases other
  rcases spelled_of_operation mem with spelled | spelled | spelled
  · exact apart _ List.mem_cons_self (spelled ▸ List.suffix_append _ _)
  · exact apart _ List.mem_cons_self (spelled ▸ List.suffix_append _ _)
  · exact apart _ (List.mem_cons_of_mem _ List.mem_cons_self) (spelled ▸ List.suffix_append _ _)

theorem values_not_operation : base ++ "Values" ∉ operationNames operation := by
  intro mem
  rcases spelled_of_operation mem with spelled | spelled | spelled <;> rw [toList_values] at spelled
  · exact append_ne (by decide) (by decide) spelled
  · exact append_ne (by decide) (by decide) spelled
  · exact append_ne (by decide) (by decide) spelled

end Made

section Packages

variable {api : Api} {checked : Bool} {names : List String} {places : List Placement}
  {operations : List Operation}

theorem disjoint_values_iff : names.Disjoint (places.flatMap valuesNames) ↔
    ∀ place ∈ places, declaresValues place = true → place.model.name ++ "Values" ∉ names := by
  constructor
  · intro apart place placed declares inside
    exact apart inside (mem_valuesNames.2 ⟨place, placed, declares, rfl⟩)
  · intro apart name inside mem
    obtain ⟨place, placed, declares, rfl⟩ := mem_valuesNames.1 mem
    exact apart place placed declares inside

section Capitalized

variable (named : ∀ name ∈ names, Text.Capitalized name.toList)
include named

theorem disjoint_operations_iff : names.Disjoint (operations.flatMap operationNames) ↔
    (∀ operation ∈ operations, goName operation ++ "Ctrl" ∉ names) ∧
      ∀ operation ∈ operations, hasParameters operation = true → parametersName operation ∉ names := by
  constructor
  · intro apart
    have made : ∀ operation ∈ operations, ∀ name ∈ operationNames operation, name ∉ names :=
      fun operation mem name own inside => apart inside (List.mem_flatMap.2 ⟨operation, mem, own⟩)
    constructor
    · exact fun operation mem => made operation mem _ (mem_operationNames.2 (.inr rfl))
    · exact fun operation mem has => made operation mem _ (mem_operationNames.2 (.inl ⟨has, .inl rfl⟩))
  · rintro ⟨handlers, parameters⟩ name inside mem
    obtain ⟨operation, listed, own⟩ := List.mem_flatMap.1 mem
    rcases mem_operationNames.1 own with ⟨has, rfl | rfl⟩ | rfl
    · exact parameters operation listed has inside
    · exact ne_read (named _ inside) (toList_read _)
    · exact handlers operation listed inside

theorem disjoint_fixed_iff :
    names.Disjoint (fixedNames checked) ↔ ∀ name ∈ sharedTypes, name ∉ names := by
  constructor
  · exact fun apart name mem inside => apart inside (mem_fixed_of_shared mem)
  · exact fun apart name inside fixed => apart name (shared_of_capitalized (named name inside) fixed) inside

end Capitalized

theorem values_disjoint_operations :
    (places.flatMap valuesNames).Disjoint (operations.flatMap operationNames) := by
  intro name mem mem'
  obtain ⟨place, -, -, rfl⟩ := mem_valuesNames.1 mem
  obtain ⟨operation, -, own⟩ := List.mem_flatMap.1 mem'
  exact values_not_operation own

theorem values_disjoint_fixed (named : ∀ place ∈ places, Text.Capitalized place.model.name.toList) :
    (places.flatMap valuesNames).Disjoint (fixedNames checked) := by
  intro name mem fixed
  obtain ⟨place, placed, -, rfl⟩ := mem_valuesNames.1 mem
  exact values_not_fixed (named place placed) fixed

theorem operations_disjoint_fixed :
    (operations.flatMap operationNames).Disjoint (fixedNames checked) := by
  intro name mem fixed
  obtain ⟨operation, -, own⟩ := List.mem_flatMap.1 mem
  exact operation_not_fixed own fixed

theorem madeNames_perm (api : Api) (checked : Bool) : (madeNames api checked).Perm
    (modelNames api ++ api.placements.flatMap valuesNames ++
      ((api.includedOperations .server).map (·.2)).flatMap operationNames ++ fixedNames checked) := by
  have split := List.flatMap_append_perm api.placements (fun place => [place.model.name]) valuesNames
  rw [← List.map_eq_flatMap] at split
  exact (split.symm.append_right _).append_right _

theorem madeNames_nodup_iff
    (capitalized : ∀ model ∈ api.models, Text.Capitalized model.name.toList) :
    (madeNames api checked).Nodup ↔ NamesApart api := by
  have placed : ∀ place ∈ api.placements, Text.Capitalized place.model.name.toList :=
    fun place mem => capitalized _ (List.mem_of_getElem? (Api.getElem?_of_mem_placements mem))
  have named : ∀ name ∈ modelNames api, Text.Capitalized name.toList :=
    List.forall_mem_map.2 placed
  rw [(madeNames_perm api checked).nodup_iff, List.nodup_append', List.nodup_append',
    List.nodup_append', List.disjoint_append_left, List.disjoint_append_left, List.disjoint_append_left,
    nodup_operationNames, disjoint_values_iff, disjoint_operations_iff named, disjoint_fixed_iff named,
    List.map_map, List.forall_mem_map, List.forall_mem_map]
  constructor
  · rintro ⟨⟨⟨models, -, values⟩, operations, ⟨handlers, parameters⟩, -⟩, -, ⟨shared, -⟩, -⟩
    exact ⟨models, operations, values, handlers, parameters, shared⟩
  · intro apart
    exact ⟨⟨⟨apart.models, nodup_valuesNames apart.models, apart.values⟩, apart.operations,
        ⟨apart.handlers, apart.parameters⟩, values_disjoint_operations⟩,
      fixedNames_nodup checked, ⟨apart.shared, values_disjoint_fixed placed⟩, operations_disjoint_fixed⟩

end Packages

end OpenApiCodegen.Server
