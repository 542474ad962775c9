import OpenApiCodegen.Generation
import OpenApiCodegen.Proofs.Api.GlobalGroups
import OpenApiCodegen.Proofs.Lowering.DocumentRuns

namespace OpenApiCodegen.Api

open Lowering (identifier)

/-- What the getters of a group are called, before numbers and without their ending: the identifier, and the
location behind it if a name at another location has the same one. -/
def getterStem (keys : List (Location × String)) (key : Location × String) : String :=
  if ∃ other ∈ keys, identifier other.2 = identifier key.2 ∧ other.1 ≠ key.1 then
    identifier key.2 ++ Text.capitalize key.1.name
  else identifier key.2

def getterStems (api : Api) : List String :=
  let keys := (globalGroups api).map GlobalGroup.key
  keys.map (getterStem keys)

def getters (api : Api) : List String :=
  (globalGroups api).map (·.getter)

def endsWithDigit (name : String) : Bool :=
  name.toList.getLast?.any Char.isDigit

section Identifiers

variable {groups : List GlobalGroup}

def Identified (groups : List GlobalGroup) : Prop :=
  ∀ group ∈ groups, group.ident = identifier group.name

theorem Identified.changed {key : Location × String} {change : GlobalGroup → GlobalGroup}
    (identified : Identified groups)
    (kept : ∀ group : GlobalGroup, (change group).ident = group.ident ∧ (change group).name = group.name) :
    Identified (changeGroup key change groups) := by
  intro group mem
  obtain ⟨before, inside, rfl⟩ := mem_changeGroup.1 mem
  have own := identified before inside
  split
  · rw [(kept before).1, (kept before).2, own]
  · exact own

theorem Identified.join (identified : Identified groups) (parameter : Parameter) :
    Identified (joinGroup groups parameter) := by
  unfold joinGroup
  split
  · exact identified.changed fun _ => ⟨rfl, rfl⟩
  · intro group mem
    rcases List.mem_append.1 mem with old | new
    · exact identified group old
    · rw [List.mem_singleton.1 new]
      rfl

theorem Identified.attach (identified : Identified groups) (use : Operation × Parameter) :
    Identified (attachRoute groups use) := by
  apply identified.changed
  intro group
  unfold GlobalGroup.addRoute
  split <;> exact ⟨rfl, rfl⟩

theorem identified_draftGroups (api : Api) : Identified (draftGroups api) := by
  have opened : Identified (((globalUses api).map (·.2)).foldl joinGroup []) :=
    List.foldlRecOn (motive := Identified) _ joinGroup (by simp [Identified])
      fun _ identified parameter _ => identified.join parameter
  exact List.foldlRecOn (motive := Identified) _ attachRoute opened
    fun _ identified use _ => identified.attach use

end Identifiers

section Stems

variable {api : Api}

theorem getterBase_eq {groups : List GlobalGroup} (identified : Identified groups) {group : GlobalGroup}
    (mem : group ∈ groups) : getterBase groups group = getterStem (groups.map GlobalGroup.key) group.key := by
  have shared : groups.any (fun other => other.ident = group.ident && other.location ≠ group.location) = true ↔
      ∃ other ∈ groups.map GlobalGroup.key, identifier other.2 = identifier group.key.2 ∧
        other.1 ≠ group.key.1 := by
    simp only [List.any_eq_true, List.mem_map, exists_exists_and_eq_and]
    refine exists_congr fun other => and_congr_right fun inside => ?_
    simp [GlobalGroup.key, identified other inside, identified group mem]
  unfold getterBase getterStem
  by_cases apart : ∃ other ∈ groups.map GlobalGroup.key, identifier other.2 = identifier group.key.2 ∧
      other.1 ≠ group.key.1
  · rw [if_pos (shared.2 apart), if_pos apart, identified group mem]
    rfl
  · rw [if_neg (mt shared.1 apart), if_neg apart, identified group mem]
    rfl

theorem getterStems_eq (api : Api) :
    getterStems api = (draftGroups api).map (getterBase (draftGroups api)) := by
  have keys : (globalGroups api).map GlobalGroup.key = (draftGroups api).map GlobalGroup.key :=
    map_globalGroups fun _ _ => rfl
  rw [getterStems, keys, List.map_map]
  exact List.map_congr_left fun group mem => (getterBase_eq (identified_draftGroups api) mem).symm

theorem getters_eq (api : Api) : getters api = (Text.numberRepeats (getterStems api)).map (· ++ "Getter") := by
  rw [getterStems_eq]
  exact getters_globalGroups api

theorem nodup_getters_iff : (getters api).Nodup ↔ (Text.numberRepeats (getterStems api)).Nodup := by
  rw [getters_eq]
  exact List.nodup_map_iff fun a b same => (String.append_left_inj "Getter").1 same

theorem endsWithDigit_getterStem {keys : List (Location × String)} {key : Location × String}
    (place : key.1 = .header ∨ key.1 = .query) (digit : endsWithDigit (getterStem keys key) = true) :
    endsWithDigit (identifier key.2) = true := by
  unfold getterStem at digit
  split at digit
  · have last : ∀ suffix : String, suffix.toList.getLast?.any (fun c => !c.isDigit) = true →
        endsWithDigit (identifier key.2 ++ suffix) = false := by
      intro suffix letter
      cases written : suffix.toList.getLast? with
      | none => simp [written] at letter
      | some c => simpa [endsWithDigit, written] using letter
    rcases place with header | query
    · rw [header, last _ (by rfl)] at digit
      cases digit
    · rw [query, last _ (by rfl)] at digit
      cases digit
  · exact digit

theorem endsWithDigit_append {name digits : String} (added : Text.AreDigits digits) :
    endsWithDigit (name ++ digits) = true := by
  have nonempty : digits.toList ≠ [] := mt String.toList_eq_nil_iff.1 added.1
  have last := added.2 _ (List.getLast_mem nonempty)
  simp [endsWithDigit, List.getLast?_append, List.getLast?_eq_some_getLast nonempty, last]

/-- Getters are told apart if and only if no stem that repeats is, with its number, another stem with the
number of that one. This takes a name on the wire whose identifier ends with a digit. -/
theorem getters_distinct_iff (api : Api) :
    ((getters api).Nodup ↔ ∀ stem digits k l, ¬Text.Misread (getterStems api) stem digits k l) ∧
    ((∀ group ∈ globalGroups api, endsWithDigit (identifier group.name) = false) → (getters api).Nodup) := by
  have told := nodup_getters_iff.trans (Text.nodup_numberRepeats_iff_not_misread (getterStems api))
  refine ⟨told, fun plain => told.2 ?_⟩
  intro stem digits k l misread
  have listed : stem ++ digits ∈ getterStems api :=
    List.count_pos_iff.1 (Nat.lt_of_lt_of_le misread.occurs.1 misread.occurs.2)
  obtain ⟨key, inside, same⟩ := List.mem_map.1 listed
  obtain ⟨group, mem, rfl⟩ := List.mem_map.1 inside
  have digit := endsWithDigit_getterStem (location_of_mem mem) (same ▸ endsWithDigit_append misread.added)
  exact Bool.eq_false_iff.1 (plain group mem) digit

end Stems

/-- An operation with parameters that are marked as global. -/
def registers (parameters : List (String × String)) : OpenApi.Document where
  openapi := none
  info := none
  paths := [("/users", Lowering.reading (parameters.map fun (place, name) =>
    Lowering.parameterAt place name (some (.bool true))) [])]
  schemas := none
  tags := []
  source := none

/-- The second of two tenants is called like the one that has a number of its own. -/
theorem tenants_clash : ∃ source,
    Source.of (registers [("header", "tenant-id"), ("header", "tenant_id"), ("header", "tenant-id2")]) =
        .ok source ∧
      getters source.api = ["tenantIdGetter", "tenantId2Getter", "tenantId2Getter"] ∧
      ¬(getters source.api).Nodup := by
  have seen : (Source.of (registers [("header", "tenant-id"), ("header", "tenant_id"),
      ("header", "tenant-id2")])).toOption.map (fun source : Source => getters source.api) =
      some ["tenantIdGetter", "tenantId2Getter", "tenantId2Getter"] := by
    rfl
  obtain ⟨source, lowered, seen⟩ := Lowering.exists_of_toOption_map seen
  refine ⟨source, lowered, seen, ?_⟩
  rw [seen]
  decide

/-- Names of one location, of both and with a location at their end. -/
theorem tenants_distinct : ∃ source,
    Source.of (registers [("header", "tenant-id"), ("header", "tenant_id"), ("query", "tenantId"),
        ("header", "tenant-id-header")]) = .ok source ∧
      getters source.api = ["tenantIdHeaderGetter", "tenantIdHeader2Getter", "tenantIdQueryGetter",
        "tenantIdHeader3Getter"] ∧
      (∀ group ∈ globalGroups source.api, endsWithDigit (identifier group.name) = false) ∧
      (getters source.api).Nodup := by
  have seen : (Source.of (registers [("header", "tenant-id"), ("header", "tenant_id"), ("query", "tenantId"),
      ("header", "tenant-id-header")])).toOption.map (fun source : Source => (getters source.api,
        decide (∀ group ∈ globalGroups source.api, endsWithDigit (identifier group.name) = false))) =
      some (["tenantIdHeaderGetter", "tenantIdHeader2Getter", "tenantIdQueryGetter", "tenantIdHeader3Getter"],
        true) := by
    decide +kernel
  obtain ⟨source, lowered, seen⟩ := Lowering.exists_of_toOption_map seen
  obtain ⟨names, plain⟩ := Prod.mk.inj seen
  have plain := of_decide_eq_true plain
  exact ⟨source, lowered, names, plain, (getters_distinct_iff source.api).2 plain⟩

end OpenApiCodegen.Api
