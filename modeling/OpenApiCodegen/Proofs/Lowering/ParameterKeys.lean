import Mathlib.Data.List.Nodup
import OpenApiCodegen.Api.GlobalGroup
import OpenApiCodegen.Proofs.List.Firsts
import OpenApiCodegen.Proofs.Lowering.DocumentRuns

namespace OpenApiCodegen

def Api.Parameter.isPayload (parameter : Api.Parameter) : Bool :=
  parameter.location = .body || parameter.location = .form

namespace Lowering

open Api
open OpenApi (NormalDocument)

section Merging

def firstKeys (parameters : List OpenApi.Parameter) : List (String × String) :=
  @firsts _ instBEqOfDecidableEq (parameters.map parameterKey)

theorem keys_mergeParameters (shared own : List OpenApi.Parameter) :
    (mergeParameters shared own).map parameterKey = firstKeys (shared ++ own) := by
  rw [mergeParameters_eq]
  have start : ([] : List OpenApi.Parameter).map parameterKey = @firsts _ instBEqOfDecidableEq [] := rfl
  exact keys_placeAll start (shared ++ own)

end Merging

def placedKey? (key : String × String) : Option (Location × String) :=
  (location? key.1).map fun location => (location, key.2)

theorem location_name {place : String} {location : Location}
    (known : location? place = some location) : place = location.name := by
  unfold location? at known
  split at known
  all_goals cases known
  all_goals rfl

theorem placedKey?_injective {key key' : String × String} {placed : Location × String}
    (found : placedKey? key = some placed) (found' : placedKey? key' = some placed) : key = key' := by
  have placedAt : ∀ {key}, placedKey? key = some placed → key = (placed.1.name, placed.2) := by
    rintro ⟨place, name⟩ found
    obtain ⟨location, known, rfl⟩ := Option.map_eq_some_iff.1 found
    exact Prod.ext (location_name known) rfl
  rw [placedAt found, placedAt found']

theorem not_isPayload_of_location? {place : String} {parameter : Parameter}
    (known : location? place = some parameter.location) : parameter.isPayload = false := by
  have elsewhere : ∀ {location}, location? place = some location → location ≠ .body ∧ location ≠ .form := by
    intro location known
    unfold location? at known
    split at known
    all_goals cases known
    all_goals exact ⟨nofun, nofun⟩
  simp [Parameter.isPayload, elsewhere known]

section Operations

variable {n : Nat} {scope : Scope} {owner : String} {draft draft' : Draft}

theorem keys_of_loweredBetween {R : Draft → Draft → Prop} {sources : List OpenApi.Parameter}
    {lowered : List Parameter}
    (each : List.Forall₂ (LoweredBetween R n scope owner draft draft') sources lowered) :
    lowered.map Parameter.key = (sources.map parameterKey).filterMap placedKey? := by
  induction each with
  | nil => rfl
  | cons made _ ih =>
    simp [placedKey?, parameterKey, Parameter.key, made.location, made.wireName, ih]

theorem keys_of_lowerParameters {parameters : List OpenApi.Parameter} {lowered : List Parameter}
    (run : lowerParameters n scope owner parameters draft = some (lowered, draft')) :
    lowered.map Parameter.key = (parameters.map parameterKey).filterMap placedKey? := by
  have each := (lowerParameters_run composes_true (fun _ _ _ _ _ _ _ _ _ _ => trivial) run).2
  rw [keys_of_loweredBetween each, List.filterMap_map, List.filterMap_map, List.filterMap_filter]
  congr 1
  funext parameter
  cases known : location? parameter.location <;> simp [placedKey?, parameterKey, known]

theorem isPayload_of_bodyParameter {body : OpenApi.RequestBody} {media : String}
    {schema : Option OpenApi.Schema} {parameter : Parameter}
    (run : bodyParameter n scope owner body media schema draft = some (parameter, draft')) :
    parameter.isPayload = true := by
  cases schema with
  | none =>
    obtain ⟨rfl, -⟩ := Lower.pure_eq_some.1 run
    rfl
  | some schema =>
    simp only [bodyParameter, Lower.bind_eq_some, Lower.pure_eq_some] at run
    obtain ⟨_, _, -, rfl, -⟩ := run
    rfl

theorem isPayload_of_lowerRequest {declared : Declared} {body : List Parameter}
    (run : lowerRequest n scope owner declared draft = some (body, draft')) :
    ∀ parameter ∈ body, parameter.isPayload = true := by
  unfold lowerRequest at run
  cases sent : declared.operation.requestBody with
  | none =>
    rw [sent] at run
    obtain ⟨rfl, -⟩ := Lower.pure_eq_some.1 run
    simp
  | some request =>
    simp only [sent, lowerBody_eq] at run
    cases form : sentForm? request.content with
    | some schema =>
      simp only [form, Lower.map_eq_some] at run
      obtain ⟨properties, -, rfl⟩ := run
      intro parameter mem
      obtain ⟨property, -, rfl⟩ := List.mem_map.1 mem
      rfl
    | none =>
      rcases payload : pickPayload? request.content with _ | ⟨media, schema⟩
      · simp only [form, payload, Lower.pure_eq_some] at run
        obtain ⟨rfl, -⟩ := run
        simp
      · simp only [form, payload, Lower.map_eq_some] at run
        obtain ⟨parameter, one, rfl⟩ := run
        intro other mem
        rw [List.mem_singleton.1 mem]
        exact isPayload_of_bodyParameter one

theorem filter_not_isPayload {declared : Declared} {sources : List OpenApi.Parameter}
    {parameters body : List Parameter} {middle : Draft}
    (first : lowerParameters n scope owner sources draft = some (parameters, middle))
    (second : lowerRequest n scope owner declared middle = some (body, draft')) :
    ((parameters ++ body).filter fun parameter => !parameter.isPayload) = parameters := by
  have each := (lowerParameters_run composes_true (fun _ _ _ _ _ _ _ _ _ _ => trivial) first).2
  have kept : ∀ parameter ∈ parameters, (!parameter.isPayload) = true := by
    intro parameter mem
    obtain ⟨source, -, made⟩ := exists_of_forall₂_right each mem
    simp [not_isPayload_of_location? made.location]
  have dropped : body.filter (fun parameter => !parameter.isPayload) = [] :=
    List.filter_eq_nil_iff.2 fun parameter mem => by simp [isPayload_of_lowerRequest second parameter mem]
  rw [List.filter_append, dropped, List.append_nil, List.filter_eq_self.2 kept]

theorem nodup_of_lowerOperation {declared : Declared} {operation : Operation}
    (run : lowerOperation n scope declared draft = .ok (operation, draft')) :
    ((operation.parameters.filter fun parameter => !parameter.isPayload).map Parameter.key).Nodup := by
  obtain ⟨parameters, body, _, _, _, one, two, -, -, same, -⟩ := lowerOperation_run run
  rw [same, filter_not_isPayload one two, keys_of_lowerParameters one, keys_mergeParameters]
  exact List.Nodup.filterMap (fun _ _ _ => placedKey?_injective) (firsts_nodup _)

theorem lowerOperations_run {ids : List String} {declared : List Declared}
    {operations : List Operation}
    (run : lowerOperations n scope ids declared draft = .ok (operations, draft')) :
    List.Forall₂ (fun declared operation => ∃ before after,
      lowerOperation n scope declared before = .ok (operation, after)) declared operations := by
  refine (runs_of_lowerOperations composes_true (fun _ _ _ _ _ _ => trivial) run).2.imp ?_
  rintro declared operation ⟨before, after, -, one, -⟩
  exact ⟨before, after, one⟩

end Operations

theorem parameterKeys_nodup {doc : NormalDocument} {api : Api} (run : lower doc = .ok api) :
    ∀ operation ∈ api.operations,
      ((operation.parameters.filter fun parameter => !parameter.isPayload).map
        Parameter.key).Nodup := by
  obtain ⟨operations, _, _, -, run, -, rfl⟩ := lower_run run
  intro operation mem
  obtain ⟨declared, -, _, _, lowered⟩ := exists_of_forall₂_right (lowerOperations_run run) mem
  exact nodup_of_lowerOperation lowered

end Lowering

end OpenApiCodegen
