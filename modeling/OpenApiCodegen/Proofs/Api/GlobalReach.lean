import OpenApiCodegen.Generation
import OpenApiCodegen.Proofs.Api.GlobalGroups
import OpenApiCodegen.Proofs.Api.Overlaps
import OpenApiCodegen.Proofs.Lowering.DocumentRuns

namespace OpenApiCodegen.Api

open OpenApi (Method)
open PathTemplate (Requests Overlapping matchesPattern_pattern)
open Lowering (reading parameterAt)

/-- Whether the value of a group is added to a request. -/
def GlobalGroup.reaches (group : GlobalGroup) (method : Method) (request : String) : Bool :=
  group.routes.any fun route =>
    route.method = method && PathTemplate.matchesPattern route.pattern request

section Reach

variable {api : Api} {group : GlobalGroup}

theorem reaches_iff (mem : group ∈ globalGroups api) {method : Method} {request : String} :
    group.reaches method request = true ↔ ∃ declaring ∈ api.operations,
      declaring.method = method ∧ declaring.DeclaresGlobal group.location group.name ∧
        Requests declaring.path.toList request.toList := by
  have listed : ∀ route, route ∈ group.routes ↔ group.appliesTo route.method route.path = true :=
    fun route => List.contains_iff_mem.symm
  simp only [GlobalGroup.reaches, List.any_eq_true, Bool.and_eq_true, decide_eq_true_eq,
    Route.pattern, matchesPattern_pattern]
  constructor
  · rintro ⟨route, inside, rfl, requests⟩
    obtain ⟨declaring, known, method, path, declares⟩ := (appliesTo_iff mem).1 ((listed route).1 inside)
    exact ⟨declaring, known, method, declares, path ▸ requests⟩
  · rintro ⟨declaring, known, rfl, declares, requests⟩
    refine ⟨declaring.route, (listed _).2 ?_, rfl, requests⟩
    exact (appliesTo_iff mem).2 ⟨declaring, known, rfl, rfl, declares⟩

/-- Of the requests of an operation a group reaches those that are requests of an operation with the
same method that declares it too, and so none if the templates share no request path. -/
structure ReachesShared (api : Api) (group : GlobalGroup) (operation : Operation) : Prop where
  requests : ∀ request : String, Requests operation.path.toList request.toList →
    (group.reaches operation.method request = true ↔ ∃ declaring ∈ api.operations,
      declaring.method = operation.method ∧ declaring.DeclaresGlobal group.location group.name ∧
        Requests declaring.path.toList request.toList)
  untouched : (∀ request : String, Requests operation.path.toList request.toList →
      group.reaches operation.method request = false) ↔
    ∀ declaring ∈ api.operations, declaring.method = operation.method →
      declaring.DeclaresGlobal group.location group.name → ¬ Overlapping operation.path declaring.path

theorem reachesShared (mem : group ∈ globalGroups api) (operation : Operation) :
    ReachesShared api group operation where
  requests request _ := reaches_iff mem
  untouched := by
    constructor
    · rintro untouched declaring known method declares ⟨request, own, others⟩
      have reached : group.reaches operation.method request = true :=
        (reaches_iff mem).2 ⟨declaring, known, method, declares, others⟩
      rw [untouched request own] at reached
      cases reached
    · intro apart request own
      by_contra reached
      obtain ⟨declaring, known, method, declares, others⟩ :=
        (reaches_iff mem).1 (Bool.not_eq_false _ ▸ reached)
      exact apart declaring known method declares ⟨request, own, others⟩

end Reach

/-- Users have a tenant, but the current user and teams have none. -/
def directory : OpenApi.Document where
  openapi := none
  info := none
  paths :=
    [("/users/{id}", reading [parameterAt "header" "X-Tenant" (some (.bool true))] []),
      ("/users/me", reading [] []), ("/teams/{id}", reading [] [])]
  schemas := none
  tags := []
  source := none

/-- The current user is asked for at a path that fits the template of all users. -/
theorem directory_currentUser_reached :
    ∃ source, Source.of directory = .ok source ∧
      ∃ group ∈ globalGroups source.api, ∃ operation ∈ source.api.operations,
        ¬ operation.DeclaresGlobal group.location group.name ∧
          Requests operation.path.toList "/users/me".toList ∧
            group.reaches operation.method "/users/me" = true := by
  have seen : (Source.of directory).toOption.map (fun source : Source =>
      decide (∃ group ∈ globalGroups source.api, ∃ operation ∈ source.api.operations,
        ¬ operation.DeclaresGlobal group.location group.name ∧
          Requests operation.path.toList "/users/me".toList ∧
            group.reaches operation.method "/users/me" = true)) = some true := by
    rfl
  obtain ⟨source, lowered, seen⟩ := Lowering.exists_of_toOption_map seen
  exact ⟨source, lowered, of_decide_eq_true seen⟩

/-- No request for a team is taken for one for a user. -/
theorem directory_teams_untouched :
    ∃ source, Source.of directory = .ok source ∧
      ∃ group ∈ globalGroups source.api, ∃ operation ∈ source.api.operations,
        operation.path = "/teams/{id}" ∧ ReachesShared source.api group operation ∧
          ∀ request : String, Requests operation.path.toList request.toList →
            group.reaches operation.method request = false := by
  have seen : (Source.of directory).toOption.map (fun source : Source =>
      decide (∃ group ∈ globalGroups source.api, ∃ operation ∈ source.api.operations,
        operation.path = "/teams/{id}" ∧ ∀ declaring ∈ source.api.operations,
          declaring.method = operation.method → declaring.DeclaresGlobal group.location group.name →
            ¬ Overlapping operation.path declaring.path)) = some true := by
    decide +kernel
  obtain ⟨source, lowered, seen⟩ := Lowering.exists_of_toOption_map seen
  obtain ⟨group, mem, operation, known, path, apart⟩ := of_decide_eq_true seen
  have reaches := reachesShared mem operation
  exact ⟨source, lowered, group, mem, operation, known, path, reaches, reaches.untouched.2 apart⟩

end OpenApiCodegen.Api
