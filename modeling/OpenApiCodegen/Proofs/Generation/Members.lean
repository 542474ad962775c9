import OpenApiCodegen.Proofs.Api.GlobalGroups
import OpenApiCodegen.Proofs.Lowering.DocumentRuns
import OpenApiCodegen.Proofs.Output.MemberLists

namespace OpenApiCodegen

open Api (Model Operation Parameter)
open Lowering (Plain Wired wireNames plain_identifier)
open Output (CodeUnit)

structure ModelMembers (target : Target) (api : Api) (model : Model) (text : String) : Prop where
  printed : ∀ list ∈ target.modelLists api model, Code.Printed target.codeIndent list.code text
  spells : Spells target (target.writtenModels api model) (target.modelLists api model)
  distinct : (∀ list ∈ target.modelLists api model, list.names.Nodup) ↔
    ∀ written ∈ target.writtenModels api model, PropertiesApart target written
  server : ∀ written ∈ target.writtenModels api model,
    PropertiesApart .server written → PropertiesApart target written
  interfaces : target = .webClient → ∀ list ∈ target.modelLists api model, list.names.Nodup

/-- What the unit of an operation declares for its parameters. -/
structure OperationMembers (target : Target) (api : Api) (operation : Operation) (text : String) : Prop where
  printed : ∀ list ∈ target.operationLists api operation, Code.Printed target.codeIndent list.code text
  spells : ∀ list ∈ target.operationLists api operation,
    list.names.Perm ((target.sent operation).map fun parameter => fieldSpelling target parameter.name)
  distinct : (∀ list ∈ target.operationLists api operation, list.names.Nodup) ↔
    ParametersApart target (target.sent operation)
  server : ParametersApart .server operation.parameters → ParametersApart target (target.sent operation)
  clients : ParametersApart .mobileClient operation.locals ↔ ParametersApart .webClient operation.locals

/-- The getters that the web client declares for global parameters. -/
structure GetterMembers (api : Api) (text : String) : Prop where
  printed : Code.Printed WebClient.indent (WebClient.gettersInterface (Api.globalGroups api)).memberList.code text
  distinct : (WebClient.gettersInterface (Api.globalGroups api)).memberList.names.Nodup ↔
    Text.ToldApart (· ++ "Getter") ((Api.draftGroups api).map (Api.getterBase (Api.draftGroups api)))

section Comparisons

variable {target : Target} {model : Model} {parameters others : List Parameter} {parameter : Parameter}

theorem plain_of_wired (wired : Wired parameter) : Plain parameter.name := by
  rcases wired with named | ⟨-, word, named⟩
  · exact named ▸ plain_identifier parameter.wireName
  · exact named ▸ plain_identifier word

theorem fieldSpelling_server {name other : String} (plain : Plain name) (plain' : Plain other)
    (same : fieldSpelling target name = fieldSpelling target other) :
    fieldSpelling .server name = fieldSpelling .server other := by
  cases target with
  | mobileClient => exact Server.fieldName_of_afterLetter ((MobileClient.fieldName_eq_iff plain plain').1 same)
  | server => exact same
  | webClient => exact Server.fieldName_of_afterLetter same

theorem PropertiesApart.of_server (apart : PropertiesApart .server model) : PropertiesApart target model := by
  intro a memA b memB same
  cases target with
  | mobileClient =>
    have fields : fieldSpelling .mobileClient (Lowering.identifier a) =
        fieldSpelling .mobileClient (Lowering.identifier b) := same
    exact apart a memA b memB (fieldSpelling_server (plain_identifier a) (plain_identifier b) fields)
  | server => exact apart a memA b memB same
  | webClient => exact same

theorem ParametersApart.of_server (wired : ∀ parameter ∈ parameters, Wired parameter)
    (apart : ParametersApart .server parameters) (part : others ⊆ parameters) :
    ParametersApart target others := by
  intro a memA b memB same
  have plainA := plain_of_wired (wired a (part memA))
  have plainB := plain_of_wired (wired b (part memB))
  exact apart a (part memA) b (part memB) (fieldSpelling_server plainA plainB same)

theorem parametersApart_clients (wired : ∀ parameter ∈ parameters, Wired parameter) :
    ParametersApart .mobileClient parameters ↔ ParametersApart .webClient parameters := by
  have alike : ∀ a ∈ parameters, ∀ b ∈ parameters,
      fieldSpelling .mobileClient a.name = fieldSpelling .mobileClient b.name ↔
        fieldSpelling .webClient a.name = fieldSpelling .webClient b.name := by
    intro a memA b memB
    exact MobileClient.fieldName_eq_iff (plain_of_wired (wired a memA)) (plain_of_wired (wired b memB))
  constructor
  · intro apart a memA b memB same
    exact apart a memA b memB ((alike a memA b memB).2 same)
  · intro apart a memA b memB same
    exact apart a memA b memB ((alike a memA b memB).1 same)

end Comparisons

section Units

variable {target : Target} {api : Api} {model : Model} {operation : Operation}

theorem modelMembers (keys : Lowering.WireKeysApart api) (named : Lowering.NamedFromWire api)
    (mem : model ∈ api.models) (config : Config) :
    ModelMembers target api model (target.modelUnit config api model).code := by
  have inside : ∀ written ∈ target.writtenModels api model, written ∈ api.models :=
    fun _ listed => Target.mem_models_of_written mem listed
  have spells : Spells target (target.writtenModels api model) (target.modelLists api model) :=
    spells_modelLists fun written listed => named.properties written (inside written listed)
  have distinct := spells.distinct_iff fun written listed => keys.properties written (inside written listed)
  refine ⟨fun list listed => printed_modelUnit listed config, spells, distinct, ?_, ?_⟩
  · exact fun written _ apart => apart.of_server
  · rintro rfl
    exact distinct.2 fun written _ a _ b _ same => same

theorem operationMembers {source : Source} (keys : Lowering.WireKeysApart source.api)
    (named : Lowering.NamedFromWire source.api) (mem : operation ∈ source.api.operations) (config : Config) :
    OperationMembers target source.api operation (target.operationUnit config source operation).code := by
  have wired := named.parameters operation mem
  have locals : operation.locals ⊆ operation.parameters := List.filter_subset_self _
  have part : target.sent operation ⊆ operation.parameters := by
    cases target with
    | server => exact List.Subset.refl _
    | _ => exact locals
  constructor
  · exact fun list listed => printed_operationUnit listed config
  · exact fun list listed => names_perm_of_operationLists listed
  · exact operationLists_distinct_iff (keys.parameters operation mem)
  · exact fun apart => apart.of_server wired part
  · exact parametersApart_clients fun parameter listed => wired parameter (locals listed)

theorem getterMembers (api : Api) (config : WebConfig) : GetterMembers api
    (WebClient.sharedUnit config WebClient.globalsModule
      (WebClient.globalParametersCode (Api.globalGroups api))).code := by
  constructor
  · have piece : Code.Within (WebClient.gettersInterface (Api.globalGroups api)).code
        (Code.spaced ([[WebClient.importCode true ["AxiosInstance", "InternalAxiosRequestConfig"] "axios"],
          (WebClient.gettersInterface (Api.globalGroups api)).code, WebClient.routeInterfaceCode,
          WebClient.matchesCode] ++ (Api.globalGroups api).map WebClient.routesCode ++
            [WebClient.interceptorCode (Api.globalGroups api)])) :=
      .of_mem_spaced (by simp)
    exact piece.rendered
  · have names : (WebClient.gettersInterface (Api.globalGroups api)).memberList.names =
        (Api.globalGroups api).map (·.getter) := by
      simp [WebClient.Interface.memberList, WebClient.gettersInterface, WebClient.getterMember,
        Function.comp_def]
    rw [names, Api.getters_globalGroups]
    exact Text.nodup_numberRepeats_iff _ _

end Units

section Generated

variable {doc : OpenApi.Document} {source : Source} {target : Target} {config : Config} {code : GeneratedCode}

/-- The members of every declaration are distinct if and only if no two names of what they stand for have one
member. Interfaces of models keep the names on the wire, so theirs are. What is distinct for the server is so
for the other targets, too. -/
theorem members_of_generate (keyed : doc.Keyed) (lowered : Source.of doc = .ok source)
    (run : generate target config source = .ok code) :
    (∀ entry ∈ code.models, ∃ model, (entry.1, model) ∈ source.api.unitModels ∧
      ModelMembers target source.api model entry.2.code) ∧
    (∀ entry ∈ code.operations, ∃ operation, (entry.1, operation) ∈ source.api.includedOperations target ∧
      OperationMembers target source.api operation entry.2.code) ∧
    (target = .webClient →
      Api.reachesGlobals source.api ((source.api.includedOperations target).map (·.2)) = true →
        ∃ unit ∈ code.shared, GetterMembers source.api unit.code) := by
  have keys := Lowering.wireKeys_apart.2 keyed (lower_of_source lowered)
  have named := Lowering.namedFromWire_of_lower (lower_of_source lowered)
  have served := served_of_generate run
  refine ⟨?_, ?_, ?_⟩
  · rintro ⟨id, unit⟩ mem
    obtain ⟨model, listed, rfl⟩ := (generated_of_generate run).mem_models.1 mem
    have here := List.mem_of_getElem? (Api.mem_unitModels.1 listed).1
    exact ⟨model, listed, modelMembers keys named here config⟩
  · intro entry mem
    rw [served.operations] at mem
    obtain ⟨⟨id, operation⟩, included, rfl⟩ := List.mem_map.1 mem
    have here := List.mem_of_getElem? (Api.mem_includedOperations.1 included).1
    exact ⟨operation, included, operationMembers keys named here config⟩
  · rintro rfl reached
    refine ⟨_, ?_, getterMembers source.api config.web⟩
    simp [served.shared, Target.sharedUnits, WebClient.sharedUnits, reached]

end Generated

theorem Target.mem_all (target : Target) : target ∈ Target.all := by
  cases target <;> decide

/-- A table of accounts with the properties, and a search with the parameters. -/
def accounts (properties : List String) (parameters : List OpenApi.Parameter) : OpenApi.Document where
  openapi := none
  info := none
  paths := [("/accounts", Lowering.reading parameters [])]
  schemas := some [("Account",
    { properties := some (properties.map fun name => (name, { typeNames := some (.single "string") })) })]
  tags := []
  source := none

/-- Two ways to write one property have one field, and so have the parameters of one name that travel in
the query and in a header. -/
theorem accounts_clash : ∃ source,
    Source.of (accounts ["user_id", "userId"]
      [Lowering.parameterAt "query" "id" none, Lowering.parameterAt "header" "id" none]) = .ok source ∧
    ∀ target, ∃ code, generate target {} source = .ok code ∧
      (∃ id operation unit, (id, operation) ∈ source.api.includedOperations target ∧
        (id, unit) ∈ code.operations ∧ ∃ list ∈ target.operationLists source.api operation,
          Code.Printed target.codeIndent list.code unit.code ∧ ¬list.names.Nodup) ∧
      (target ≠ .webClient → ∃ id model unit, (id, model) ∈ source.api.unitModels ∧
        (id, unit) ∈ code.models ∧ ∃ list ∈ target.modelLists source.api model,
          Code.Printed target.codeIndent list.code unit.code ∧ ¬list.names.Nodup) := by
  have seen : (Source.of (accounts ["user_id", "userId"]
      [Lowering.parameterAt "query" "id" none, Lowering.parameterAt "header" "id" none])).toOption.map
      (fun source : Source => (fullySupported source.api, decide (∀ target ∈ Target.all,
        (∃ entry ∈ source.api.includedOperations target,
          ∃ list ∈ target.operationLists source.api entry.2, ¬list.names.Nodup) ∧
        (target ≠ .webClient → ∃ entry ∈ source.api.unitModels,
          ∃ list ∈ target.modelLists source.api entry.2, ¬list.names.Nodup)))) = some (true, true) := by
    rfl
  obtain ⟨source, lowered, clashes, runs⟩ := exists_runs_of_seen seen
  refine ⟨source, lowered, ?_⟩
  intro target
  obtain ⟨call, declared⟩ := of_decide_eq_true clashes target target.mem_all
  obtain ⟨code, run⟩ := runs target {}
  refine ⟨code, run, ?_, ?_⟩
  · obtain ⟨⟨id, operation⟩, included, list, mem, twice⟩ := call
    have unit : (id, target.operationUnit {} source operation) ∈ code.operations := by
      rw [(served_of_generate run).operations]
      exact List.mem_map_of_mem included
    exact ⟨id, operation, _, included, unit, list, mem, printed_operationUnit mem {}, twice⟩
  · intro other
    obtain ⟨⟨id, model⟩, own, list, mem, twice⟩ := declared other
    have unit := (generated_of_generate run).mem_models.2 ⟨model, own, rfl⟩
    exact ⟨id, model, _, own, unit, list, mem, printed_modelUnit mem {}, twice⟩

theorem accounts_distinct : ∃ source,
    Source.of (accounts ["user_id", "userName"]
      [Lowering.parameterAt "query" "id" none, Lowering.parameterAt "header" "tenant" none]) = .ok source ∧
    source.api.unitNames = ["Account"] ∧ source.api.operations.map (·.id) = ["getAccounts"] ∧
    ∀ target, ∃ code, generate target {} source = .ok code ∧
      (∀ entry ∈ code.models, ∃ model, (entry.1, model) ∈ source.api.unitModels ∧
        ∀ list ∈ target.modelLists source.api model,
          Code.Printed target.codeIndent list.code entry.2.code ∧ list.names.Nodup) ∧
      ∀ entry ∈ code.operations, ∃ operation, (entry.1, operation) ∈ source.api.includedOperations target ∧
        ∀ list ∈ target.operationLists source.api operation,
          Code.Printed target.codeIndent list.code entry.2.code ∧ list.names.Nodup := by
  have keyed : (accounts ["user_id", "userName"]
      [Lowering.parameterAt "query" "id" none, Lowering.parameterAt "header" "tenant" none]).Keyed :=
    OpenApi.Document.keyed_of_allSchemas (by decide)
  have seen : (Source.of (accounts ["user_id", "userName"]
      [Lowering.parameterAt "query" "id" none, Lowering.parameterAt "header" "tenant" none])).toOption.map
      (fun source : Source => (fullySupported source.api, source.api.unitNames, source.api.operations.map (·.id),
        decide ((∀ entry ∈ source.api.unitModels, ∀ target ∈ Target.all,
            ∀ written ∈ target.writtenModels source.api entry.2, PropertiesApart .server written) ∧
          ∀ operation ∈ source.api.operations, ParametersApart .server operation.parameters))) =
      some (true, ["Account"], ["getAccounts"], true) := by
    rfl
  obtain ⟨source, lowered, seen, runs⟩ := exists_runs_of_seen seen
  simp only [Prod.mk.injEq, decide_eq_true_eq] at seen
  obtain ⟨models, operations, properties, parameters⟩ := seen
  refine ⟨source, lowered, models, operations, ?_⟩
  intro target
  obtain ⟨code, run⟩ := runs target {}
  obtain ⟨declared, called, -⟩ := members_of_generate keyed lowered run
  refine ⟨code, run, ?_, ?_⟩
  · intro entry mem
    obtain ⟨model, listed, members⟩ := declared entry mem
    have distinct := members.distinct.2 fun written inside =>
      members.server written inside (properties _ listed target target.mem_all written inside)
    exact ⟨model, listed, fun list inside => ⟨members.printed list inside, distinct list inside⟩⟩
  · intro entry mem
    obtain ⟨operation, included, members⟩ := called entry mem
    have here := List.mem_of_getElem? (Api.mem_includedOperations.1 included).1
    have distinct := members.distinct.2 (members.server (parameters operation here))
    exact ⟨operation, included, fun list inside => ⟨members.printed list inside, distinct list inside⟩⟩

end OpenApiCodegen
