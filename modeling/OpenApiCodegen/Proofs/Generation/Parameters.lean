import Mathlib.Data.List.Nodup
import OpenApiCodegen.Proofs.Api.GlobalGroups
import OpenApiCodegen.Proofs.Generation.ParameterTexts
import OpenApiCodegen.Proofs.Generation.Units
import OpenApiCodegen.Proofs.Lowering.DocumentRuns
import OpenApiCodegen.Proofs.List.Search

namespace OpenApiCodegen

open Api (Operation Parameter GlobalGroup)
open Output (CodeUnit joinPath)

section Positions

variable {α : Type} {q : α → Bool} {items : List α}

def positionsOf (q : α → Bool) (items : List α) : List Nat :=
  (items.zipIdx.filter fun entry => q entry.1).map (·.2)

theorem positionsOf_filter {β : Type} (q : α → Bool) (f : α → β) (items : List α) :
    List.Forall₂ (fun position entry => ∃ item, items[position]? = some item ∧ entry = f item)
      (positionsOf q items) ((items.filter q).map f) := by
  have kept : items.filter q = (items.zipIdx.filter fun entry => q entry.1).map (·.1) := by
    conv_lhs => rw [← List.zipIdx_map_fst 0 items, List.filter_map]
    rfl
  rw [positionsOf, kept, List.map_map, List.forall₂_map_left_iff, List.forall₂_map_right_iff,
    List.forall₂_same]
  intro entry mem
  exact ⟨entry.1, List.mem_zipIdx_iff_getElem?.1 (List.mem_of_mem_filter mem), rfl⟩

theorem count_positionsOf {position : Nat} {item : α} (at_ : items[position]? = some item) :
    (positionsOf q items).count position = if q item then 1 else 0 := by
  have mem : position ∈ positionsOf q items ↔ q item = true := by
    simp only [positionsOf, List.mem_map, List.mem_filter, Prod.exists, List.mem_zipIdx_iff_getElem?]
    constructor
    · rintro ⟨other, _, ⟨here, kept⟩, rfl⟩
      rw [at_, Option.some_inj] at here
      exact here ▸ kept
    · exact fun kept => ⟨item, position, ⟨at_, kept⟩, rfl⟩
  have nodup : (positionsOf q items).Nodup := by
    have all : (items.zipIdx.map (·.2)).Nodup := by
      rw [List.zipIdx_map_snd]
      exact List.nodup_range'
    exact all.sublist (List.filter_sublist.map _)
  split
  · rename_i kept
    exact List.count_eq_one_of_mem nodup (mem.2 kept)
  · rename_i dropped
    exact List.count_eq_zero_of_not_mem fun inside => dropped (mem.1 inside)

end Positions

/-- Every text is written for the parameter at one position. A parameter is local and has one text, or it
is global, has none, and is injected. -/
def SentOnce {ε : Type} (operation : Operation) (Written : Parameter → ε → Prop) (texts : List ε)
    (Injected : Parameter → Prop) : Prop :=
  ∃ positions : List Nat, List.Forall₂ (fun position text => ∃ parameter,
      operation.parameters[position]? = some parameter ∧ Written parameter text) positions texts ∧
    ∀ position parameter, operation.parameters[position]? = some parameter →
      Xor (parameter.isGlobal = false ∧ positions.count position = 1)
        (parameter.isGlobal = true ∧ positions.count position = 0 ∧ Injected parameter)

def ServesGroup (Routes Injection : GlobalGroup → List String → Prop) (text : String)
    (group : GlobalGroup) : Prop :=
  (∃ lines, Routes group lines ∧ HasLines "  " lines text) ∧
    ∃ lines, Injection group lines ∧ HasLines "  " lines text

/-- A file at the path adds the value of the parameter to the requests of the operation: it has a group for
the location and the name, with a route for the method and the pattern of the path. -/
def Injects (path : String) (Routes Injection : GlobalGroup → List String → Prop) (api : Api)
    (code : GeneratedCode) (operation : Operation) (parameter : Parameter) : Prop :=
  ∃ file ∈ code.artifacts, file.path = path ∧
    ∃ group ∈ Api.globalGroups api, group.location = parameter.location ∧
      group.name = parameter.wireName ∧
        (∃ route ∈ group.routes, route.method = operation.method ∧
          route.pattern = Api.PathTemplate.pattern operation.path) ∧
        ServesGroup Routes Injection file.contents group

section Sending

variable {target : Target} {config : Config} {source : Source} {code : GeneratedCode} {id : Nat}
  {operation : Operation} {parameter : Parameter}

theorem sentOnce_of_positions {ε : Type} {Written : Parameter → ε → Prop} {texts : List ε}
    {positions : List Nat} {Injected : Parameter → Prop}
    (written : List.Forall₂ (fun position text => ∃ parameter,
      operation.parameters[position]? = some parameter ∧ Written parameter text) positions texts)
    (counts : ∀ position parameter, operation.parameters[position]? = some parameter →
      positions.count position = if parameter.isGlobal then 0 else 1)
    (injected : ∀ parameter ∈ operation.parameters, parameter.isGlobal = true → Injected parameter) :
    SentOnce operation Written texts Injected := by
  refine ⟨positions, written, fun position parameter at_ => ?_⟩
  have count := counts position parameter at_
  cases isGlobal : parameter.isGlobal with
  | false =>
    rw [isGlobal] at count
    exact .inl ⟨⟨rfl, count⟩, fun other => Bool.noConfusion other.1⟩
  | true =>
    rw [isGlobal] at count
    have mem := List.mem_of_getElem? at_
    exact .inr ⟨⟨rfl, count, injected parameter mem isGlobal⟩, fun other => Bool.noConfusion other.1⟩

theorem exists_group {api : Api} (known : operation ∈ api.operations)
    (mem : parameter ∈ operation.parameters) (isGlobal : parameter.isGlobal = true) :
    ∃ group ∈ Api.globalGroups api, group.location = parameter.location ∧
      group.name = parameter.wireName ∧ operation.route ∈ group.routes := by
  have split : parameter.marked = true ∧
      (parameter.location = .header ∨ parameter.location = .query) := by
    simpa [Parameter.isGlobal] using isGlobal
  have used : (operation, parameter) ∈ Api.globalUses api := Api.mem_globalUses.2 ⟨known, mem, split⟩
  have keyed := Api.key_mem_globalGroups.2 ⟨_, used, rfl, rfl⟩
  obtain ⟨group, listed, same⟩ := List.mem_map.1 keyed
  obtain ⟨location, name⟩ := Prod.mk.inj same
  have applies : group.appliesTo operation.method operation.path = true :=
    (Api.appliesTo_iff listed).2
      ⟨operation, known, rfl, rfl, parameter, mem, location.symm, name.symm, split.1⟩
  exact ⟨group, listed, location, name, List.contains_iff_mem.1 applies⟩

theorem injects_of_unit (generated : Generated target config source code)
    (included : (id, operation) ∈ source.api.includedOperations target)
    (mem : parameter ∈ operation.parameters) (isGlobal : parameter.isGlobal = true)
    {path : String} {Routes Injection : GlobalGroup → List String → Prop}
    (shared : Api.reachesGlobals source.api ((source.api.includedOperations target).map (·.2)) = true →
      ∃ unit ∈ code.shared, unit.path = path ∧
        ∀ group ∈ Api.globalGroups source.api, ServesGroup Routes Injection unit.code group) :
    Injects path Routes Injection source.api code operation parameter := by
  have known := List.mem_of_getElem? (Api.mem_includedOperations.1 included).1
  obtain ⟨group, listed, location, name, routed⟩ := exists_group known mem isGlobal
  have reaches : Api.reachesGlobals source.api
      ((source.api.includedOperations target).map (·.2)) = true := by
    have applies : group.appliesTo operation.method operation.path = true :=
      List.contains_iff_mem.2 routed
    have takes : operation ∈ (source.api.includedOperations target).map (·.2) :=
      List.mem_map_of_mem included
    exact List.any_eq_true.2 ⟨group, listed, List.any_eq_true.2 ⟨operation, takes, applies⟩⟩
  obtain ⟨unit, emitted, rfl, serves⟩ := shared reaches
  obtain ⟨⟨table, routes, inTable⟩, lines, injection, inLines⟩ := serves group listed
  obtain ⟨file, inside, path, head, isLines, contents⟩ := generated.sharedFile_mem emitted
  exact ⟨file, inside, path, group, listed, location, name, ⟨_, routed, rfl, rfl⟩,
    ⟨table, routes, contents ▸ inTable.behind isLines⟩, lines, injection, contents ▸ inLines.behind isLines⟩

theorem isLines_operation (served : Served target config source code) :
    ∀ entry ∈ code.operations, IsLines entry.2.code := by
  rw [served.operations]
  intro entry mem
  obtain ⟨included, -, rfl⟩ := List.mem_map.1 mem
  cases target <;> exact Code.isLines_render _ _

theorem hasLines_operations (served : Served target config source code) {unit : CodeUnit}
    {indent : String} {lines : List String} (mem : (id, unit) ∈ code.operations)
    (has : HasLines indent lines unit.code) :
    HasLines indent lines
      (String.join ((code.operations.map (·.2)).map fun unit => "\n" ++ unit.code)) := by
  have blank : IsLines "\n" := .line ""
  refine HasLines.join (fun text mem => ?_) (has.behind blank) (List.mem_map.2 ⟨unit, ?_, rfl⟩)
  · obtain ⟨_, inside, rfl⟩ := List.mem_map.1 mem
    obtain ⟨entry, listed, rfl⟩ := List.mem_map.1 inside
    exact blank.append (isLines_operation served entry listed)
  · exact List.mem_map_of_mem mem

end Sending

namespace WebClient

/-- The requests have an interface for the arguments of the operation, unless it takes none. -/
def SendsOnce (config : WebConfig) (api : Api) (code : GeneratedCode) (operation : Operation) : Prop :=
  ∃ members, SentOnce operation (fun parameter => (parameterMember api parameter).Spelled) members
      (Injects (joinPath config.apiDir "global-parameters.ts") RoutesSpelled InjectionSpelled api code
        operation) ∧
    (members = [] ∨ ∃ file ∈ code.artifacts, file.path = joinPath config.apiDir "api.ts" ∧
      HasLines "  " (signatureLines operation members) file.contents)

variable {config : Config} {source : Source} {code : GeneratedCode} {id : Nat} {operation : Operation}

theorem globals_serve {groups : List GlobalGroup} {group : GlobalGroup} (listed : group ∈ groups) :
    ServesGroup RoutesSpelled InjectionSpelled (globalParametersCode groups) group := by
  constructor
  · obtain ⟨lines, spelled, spells⟩ := exists_routes group
    refine ⟨lines, spelled, (Code.Within.of_mem_spaced ?_).hasLines spells 0⟩
    exact List.mem_append_left _ (List.mem_append_right _ (List.mem_map_of_mem listed))
  · obtain ⟨lines, spelled, spells⟩ := exists_injection group
    have inBody := (Code.Within.of_mem_flatMap listed groupCode).before [.line "return config;"]
    have inInterceptor : Code.Within (groupCode group) (interceptorCode groups) :=
      ((((inBody.block _ _).block _ _).cons _).cons _).behind _
    refine ⟨lines, spelled, (inInterceptor.trans (.of_mem_spaced ?_)).hasLines spells 0⟩
    exact List.mem_append_right _ List.mem_cons_self

theorem request_hasLines (api : Api) (operation : Operation) (config : WebConfig)
    {lines : Member → List String} (each : ∀ member, Code.Spells indent member.code (lines member)) :
    operation.locals = [] ∨ HasLines indent
      (signatureLines operation ((operation.locals.map (parameterMember api)).map lines))
        (requestUnit config api operation).code := by
  by_cases none : operation.locals = []
  · exact .inl none
  · have declared : (request api operation).parameters = some (parametersInterface api operation) := by
      simp [request, none]
    refine .inr ((Code.Within.of_mem_spaced ?_).hasLines (spells_parametersInterface api operation each) 0)
    rw [declared]
    exact List.mem_append_left _ List.mem_cons_self

theorem requestsFile_mem (generated : Generated .webClient config source code)
    (served : Served .webClient config source code) {unit : CodeUnit}
    (mem : (id, unit) ∈ code.operations) {lines : List String} (has : HasLines indent lines unit.code) :
    ∃ file ∈ code.artifacts, file.path = joinPath config.web.apiDir "api.ts" ∧
      HasLines indent lines file.contents := by
  have file : requestsFile config.web ((code.models.map (·.2)).map (·.name))
      (code.operations.map (·.2)) ∈ code.artifacts := by
    rw [generated.artifacts]
    exact List.mem_append_left _ (List.mem_append_right _ (List.mem_cons_of_mem _ List.mem_cons_self))
  have name : sourceFile requestsModule = "api.ts" := rfl
  refine ⟨_, file, by rw [requestsFile, name], ?_⟩
  rw [requestsFile]
  exact (hasLines_operations served mem has).behind (isLines_header.append (Code.isLines_render indent _))

theorem globalsUnit_mem (served : Served .webClient config source code)
    (reaches : Api.reachesGlobals source.api
      ((source.api.includedOperations .webClient).map (·.2)) = true) :
    ∃ unit ∈ code.shared, unit.path = joinPath config.web.apiDir "global-parameters.ts" ∧
      ∀ group ∈ Api.globalGroups source.api,
        ServesGroup RoutesSpelled InjectionSpelled unit.code group := by
  have name : sourceFile globalsModule = "global-parameters.ts" := rfl
  refine ⟨sharedUnit config.web globalsModule (globalParametersCode (Api.globalGroups source.api)),
    ?_, by rw [sharedUnit, name], fun group listed => globals_serve listed⟩
  rw [served.shared]
  simp only [Target.sharedUnits, sharedUnits, reaches]
  exact List.mem_cons_of_mem _ List.mem_cons_self

theorem sendsOnce_of_included (generated : Generated .webClient config source code)
    (served : Served .webClient config source code)
    (included : (id, operation) ∈ source.api.includedOperations .webClient) :
    SendsOnce config.web source.api code operation := by
  have emitted : (id, requestUnit config.web source.api operation) ∈ code.operations := by
    rw [served.operations]
    exact List.mem_map.2 ⟨_, included, rfl⟩
  choose lines spelled spells using exists_member
  refine ⟨(operation.locals.map (parameterMember source.api)).map lines, ?_, ?_⟩
  · rw [List.map_map]
    refine sentOnce_of_positions ((positionsOf_filter _ _ _).imp ?_) (fun position parameter at_ => ?_)
      fun parameter mem isGlobal => ?_
    · rintro position _ ⟨parameter, at_, rfl⟩
      exact ⟨parameter, at_, spelled (parameterMember source.api parameter)⟩
    · rw [count_positionsOf at_]
      cases parameter.isGlobal <;> rfl
    · exact injects_of_unit generated included mem isGlobal (globalsUnit_mem served)
  · refine (request_hasLines source.api operation config.web spells).imp (fun none => by simp [none]) ?_
    exact requestsFile_mem generated served emitted

end WebClient

namespace MobileClient

/-- The client has a method with the arguments of the operation. -/
def SendsOnce (config : MobileConfig) (api : Api) (code : GeneratedCode) (operation : Operation) : Prop :=
  ∃ returned positional named, SentOnce operation (ArgumentSpelled api) (positional ++ named)
      (Injects (joinPath config.apiDir "global_parameters.dart") RoutesSpelled InjectionSpelled api code
        operation) ∧
    ∃ file ∈ code.artifacts, file.path = joinPath config.apiDir (Text.snakeCase config.clientName ++ ".dart") ∧
      HasLines "  " [signatureLine returned operation positional named] file.contents

variable {config : Config} {source : Source} {code : GeneratedCode} {id : Nat} {operation : Operation}

theorem globals_serve {groups : List GlobalGroup} {group : GlobalGroup} (listed : group ∈ groups)
    (client file : String) :
    ServesGroup RoutesSpelled InjectionSpelled (globalParametersCode groups client file) group := by
  have inFile : Code.Within (interceptorClass groups) (Code.spaced
      [[importLine dioPackage], [importLine file], routeClass, interceptorClass groups,
        clientFunction groups client]) :=
    .of_mem_spaced (by simp)
  have inClass : ∀ {part member : List Code} {members : List (List Code)}, Code.Within part member →
      member ∈ members → Code.Within part [.block "class GlobalParameterInterceptor extends Interceptor"
        (Code.spaced members)] :=
    fun inner mem => (inner.trans (.of_mem_spaced mem)).block _ _
  constructor
  · obtain ⟨lines, spelled, spells⟩ := exists_routes group
    refine ⟨lines, spelled, (Code.Within.trans ((inClass .whole ?_).cons _) inFile).hasLines spells 0⟩
    exact List.mem_append_left _ (List.mem_cons_of_mem _ (List.mem_cons_of_mem _
      (List.mem_map_of_mem listed)))
  · obtain ⟨lines, spelled, spells⟩ := exists_injection group
    have inBody :=
      (Code.Within.of_mem_flatMap listed injectionCode).before [.line "handler.next(options);"]
    have inHandler := (inBody.block
      "void onRequest(RequestOptions options, RequestInterceptorHandler handler)" "").cons
        (.line "@override")
    refine ⟨lines, spelled, (Code.Within.trans ((inClass inHandler ?_).cons _) inFile).hasLines spells 0⟩
    exact List.mem_append_right _ List.mem_cons_self

theorem method_hasLines (api : Api) (operation : Operation) (config : MobileConfig) :
    HasLines indent
      [signatureLine (clientMethod api operation).returned.code operation
        ((clientMethod api operation).positional.map Parameter.code)
        ((clientMethod api operation).named.map Parameter.code)] (methodUnit config api operation).code := by
  have inMethod := within_signatureLine (clientMethod api operation) operation rfl
  exact (inMethod.nested.trans (.of_mem_spaced List.mem_cons_self)).hasLines (Code.spells_line indent _) 0

theorem clientFile_mem (generated : Generated .mobileClient config source code)
    (served : Served .mobileClient config source code) {unit : CodeUnit}
    (mem : (id, unit) ∈ code.operations) {lines : List String} (has : HasLines indent lines unit.code) :
    ∃ file ∈ code.artifacts,
      file.path = joinPath config.mobile.apiDir (Text.snakeCase config.mobile.clientName ++ ".dart") ∧
        HasLines indent lines file.contents := by
  have file : clientFile config.mobile (code.operations.map (·.2)) ∈ code.artifacts := by
    rw [generated.artifacts]
    exact List.mem_append_left _ (List.mem_append_right _ (List.mem_cons_of_mem _ List.mem_cons_self))
  refine ⟨_, file, by rw [clientFile, sourceFile, fileStem], ?_⟩
  rw [clientFile]
  exact ((hasLines_operations served mem has).behind
    (isLines_header.append (Code.isLines_render indent _))).before _

theorem globalsUnit_mem (served : Served .mobileClient config source code)
    (reaches : Api.reachesGlobals source.api
      ((source.api.includedOperations .mobileClient).map (·.2)) = true) :
    ∃ unit ∈ code.shared, unit.path = joinPath config.mobile.apiDir "global_parameters.dart" ∧
      ∀ group ∈ Api.globalGroups source.api,
        ServesGroup RoutesSpelled InjectionSpelled unit.code group := by
  let client := config.mobile.clientName
  refine ⟨sharedUnit config.mobile "GlobalParameterInterceptor" "global_parameters.dart"
    (globalParametersCode (Api.globalGroups source.api) client (sourceFile client)) [dioPackage],
    ?_, by rw [sharedUnit], fun group listed => globals_serve listed _ _⟩
  rw [served.shared]
  simp only [Target.sharedUnits, sharedUnits, reaches]
  exact List.mem_cons_of_mem _ List.mem_cons_self

theorem sendsOnce_of_included (generated : Generated .mobileClient config source code)
    (served : Served .mobileClient config source code)
    (included : (id, operation) ∈ source.api.includedOperations .mobileClient) :
    SendsOnce config.mobile source.api code operation := by
  have emitted : (id, methodUnit config.mobile source.api operation) ∈ code.operations := by
    rw [served.operations]
    exact List.mem_map.2 ⟨_, included, rfl⟩
  refine ⟨_, _, _, ?_,
    clientFile_mem generated served emitted (method_hasLines source.api operation config.mobile)⟩
  have split : ∀ kept : Api.Parameter → Bool, operation.locals.filter kept =
      operation.parameters.filter fun parameter => kept parameter && !parameter.isGlobal :=
    fun kept => List.filter_filter
  simp only [clientMethod, split, List.map_map]
  refine sentOnce_of_positions ((List.rel_append (positionsOf_filter _ _ _)
    (positionsOf_filter _ _ _)).imp ?_) (fun position parameter at_ => ?_) fun parameter mem isGlobal => ?_
  · rintro position _ ⟨parameter, at_, rfl⟩
    exact ⟨parameter, at_, argumentSpelled_code source.api parameter⟩
  · rw [List.count_append, count_positionsOf at_, count_positionsOf at_]
    cases parameter.isGlobal <;> cases isPositional parameter <;> rfl
  · exact injects_of_unit generated included mem isGlobal (globalsUnit_mem served)

end MobileClient

/-- Users are told apart by their path, and their tenant is the same for all requests. A query marked as
global is declared only by an operation that no target takes. -/
def tenancy : OpenApi.Document where
  openapi := none
  info := none
  paths :=
    [("/users/{id}", Lowering.reading [Lowering.parameterAt "header" "X-Tenant" (some (.bool true)),
        Lowering.parameterAt "path" "id" none] []),
      ("/session", Lowering.reading [Lowering.parameterAt "cookie" "sid" none,
        Lowering.parameterAt "query" "trace" (some (.bool true))] [])]
  schemas := none
  tags := []
  source := none

end OpenApiCodegen
