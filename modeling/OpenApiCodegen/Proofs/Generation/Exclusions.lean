import Mathlib.Data.List.Range
import OpenApiCodegen.Proofs.Generation.Units
import OpenApiCodegen.Proofs.List.Search
import OpenApiCodegen.Proofs.Output.CodeText
import OpenApiCodegen.Proofs.Text.Cuts
import OpenApiCodegen.Proofs.Text.Literals

namespace OpenApiCodegen

open Api (DataType Operation ReturnType)
open Server (RouteRow)
open Output (joinPath)
open Text (doubleQuotes dropStart? cutAt)

namespace Api

def DataType.parts : DataType → List DataType
  | array item => array item :: item.parts
  | map value => map value :: value.parts
  | type => [type]

def DataType.HasMap (type : DataType) : Prop :=
  ∃ value, DataType.map value ∈ type.parts

theorem DataType.containsMap_iff (type : DataType) : type.containsMap = true ↔ type.HasMap := by
  unfold HasMap
  induction type with
  | array item ih => simpa [containsMap, parts] using ih
  | map value ih => simp [containsMap, parts]
  | _ => simp [containsMap, parts]

def ReturnType.NeedsOtherTarget (returned : ReturnType) : Prop :=
  returned = .data .binary ∨ ∃ type ∈ returned.types, type.HasMap

end Api

namespace Target

variable {target : Target} {api : Api} {operation : Operation} {fault : BindingFault}

theorem fault?_retarget (target other : Target) (operation : Operation) :
    other.fault? operation =
      (target.fault? operation).map fun fault => { fault with target := other } := by
  unfold fault?
  rw [List.map_findSome?]
  congr 1
  funext parameter
  -- the two targets see the same problem, since they support the same places
  have problem : other.problem? operation.path parameter = target.problem? operation.path parameter :=
    rfl
  rw [Function.comp_apply, Option.map_map, problem]
  rfl

theorem exclusion?_eq_binding :
    target.exclusion? api operation = some (.binding fault) ↔ target.fault? operation = some fault := by
  unfold exclusion?
  cases target.fault? operation with
  | some found => simp
  | none => simp [Option.map_eq_some_iff]

theorem exclusion?_isSome :
    (target.exclusion? api operation).isSome = true ↔ (target.fault? operation).isSome = true ∨
      ∃ rule ∈ target.exclusions, rule.applies (Api.returnType api operation) = true := by
  unfold exclusion?
  cases target.fault? operation with
  | some found => simp
  | none => simp [List.find?_isSome]

theorem exclusion?_isSome_of_lenient (lenient : target.exclusions = []) (other : Target) :
    (target.exclusion? api operation).isSome = (other.fault? operation).isSome := by
  rw [Bool.eq_iff_iff, exclusion?_isSome, lenient, fault?_retarget other target]
  simp

theorem exclusion?_mobileClient :
    (mobileClient.exclusion? api operation).isSome = true ↔
      (server.exclusion? api operation).isSome = true ∨
        (Api.returnType api operation).NeedsOtherTarget := by
  have binary : ∀ returned : ReturnType,
      ExclusionRule.binaryResponse.applies returned = true ↔ returned = .data .binary := by
    intro returned
    unfold ExclusionRule.applies
    split <;> simp_all
  have maps : ∀ returned : ReturnType, ExclusionRule.mapResponse.applies returned = true ↔
      ∃ type ∈ returned.types, type.HasMap := by
    intro returned
    simp [ExclusionRule.applies, DataType.containsMap_iff]
  rw [exclusion?_isSome, exclusion?_isSome_of_lenient rfl mobileClient]
  simp [exclusions, binary, maps, ReturnType.NeedsOtherTarget]

end Target

namespace Api

variable {api : Api} {target : Target} {exclusion : Exclusion}

theorem mem_exclusions : exclusion ∈ api.exclusions target ↔
    ∃ operation, api.operations[exclusion.id]? = some operation ∧ exclusion.operation = operation.id ∧
      target.exclusion? api operation = some exclusion.reason := by
  obtain ⟨id, name, reason⟩ := exclusion
  unfold exclusions numberedOperations
  simp only [List.mem_filterMap, Prod.exists, mem_numbered, Option.map_eq_some_iff, Exclusion.mk.injEq]
  constructor
  · rintro ⟨_, operation, at_, _, excluded, rfl, rfl, rfl⟩
    exact ⟨operation, at_, rfl, excluded⟩
  · rintro ⟨operation, at_, rfl, excluded⟩
    exact ⟨id, operation, at_, reason, excluded, rfl, rfl, rfl⟩

theorem exclusions_ids (api : Api) (target : Target) : (api.exclusions target).map (·.id) =
    (api.numberedOperations.filter fun entry => (target.exclusion? api entry.2).isSome).map (·.1) := by
  unfold exclusions
  induction api.numberedOperations with
  | nil => rfl
  | cons entry rest ih =>
    cases excluded : target.exclusion? api entry.2 <;> simp [excluded, ih]

theorem numberedOperations_ids (api : Api) :
    api.numberedOperations.map (·.1) = List.range api.operations.length := by
  simp [numberedOperations, List.map_map, Function.comp_def, List.zipIdx_map_snd, List.range_eq_range']

theorem included_excluded_perm (api : Api) (target : Target) :
    ((api.includedOperations target).map (·.1) ++ (api.exclusions target).map (·.id)).Perm
      (List.range api.operations.length) := by
  have split := List.filter_append_perm (fun entry => (target.exclusion? api entry.2).isNone)
    api.numberedOperations
  have ids := split.map (·.1)
  rw [List.map_append, numberedOperations_ids] at ids
  rw [exclusions_ids, includedOperations]
  simpa using ids

theorem included_ids_ascend (api : Api) (target : Target) :
    ((api.includedOperations target).map (·.1)).Pairwise (· < ·) := by
  have all : (api.numberedOperations.map (·.1)).Pairwise (· < ·) := by
    rw [numberedOperations_ids]
    exact List.pairwise_lt_range
  exact all.sublist (List.filter_sublist.map _)

end Api

namespace Server

def readRow? (line : String) : Option RouteRow := do
  let rest ← dropStart? "\x7bName: ".toList line.toList
  let (name, rest) ← doubleQuotes.read? rest
  let rest ← dropStart? ", Method: ".toList rest
  let (constant, rest) ← cutAt ',' rest
  let rest ← dropStart? " Pattern: ".toList rest
  let (path, rest) ← doubleQuotes.read? rest
  let method ← OpenApi.Method.all.find? fun method => methodConstant method = String.ofList constant
  if rest = "\x7d,".toList then some ⟨name, method, path⟩ else none

def readRows? (rows : List Code) : Option (List RouteRow) :=
  rows.mapM fun
    | .line line => readRow? line
    | _ => none

theorem readRow?_code {row : RouteRow} {line : String} (written : row.code = .line line) :
    readRow? line = some row := by
  obtain ⟨name, method, path⟩ := row
  cases written
  have plain : ',' ∉ (methodConstant method).toList := by cases method <;> decide
  have known : (OpenApi.Method.all.find? fun other => methodConstant other = methodConstant method) =
      some method := by
    cases method <;> decide
  have comma : ", Pattern: ".toList = ',' :: " Pattern: ".toList := by decide
  simp only [readRow?, quoted_eq, String.toList_append, List.append_assoc, Text.dropStart?_append,
    Option.bind_eq_bind, Option.bind_some, Text.Quoting.read?_literal, comma, List.cons_append,
    Text.cutAt_append plain, String.ofList_toList, known, if_pos]

theorem readRows?_code (rows : List RouteRow) :
    readRows? (rows.map RouteRow.code) = some rows := by
  refine mapM_eq_some_iff.2 (List.forall₂_map_left_iff.2 (List.forall₂_same.2 fun row _ => ?_))
  exact readRow?_code rfl

/-- The table of routes with its rows, as it stands in the file. -/
def tableCode (rows : List Code) : List Code :=
  [.line "var Routes = []Route\x7b", .nested rows, .line "\x7d"]

variable {source : Source} {config : Config} {code : GeneratedCode}

theorem routes_printed (generated : Generated .server config source code)
    (served : Served .server config source code) :
    ∃ file ∈ code.artifacts, file.path = joinPath config.server.sourceDir "routes.go" ∧
      Code.Printed indent (tableCode ((((source.api.includedOperations .server).map (·.2)).map
        routeRow).map RouteRow.code)) file.contents := by
  let rows := ((source.api.includedOperations .server).map (·.2)).map routeRow
  let table := sharedUnit config.server "Routes" "routes.go"
    (routeTable config.server.packageName rows) ["net/http"]
  have mem : table ∈ code.shared := by
    rw [served.shared]
    exact List.mem_append_left _ (List.mem_cons_of_mem _ List.mem_cons_self)
  have printed : Code.Printed indent (tableCode (rows.map RouteRow.code)) table.code := by
    have inPiece : Code.Within (tableCode (rows.map RouteRow.code))
        (.line "// Routes lists every generated operation." ::
          tableCode (rows.map RouteRow.code)) :=
      Code.Within.whole.cons _
    refine (inPiece.trans (.of_mem_spaced ?_)).rendered
    simp [tableCode]
  obtain ⟨file, listed, path, head, -, contents⟩ := generated.sharedFile_mem mem
  refine ⟨file, listed, ?_, contents ▸ printed.behind head⟩
  rw [path]
  simp only [table, sharedUnit]

end Server

section Agreement

variable {config : Config} {source : Source} {codes : Target → GeneratedCode}

/-- How the operations are shared out. Every operation is either included or left out, once; what one
target cannot bind none can, for the same reason, and only the mobile client leaves out more. -/
structure ExclusionsAgree (config : Config) (api : Api) (codes : Target → GeneratedCode) : Prop where
  partition : ∀ target, ((codes target).operations.map (·.1) ++ (codes target).excluded.map (·.id)).Perm
    (List.range api.operations.length)
  named : ∀ target, ∀ exclusion ∈ (codes target).excluded, ∃ operation,
    api.operations[exclusion.id]? = some operation ∧ exclusion.operation = operation.id
  alike : (codes .server).excluded.map (·.id) = (codes .webClient).excluded.map (·.id)
  mobile : ∀ id operation, api.operations[id]? = some operation →
    ((codes .mobileClient).excludes id = true ↔ (codes .server).excludes id = true ∨
      (Api.returnType api operation).NeedsOtherTarget)
  unbound : ∀ target other, ∀ exclusion ∈ (codes target).excluded, ∀ fault,
    exclusion.reason = .binding fault →
      { exclusion with reason := .binding { fault with target := other } } ∈ (codes other).excluded
  ordered : ((codes .server).operations.map (·.1)).Pairwise (· < ·)
  routes : ∃ file ∈ (codes .server).artifacts, ∃ rows,
    file.path = joinPath config.server.sourceDir "routes.go" ∧
      Code.Printed Server.indent (Server.tableCode rows) file.contents ∧
        ∃ included, List.Forall₂ (fun id operation => api.operations[id]? = some operation)
            ((codes .server).operations.map (·.1)) included ∧
          Server.readRows? rows =
            some (included.map fun operation => ⟨operation.id, operation.method, operation.path⟩)

theorem excludes_iff {target : Target} {code : GeneratedCode} {id : Nat} {operation : Operation}
    (served : Served target config source code)
    (at_ : source.api.operations[id]? = some operation) :
    code.excludes id = true ↔ (target.exclusion? source.api operation).isSome = true := by
  unfold GeneratedCode.excludes
  rw [served.excluded, List.any_eq_true, Option.isSome_iff_exists]
  constructor
  · rintro ⟨exclusion, mem, same⟩
    obtain ⟨found, here, -, excluded⟩ := Api.mem_exclusions.1 mem
    rw [of_decide_eq_true same, at_, Option.some_inj] at here
    exact ⟨exclusion.reason, here ▸ excluded⟩
  · rintro ⟨reason, excluded⟩
    refine ⟨⟨id, operation.id, reason⟩, Api.mem_exclusions.2 ⟨operation, at_, rfl, excluded⟩, ?_⟩
    exact decide_eq_true rfl

theorem exclusionsAgree_of_supported (config : Config)
    (supported : ∀ model ∈ source.api.models, unsupported? model = none) :
    ∃ codes, (∀ target, generate target config source = .ok (codes target)) ∧
      ExclusionsAgree config source.api codes := by
  choose codes runs using fun target => generate_of_supported target config supported
  have served := fun target => served_of_generate (runs target)
  have ids : ∀ target, (codes target).operations.map (·.1) =
      (source.api.includedOperations target).map (·.1) := by
    intro target
    simp [(served target).operations]
  refine ⟨codes, runs, ?_, ?_, ?_, ?_, ?_, ?_, ?_⟩
  · intro target
    rw [ids, (served target).excluded]
    exact source.api.included_excluded_perm target
  · intro target exclusion mem
    rw [(served target).excluded] at mem
    obtain ⟨operation, at_, named, -⟩ := Api.mem_exclusions.1 mem
    exact ⟨operation, at_, named⟩
  · rw [(served .server).excluded, (served .webClient).excluded, Api.exclusions_ids,
      Api.exclusions_ids]
    congr 2
    funext entry
    rw [Target.exclusion?_isSome_of_lenient rfl .webClient,
      Target.exclusion?_isSome_of_lenient rfl .webClient]
  · intro id operation at_
    rw [excludes_iff (served .mobileClient) at_, excludes_iff (served .server) at_]
    exact Target.exclusion?_mobileClient
  · intro target other exclusion mem fault reason
    rw [(served target).excluded] at mem
    rw [(served other).excluded]
    obtain ⟨operation, at_, named, excluded⟩ := Api.mem_exclusions.1 mem
    rw [reason, Target.exclusion?_eq_binding] at excluded
    refine Api.mem_exclusions.2 ⟨operation, at_, named, Target.exclusion?_eq_binding.2 ?_⟩
    rw [Target.fault?_retarget target other, excluded, Option.map_some]
  · rw [ids]
    exact source.api.included_ids_ascend .server
  · obtain ⟨file, mem, path, printed⟩ :=
      Server.routes_printed (generated_of_generate (runs .server)) (served .server)
    refine ⟨file, mem, _, path, printed, (source.api.includedOperations .server).map (·.2), ?_, ?_⟩
    · rw [ids, List.forall₂_map_left_iff, List.forall₂_map_right_iff, List.forall₂_same]
      exact fun entry inside => (Api.mem_includedOperations.1 inside).1
    · rw [Server.readRows?_code]
      rfl

end Agreement

def success (schema : OpenApi.Schema) : List (String × OpenApi.Response) :=
  [("200", { description := none, content := [("application/json", some schema)] })]

/-- One operation for each reason to leave it out, and one that every target takes. -/
def archive : OpenApi.Document where
  openapi := none
  info := none
  paths :=
    [("/files/{id}", Lowering.reading [Lowering.parameterAt "path" "id" none]
        (success { typeNames := some (.single "string"), format := some "binary" })),
      ("/labels", Lowering.reading [] (success { additional := some (.allowed true) })),
      ("/session", Lowering.reading [Lowering.parameterAt "cookie" "sid" none] []),
      ("/users", Lowering.reading [Lowering.parameterAt "path" "userId" none] []),
      ("/status", Lowering.reading [] [])]
  schemas := none
  tags := []
  source := none

theorem archive_exclusionsAgree :
    ∃ source codes, Source.of archive = .ok source ∧
      (∀ model ∈ source.api.models, unsupported? model = none) ∧
        (∀ target, generate target {} source = .ok (codes target)) ∧
          ExclusionsAgree {} source.api codes ∧
            (codes .server).excluded.map (·.operation) = ["getSession", "getUsers"] ∧
              (codes .mobileClient).excluded.map (·.operation) =
                ["getFiles", "getLabels", "getSession", "getUsers"] := by
  have seen : (Source.of archive).toOption.map (fun source : Source => (fullySupported source.api,
      [Target.server, .mobileClient].map fun target =>
        (source.api.exclusions target).map (·.operation))) =
      some (true, [["getSession", "getUsers"], ["getFiles", "getLabels", "getSession", "getUsers"]]) := by
    rfl
  obtain ⟨source, lowered, seen⟩ := Lowering.exists_of_toOption_map seen
  obtain ⟨supported, names⟩ := Prod.mk.inj seen
  simp only [List.map_cons, List.map_nil, List.cons.injEq, and_true] at names
  have supported := fullySupported_iff.1 supported
  obtain ⟨codes, runs, agree⟩ := exclusionsAgree_of_supported {} supported
  refine ⟨source, codes, lowered, supported, runs, agree, ?_, ?_⟩
  · rw [(served_of_generate (runs .server)).excluded]
    exact names.1
  · rw [(served_of_generate (runs .mobileClient)).excluded]
    exact names.2

end OpenApiCodegen
