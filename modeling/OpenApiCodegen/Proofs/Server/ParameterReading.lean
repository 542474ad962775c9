import OpenApiCodegen.Proofs.Lowering.TypeNames
import OpenApiCodegen.Proofs.Server.PackageFiles

namespace OpenApiCodegen

namespace Server

open Api (DataType Parameter Operation)

def heads (code : List Code) : List String :=
  code.filterMap fun
    | .block head _ _ => some head
    | _ => none

def Supports (head : String) : Prop :=
  "func " ++ head ∈ heads supportPieces.flatten

instance (head : String) : Decidable (Supports head) :=
  inferInstanceAs (Decidable (_ ∈ _))

inductive Parses : String → GoType → Prop
  | declared (name : String) (type : GoType) :
      Supports (name ++ "(raw string) (" ++ type.code ++ ", error)") → Parses name type
  | generic (type : GoType) : Supports "parseText[T any](raw string) (T, error)" →
      Parses s!"parseText[{type.code}]" type

/-- A variable of some type that is assigned to a field, or its address. -/
structure Assigned where
  variableName : String
  type : GoType
  byAddress : Bool

namespace Assigned

def expression (assigned : Assigned) : String :=
  if assigned.byAddress then "&" ++ assigned.variableName else assigned.variableName

def valueType (assigned : Assigned) : GoType :=
  if assigned.byAddress then .pointer assigned.type else assigned.type

end Assigned

/-- What each way of reading assigns. The types of variables are those that support functions declare. -/
inductive Assigns : Reading → Assigned → Prop
  | files : Supports "formFiles(r *http.Request, name string) []*multipart.FileHeader" →
      Assigns (.files true) ⟨"files", fileType true, false⟩
  | file : Supports "formFiles(r *http.Request, name string) []*multipart.FileHeader" →
      Assigns (.files false) ⟨"files[0]", fileType false, false⟩
  | texts : Assigns (.values none) ⟨"values", .slice (.named "string"), false⟩
  | parsed {parser : String} {type : GoType} : Parses parser type →
      Supports "parseAll[T any](values []string, parse func(string) (T, error)) ([]T, error)" →
      Assigns (.values (some parser)) ⟨"parsed", .slice type, false⟩
  | text (byAddress : Bool) : Supports "first(values []string) (string, bool)" →
      Assigns (.first none byAddress) ⟨"raw", .named "string", byAddress⟩
  | value {parser : String} {type : GoType} (byAddress : Bool) : Parses parser type →
      Assigns (.first (some parser) byAddress) ⟨"value", type, byAddress⟩

/-- Variables take values of their own type, and those of type `any` take all. -/
def Assignable (value target : GoType) : Prop :=
  value = target ∨ target = .named "any"

def hasNil : DataType → Bool
  | .binary => true
  | .any => true
  | .map _ => true
  | _ => false

def MissesAsNil (parameter : Parameter) : Prop :=
  mayMiss parameter = true ∧ isFile parameter = false ∧ hasNil parameter.type = true

instance (parameter : Parameter) : Decidable (MissesAsNil parameter) :=
  inferInstanceAs (Decidable (_ ∧ _))

section Types

variable {api : Api} {type : DataType}

theorem isPointer_goType (api : Api) (type : DataType) : (goType api type).isPointer = false := by
  cases type with
  | model name =>
    unfold goType modelType
    split <;> rfl
  | _ => rfl

theorem isNilable_goType (api : Api) (names : ∀ name ∈ type.models, name ≠ "any") (single : type.isArray = false) :
    (goType api type).isNilable = hasNil type := by
  cases type with
  | array => cases single
  | model name =>
    unfold goType modelType
    split
    · rfl
    · exact beq_eq_false_iff_ne.2 (names name (List.mem_singleton_self name))
  | text | integer | long | float | double | boolean | date | dateTime | binary | any | map => rfl

theorem supports_parsers : ∀ parser ∈ [("parseInt", "int"), ("parseInt64", "int64"),
    ("parseFloat32", "float32"), ("parseFloat64", "float64"), ("parseBool", "bool"),
    ("parseDate", "time.Time"), ("parseDateTime", "time.Time"), ("parseText[T any]", "T")],
    Supports (parser.1 ++ "(raw string) (" ++ (GoType.named parser.2).code ++ ", error)") := by
  decide

theorem parses_of_parser? {parser : String} (made : parser? api type = some parser) :
    Parses parser (goType api type) := by
  cases type with
  | text => cases made
  | integer =>
    cases made; exact .declared _ (.named "int") (supports_parsers ("parseInt", "int") (by simp))
  | long =>
    cases made; exact .declared _ (.named "int64") (supports_parsers ("parseInt64", "int64") (by simp))
  | float =>
    cases made; exact .declared _ (.named "float32") (supports_parsers ("parseFloat32", "float32") (by simp))
  | double =>
    cases made; exact .declared _ (.named "float64") (supports_parsers ("parseFloat64", "float64") (by simp))
  | boolean =>
    cases made; exact .declared _ (.named "bool") (supports_parsers ("parseBool", "bool") (by simp))
  | date =>
    cases made; exact .declared _ (.named "time.Time") (supports_parsers ("parseDate", "time.Time") (by simp))
  | dateTime =>
    cases made
    exact .declared _ (.named "time.Time") (supports_parsers ("parseDateTime", "time.Time") (by simp))
  | binary | any | array | map | model =>
    cases made; exact .generic _ (supports_parsers ("parseText[T any]", "T") (by simp))

theorem parser?_eq_none (none : parser? api type = none) : goType api type = .named "string" := by
  cases type <;> first | rfl | cases none

end Types

section Readings

variable {api : Api} {parameter : Parameter}

theorem reading_of_file (api : Api) (file : isFile parameter = true) :
    reading api parameter = .files parameter.isArray := by
  have form : parameter.location = .form := beq_iff_eq.1 (Bool.and_eq_true_iff.1 file).1
  simp [reading, file, form]

theorem reading_of_array (api : Api) {item : DataType} (apart : parameter.location ≠ .body)
    (value : isFile parameter = false) (many : parameter.type = .array item) :
    reading api parameter = .values (parser? api item) := by
  simp [reading, apart, value, many]

theorem reading_of_single (api : Api) (apart : parameter.location ≠ .body)
    (value : isFile parameter = false) (single : parameter.type.isArray = false) :
    reading api parameter = .first (parser? api parameter.type) (mayMiss parameter) := by
  cases many : parameter.type with
  | array => simp [many, DataType.isArray] at single
  | _ => simp [reading, apart, value, many]

theorem parameterType_of_file (file : isFile parameter = true) :
    parameterType api parameter = fileType parameter.isArray :=
  if_pos file

theorem parameterType_of_value (api : Api) (value : isFile parameter = false) :
    parameterType api parameter =
      if mayMiss parameter then (goType api parameter.type).orNil else goType api parameter.type := by
  rw [parameterType, if_neg (by simp [value])]

/-- How the value of a field and the field fit together. -/
structure Fits (api : Api) (parameter : Parameter) (assigned : Assigned) : Prop where
  reads : Assigns (reading api parameter) assigned
  byAddress : assigned.byAddress = true ↔
    ((parameterType api parameter).isPointer = true ∧ isFile parameter = false) ∨ MissesAsNil parameter
  agrees : (assigned.byAddress = true ↔
      ((parameterType api parameter).isPointer = true ∧ isFile parameter = false)) ↔ ¬MissesAsNil parameter
  typed : Assignable assigned.valueType (parameterType api parameter) ↔
    ¬MissesAsNil parameter ∨ parameter.type = .any

theorem fits_of_file (file : isFile parameter = true) : ∃ assigned, Fits api parameter assigned := by
  have bound : Supports "formFiles(r *http.Request, name string) []*multipart.FileHeader" := by
    decide
  have value : ¬MissesAsNil parameter := fun misses => Bool.noConfusion (file.symm.trans misses.2.1)
  have fits : ∀ name, Assigns (.files parameter.isArray) ⟨name, fileType parameter.isArray, false⟩ →
      Fits api parameter ⟨name, fileType parameter.isArray, false⟩ := by
    intro name reads
    refine ⟨reading_of_file api file ▸ reads, ?_, ?_, ?_⟩
    · simp [file, value]
    · simp [file, value]
    · exact iff_of_true (.inl (parameterType_of_file file).symm) (.inl value)
  cases many : parameter.isArray with
  | true => exact ⟨_, fits "files" (many ▸ .files bound)⟩
  | false => exact ⟨_, fits "files[0]" (many ▸ .file bound)⟩

theorem assigns_values (api : Api) (item : DataType) :
    ∃ name, Assigns (.values (parser? api item)) ⟨name, .slice (goType api item), false⟩ := by
  cases parser : parser? api item with
  | none => exact ⟨"values", parser?_eq_none parser ▸ .texts⟩
  | some _ => exact ⟨"parsed", .parsed (parses_of_parser? parser) (by decide)⟩

theorem assigns_first (api : Api) (type : DataType) (byAddress : Bool) :
    ∃ name, Assigns (.first (parser? api type) byAddress) ⟨name, goType api type, byAddress⟩ := by
  cases parser : parser? api type with
  | none => exact ⟨"raw", parser?_eq_none parser ▸ .text byAddress (by decide)⟩
  | some _ => exact ⟨"value", .value byAddress (parses_of_parser? parser)⟩

theorem fits_of_array {item : DataType} (apart : parameter.location ≠ .body)
    (value : isFile parameter = false) (many : parameter.type = .array item) :
    ∃ assigned, Fits api parameter assigned := by
  obtain ⟨name, assigns⟩ := assigns_values api item
  have type : parameterType api parameter = .slice (goType api item) := by
    rw [parameterType_of_value api value, many]
    exact ite_self _
  have other : ¬MissesAsNil parameter := by simp [MissesAsNil, many, hasNil]
  refine ⟨_, reading_of_array api apart value many ▸ assigns, ?_, ?_, ?_⟩
  · simp [type, GoType.isPointer, other]
  · simp [type, GoType.isPointer, other]
  · exact iff_of_true (.inl type.symm) (.inl other)

theorem goType_eq_any_iff (api : Api) {type : DataType} (bare : hasNil type = true) :
    goType api type = .named "any" ↔ type = .any := by
  cases type with
  | binary | any | map => simp [goType]
  | _ => cases bare

theorem fits_of_single (names : ∀ name ∈ parameter.type.models, name ≠ "any")
    (apart : parameter.location ≠ .body) (value : isFile parameter = false)
    (single : parameter.type.isArray = false) : ∃ assigned, Fits api parameter assigned := by
  obtain ⟨name, assigns⟩ := assigns_first api parameter.type (mayMiss parameter)
  have reads := reading_of_single api apart value single ▸ assigns
  have plain := isPointer_goType api parameter.type
  have nilable := isNilable_goType api names single
  have type := parameterType_of_value api value
  refine ⟨⟨name, goType api parameter.type, mayMiss parameter⟩, ?_⟩
  cases missing : mayMiss parameter with
  | false =>
    have present : ¬MissesAsNil parameter := by simp [MissesAsNil, missing]
    rw [missing] at reads type
    refine ⟨reads, ?_, ?_, iff_of_true (.inl type.symm) (.inl present)⟩ <;> simp [type, plain, present]
  | true =>
    rw [missing] at reads
    rw [missing, if_pos rfl] at type
    cases bare : hasNil parameter.type with
    | false =>
      have needs : ¬MissesAsNil parameter := by simp [MissesAsNil, bare]
      have pointer : parameterType api parameter = .pointer (goType api parameter.type) := by
        rw [type, GoType.orNil, nilable, bare]
        rfl
      refine ⟨reads, ?_, ?_, iff_of_true (.inl pointer.symm) (.inl needs)⟩ <;>
        simp [pointer, GoType.isPointer, value, needs]
    | true =>
      have misses : MissesAsNil parameter := ⟨missing, value, bare⟩
      have same : parameterType api parameter = goType api parameter.type := by
        rw [type, GoType.orNil, nilable, bare]
        rfl
      refine ⟨reads, by simp [misses], by simp [same, plain, misses], ?_⟩
      rw [← goType_eq_any_iff api bare, same]
      refine ⟨fun assignable => .inr ?_, fun any => .inr (any.resolve_left (not_not.2 misses))⟩
      refine assignable.resolve_left fun equal => ?_
      rw [← equal] at plain
      cases plain

theorem exists_fits (api : Api) (names : ∀ name ∈ parameter.type.models, name ≠ "any")
    (apart : parameter.location ≠ .body) : ∃ assigned, Fits api parameter assigned := by
  cases file : isFile parameter with
  | true => exact fits_of_file file
  | false =>
    cases many : parameter.type.isArray with
    | false => exact fits_of_single names apart file many
    | true =>
      cases type : parameter.type with
      | array item => exact fits_of_array apart file type
      | _ => simp [type, DataType.isArray] at many

end Readings

section Texts

variable {api : Api} {operation : Operation} {parameter : Parameter} {assigned : Assigned}

theorem within_function (function : Function) : Code.Within function.body function.code := by
  unfold Function.code
  dsimp only
  refine Code.Within.behind _ ?_
  split
  · exact ((Code.Within.whole.block _ _).cons _).cons _
  · exact Code.Within.whole.block _ _

theorem within_readingParts (path : String) (parameter : Parameter) {reading : Reading}
    (assigns : Assigns reading assigned) :
    Code.Within [assignment parameter assigned.expression] (readingParts path parameter reading).2 := by
  cases assigns with
  | files | file | texts => exact .whole
  | parsed => exact .behind _ .whole
  | text byAddress => cases byAddress <;> exact .whole
  | value byAddress => cases byAddress <;> exact .behind _ .whole

theorem within_readingCode (path : String) (assigns : Assigns (reading api parameter) assigned) :
    Code.Within [assignment parameter assigned.expression] (readingCode api path parameter) := by
  have inner := (within_readingParts path parameter assigns).nested
  exact ((inner.before _).before _).cons _

theorem within_readerCode (mem : parameter ∈ operation.parameters) :
    Code.Within (readingCode api operation.path parameter) (readerCode api operation) := by
  have read := Code.Within.of_mem_flatMap mem (readingCode api operation.path)
  refine .trans ?_ (within_function _)
  exact ((read.behind _).before _).cons _

/-- The text declares the struct of the parameters and reads them. -/
structure ReadsParameters (api : Api) (operation : Operation) (parameter : Parameter) (text : String) :
    Prop where
  declared : Code.Printed indent (parametersStruct api operation).code text
  field : parameterField api parameter ∈ (parametersStruct api operation).fields
  read : Code.Printed indent (readingCode api operation.path parameter) text

theorem readsParameters_render (validate : Bool) (mem : parameter ∈ operation.parameters) :
    ReadsParameters api operation parameter (render (operationCode api validate operation)) := by
  have some : hasParameters operation = true := by
    simpa [hasParameters] using List.ne_nil_of_mem mem
  have pieces : (parametersStruct api operation).code ∈ operationCode api validate operation ∧
      readerCode api operation ∈ operationCode api validate operation := by
    simp [operationCode, some]
  exact
    { declared := (Code.Within.of_mem_spaced pieces.1).rendered
      field := List.mem_map_of_mem mem
      read := ((within_readerCode mem).trans (Code.Within.of_mem_spaced pieces.2)).rendered }

end Texts

section Generated

variable {doc : OpenApi.Document} {config : Config} {source : Source} {code : GeneratedCode} {id : Nat}
  {operation : Operation} {parameter : Parameter}

theorem models_ne_any (lowered : Source.of doc = .ok source) (listed : operation ∈ source.api.operations)
    (mem : parameter ∈ operation.parameters) : ∀ name ∈ parameter.type.models, name ≠ "any" := by
  rintro name named rfl
  have typed := Lowering.namesCapitalized_of_operation (lower_of_source lowered) listed
  exact (typed.1 parameter mem _ named).ne_cons (c := 'a') (by decide) rfl

/-- Values get into their fields by address where fields are pointers, and in one more case: where a value
may be missing whose type has `nil` already. -/
theorem assignments_of_generate (lowered : Source.of doc = .ok source)
    (run : generate .server config source = .ok code)
    (included : (id, operation) ∈ source.api.includedOperations .server)
    (mem : parameter ∈ operation.parameters) (apart : parameter.location ≠ .body) :
    ∃ unit, (id, unit) ∈ code.operations ∧ ReadsParameters source.api operation parameter unit.code ∧
      ∃ assigned, Fits source.api parameter assigned ∧
        Code.Within [assignment parameter assigned.expression]
          (readingCode source.api operation.path parameter) := by
  obtain ⟨unit, made, validate, written⟩ := handler_of_generate run included
  have listed := List.mem_of_getElem? (Api.mem_includedOperations.1 included).1
  obtain ⟨assigned, fits⟩ := exists_fits source.api (models_ne_any lowered listed mem) apart
  exact ⟨unit, made, written ▸ readsParameters_render validate mem, assigned, fits,
    within_readingCode operation.path fits.reads⟩

end Generated

/-- Searching a catalog with one parameter, which may be left out. -/
def searching (name : String) (schema : OpenApi.Schema) : OpenApi.Document where
  openapi := none
  info := none
  paths := [("/catalog", Lowering.reading
    [{ Lowering.parameterAt "query" name none with schema := some schema }] [])]
  schemas := none
  tags := []
  source := none

def texts : OpenApi.Schema :=
  { typeNames := some (.single "object")
    additional := some (.schema { typeNames := some (.single "string") }) }

def octets : OpenApi.Schema :=
  { typeNames := some (.single "string"), format := some "binary" }

/-- The server takes an operation with a parameter that is read into its field in some way. -/
def Reads (doc : OpenApi.Document) (P : Api → Parameter → Assigned → Prop) : Prop :=
  ∃ source code, Source.of doc = .ok source ∧ generate .server {} source = .ok code ∧
    ∃ entry ∈ source.api.includedOperations .server, ∃ parameter ∈ entry.2.parameters,
      ∃ unit, (entry.1, unit) ∈ code.operations ∧
        ReadsParameters source.api entry.2 parameter unit.code ∧ ∃ assigned,
          Assigns (reading source.api parameter) assigned ∧
          Code.Within [assignment parameter assigned.expression]
            (readingCode source.api entry.2.path parameter) ∧ P source.api parameter assigned

/-- The address of a value is assigned to a field that is no pointer. -/
def Mistyped (api : Api) (parameter : Parameter) (assigned : Assigned) : Prop :=
  isFile parameter = false ∧ assigned.byAddress = true ∧ (parameterType api parameter).isPointer = false ∧
    ¬Assignable assigned.valueType (parameterType api parameter)

theorem reads_of_misses {doc : OpenApi.Document}
    (seen : (Source.of doc).toOption.map (fun source : Source => (fullySupported source.api,
      decide (∃ entry ∈ source.api.includedOperations .server, ∃ parameter ∈ entry.2.parameters,
        parameter.location ≠ .body ∧ MissesAsNil parameter ∧ parameter.type ≠ .any))) =
          some (true, true)) :
    Reads doc Mistyped := by
  obtain ⟨source, lowered, seen, runs⟩ := exists_runs_of_seen seen
  obtain ⟨⟨id, operation⟩, included, parameter, mem, apart, misses, other⟩ := of_decide_eq_true seen
  obtain ⟨code, run⟩ := runs .server {}
  obtain ⟨unit, made, validate, written⟩ := handler_of_generate run included
  have listed := List.mem_of_getElem? (Api.mem_includedOperations.1 included).1
  obtain ⟨assigned, fits⟩ := exists_fits source.api (models_ne_any lowered listed mem) apart
  have taken := fits.byAddress.2 (.inr misses)
  have differs := mt fits.agrees.1 (not_not.2 misses)
  refine ⟨source, code, lowered, run, _, included, parameter, mem, unit, made,
    written ▸ readsParameters_render validate mem, assigned, fits.reads,
    within_readingCode operation.path fits.reads, misses.2.1, taken, ?_, ?_⟩
  · exact Bool.eq_false_iff.2 fun pointer =>
      differs (iff_of_true taken ⟨pointer, misses.2.1⟩)
  · exact fun assignable => (fits.typed.1 assignable).elim (· misses) other

/-- Maps and bytes that may be missing are assigned by their address. -/
theorem addresses_mistyped :
    Reads (searching "filter" texts) Mistyped ∧ Reads (searching "picture" octets) Mistyped := by
  constructor
  · exact reads_of_misses (by rfl)
  · exact reads_of_misses (by rfl)

theorem page_assigned : Reads (searching "page" { typeNames := some (.single "integer") })
    fun api parameter assigned => assigned.byAddress = true ∧
      (parameterType api parameter).isPointer = true ∧
      Assignable assigned.valueType (parameterType api parameter) := by
  have seen : (Source.of (searching "page" { typeNames := some (.single "integer") })).toOption.map
      (fun source : Source => (fullySupported source.api,
        decide (∃ entry ∈ source.api.includedOperations .server, ∃ parameter ∈ entry.2.parameters,
          parameter.location ≠ .body ∧ ¬MissesAsNil parameter ∧ isFile parameter = false ∧
            (parameterType source.api parameter).isPointer = true))) = some (true, true) := by
    rfl
  obtain ⟨source, lowered, seen, runs⟩ := exists_runs_of_seen seen
  obtain ⟨entry, included, parameter, mem, apart, fine, value, pointer⟩ := of_decide_eq_true seen
  obtain ⟨code, run⟩ := runs .server {}
  obtain ⟨unit, made, reads, assigned, fits, within⟩ :=
    assignments_of_generate lowered run included mem apart
  exact ⟨source, code, lowered, run, entry, included, parameter, mem, unit, made, reads, assigned, fits.reads,
    within, fits.byAddress.2 (.inl ⟨pointer, value⟩), pointer, fits.typed.2 (.inl fine)⟩

end Server

end OpenApiCodegen
