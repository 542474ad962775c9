import OpenApiCodegen.Api.Binding
import OpenApiCodegen.Server.Models

namespace OpenApiCodegen.Server

open Api (DataType Parameter Operation Response ReturnType StatusClass)

def isFile (parameter : Parameter) : Bool :=
  parameter.location == .form && parameter.type.containsBinary

def mayMiss (parameter : Parameter) : Bool :=
  !(parameter.required && !parameter.nullable)

def fileType (many : Bool) : GoType :=
  let header := (GoType.named "multipart.FileHeader").orNil
  if many then .slice header else header

def parameterType (api : Api) (parameter : Parameter) : GoType :=
  if isFile parameter then fileType parameter.isArray
  else
    let type := goType api parameter.type
    if mayMiss parameter then type.orNil else type

def parameterField (api : Api) (parameter : Parameter) : Field :=
  { name := fieldName parameter.name
    type := parameterType api parameter
    tag := none
    doc := parameter.description
    deprecated := false }

def goName (operation : Operation) : String :=
  Text.pascalCase operation.id

def parametersName (operation : Operation) : String :=
  goName operation ++ "Params"

def parametersStruct (api : Api) (operation : Operation) : Record :=
  { name := parametersName operation
    doc := some s!"{parametersName operation} holds the decoded parameters of {operation.id}."
    deprecated := false
    parameters := []
    fields := operation.parameters.map (parameterField api) }

def parser? (api : Api) : DataType → Option String
  | .text => none
  | .integer => some "parseInt"
  | .long => some "parseInt64"
  | .float => some "parseFloat32"
  | .double => some "parseFloat64"
  | .boolean => some "parseBool"
  | .date => some "parseDate"
  | .dateTime => some "parseDateTime"
  | type => some s!"parseText[{(goType api type).code}]"

/-- How a parameter is read. Texts and files come from a list of all that were sent. -/
inductive Reading where
  | body (required : Bool)
  | files (many : Bool)
  | values (parser : Option String)
  | first (parser : Option String) (byAddress : Bool)

def reading (api : Api) (parameter : Parameter) : Reading :=
  if parameter.location == .body then .body parameter.required
  else if isFile parameter then .files parameter.isArray
  else
    match parameter.type with
    | .array item => .values (parser? api item)
    | type => .first (parser? api type) (mayMiss parameter)

def source (path : String) (parameter : Parameter) : String :=
  let name := quoted parameter.wireName
  match parameter.binding path, parameter.location with
  | .pathSegment position, _ => s!"pathSegment(r, {position.segment})"
  | .formField _, _ =>
    if isFile parameter then s!"formFiles(r, {name})" else s!"formValues(r, {name})"
  | _, .header => s!"r.Header.Values({name})"
  | _, _ => s!"r.URL.Query()[{name}]"

def refusal (parameter : Parameter) (error : String) : Code :=
  .line ("return params, &ParamError\x7bName: " ++ quoted parameter.wireName ++ ", Err: " ++
    error ++ "\x7d")

def assignment (parameter : Parameter) (value : String) : Code :=
  .line s!"params.{fieldName parameter.name} = {value}"

def parseCode (parameter : Parameter) (name call : String) : List Code :=
  [.line s!"{name}, err := {call}", .block "if err != nil" [refusal parameter "err"]]

def readingParts (path : String) (parameter : Parameter) : Reading → String × List Code
  | .body required =>
    (s!"err := decodeJSON(r, &params.{fieldName parameter.name}, {required}); err != nil",
      [refusal parameter "err"])
  | .files many =>
    (s!"files := {source path parameter}; len(files) > 0",
      [assignment parameter (if many then "files" else "files[0]")])
  | .values none =>
    (s!"values := {source path parameter}; len(values) > 0", [assignment parameter "values"])
  | .values (some parser) =>
    (s!"values := {source path parameter}; len(values) > 0",
      parseCode parameter "parsed" s!"parseAll(values, {parser})" ++
        [assignment parameter "parsed"])
  | .first none byAddress =>
    (s!"raw, ok := first({source path parameter}); ok",
      [assignment parameter (if byAddress then "&raw" else "raw")])
  | .first (some parser) byAddress =>
    (s!"raw, ok := first({source path parameter}); ok",
      parseCode parameter "value" s!"{parser}(raw)" ++
        [assignment parameter (if byAddress then "&value" else "value")])

/-- A required parameter that was not sent is refused; the body says so itself. -/
def otherwiseCode (parameter : Parameter) : List Code :=
  if parameter.required && parameter.location != .body then
    [.line "\x7d else \x7b", .nested [refusal parameter "errMissing"]]
  else []

def readingCode (api : Api) (path : String) (parameter : Parameter) : List Code :=
  let (condition, body) := readingParts path parameter (reading api parameter)
  .line ("if " ++ condition ++ " \x7b") :: .nested body ::
    otherwiseCode parameter ++ [.line "\x7d"]

def readerCode (api : Api) (operation : Operation) : List Code :=
  let type := parametersName operation
  let form :=
    if operation.parameters.any (·.location == .form) then
      [Code.block "if err := parseForm(r); err != nil" [.line "return params, err"]]
    else []
  Function.code
    { doc := none
      receiver := none
      name := "read" ++ type
      parameters := [("r", "*http.Request")]
      results := [type, "error"]
      body := .line s!"var params {type}" :: form ++
        operation.parameters.flatMap (readingCode api operation.path) ++
        [.line "return params, nil"] }

inductive StatusTest where
  | exactly (code : Nat)
  | hundredFrom (code : Nat)
  deriving DecidableEq

def StatusTest.holds : StatusTest → Nat → Bool
  | exactly code, status => status == code
  | hundredFrom code, status => code ≤ status && status < code + 100

def StatusTest.code : StatusTest → String
  | exactly code => s!"status == {code}"
  | hundredFrom code => s!"status >= {code} && status < {code + 100}"

inductive Writer where
  | responder (name : String)
  | statusOnly
  | standard
  deriving DecidableEq

def Writer.code : Writer → String
  | responder name => s!"writeJSON(w, status, {name}(err))"
  | statusOnly => "w.WriteHeader(status)"
  | standard => "writeError(w, status, err)"

structure ErrorSwitch where
  arms : List (StatusTest × Writer)
  fallback : Writer

def ErrorSwitch.writer (errors : ErrorSwitch) (status : Nat) : Writer :=
  match errors.arms.find? fun arm => arm.1.holds status with
  | some (_, writer) => writer
  | none => errors.fallback

def responderName (response : Response) : String :=
  if response.statusClass = .other then "onDefault"
  else "on" ++ Text.asciiUpper response.status

def writerFor (response : Response) : Writer :=
  if response.body.isSome then .responder (responderName response) else .statusOnly

/-- The statuses that a response is for; none for all that are left. -/
def statusTest? (response : Response) : Option StatusTest :=
  if response.statusClass = .other then none
  else
    response.code?.map fun code =>
      if response.isWildcard then .hundredFrom code else .exactly code

def errorResponses (operation : Operation) : List Response :=
  let errors := operation.responses.filter fun response => response.statusClass != .success
  errors.filter (!·.isWildcard) ++ errors.filter (·.isWildcard)

def errorSwitch (operation : Operation) : ErrorSwitch :=
  let errors := errorResponses operation
  let others := errors.filter fun response => (statusTest? response).isNone
  { arms := errors.filterMap fun response =>
      (statusTest? response).map fun test => (test, writerFor response)
    fallback := (others.getLast?.map writerFor).getD .standard }

def responders (api : Api) (operation : Operation) : List (String × String) :=
  (errorResponses operation).filterMap fun response =>
    response.body.map fun body =>
      (responderName response, "func(err error) " ++ (goType api body).code)

def ErrorSwitch.code (errors : ErrorSwitch) : List Code :=
  let arms := errors.arms.flatMap fun (test, writer) =>
    [Code.line s!"case {test.code}:", .nested [.line writer.code]]
  .line "switch status := statusOf(err); \x7b" ::
    arms ++ [.line "default:", .nested [.line errors.fallback.code], .line "\x7d"]

def returnType? (api : Api) : ReturnType → Option GoType
  | .nothing => none
  | .data type => some (goType api type)
  | .envelope applied =>
    some (.applied applied.envelope (applied.arguments.map (goType api)))

def isBytes : ReturnType → Bool
  | .data .binary => true
  | _ => false

def successStatus (api : Api) (operation : Operation) : Nat :=
  let declared := (operation.responses.find? (·.statusClass = .success)).bind (·.code?)
  declared.getD (if (returnType? api (Api.returnType api operation)).isNone then 204 else 200)

def hasParameters (operation : Operation) : Bool :=
  !operation.parameters.isEmpty

def handleType (api : Api) (operation : Operation) : String :=
  let context := "ctx context.Context"
  let arguments :=
    if hasParameters operation then context ++ ", params " ++ parametersName operation
    else context
  match returnType? api (Api.returnType api operation) with
  | some type => s!"func({arguments}) ({type.code}, error)"
  | none => s!"func({arguments}) error"

def guardCode : List Code :=
  [.block "if !validateRequest(w, r)" [.line "return"]]

def readCode (operation : Operation) : List Code :=
  if hasParameters operation then
    [.line s!"params, err := read{parametersName operation}(r)",
      .block "if err != nil" [.line "writeError(w, http.StatusBadRequest, err)", .line "return"]]
  else []

def answerCode (api : Api) (operation : Operation) : List Code :=
  let returned := Api.returnType api operation
  let call :=
    if hasParameters operation then "handle(r.Context(), params)" else "handle(r.Context())"
  let failed := (errorSwitch operation).code ++ [.line "return"]
  let status := successStatus api operation
  if (returnType? api returned).isSome then
    let write := if isBytes returned then "writeBytes" else "writeJSON"
    [.line s!"result, err := {call}", .block "if err != nil" failed,
      .line s!"{write}(w, {status}, result)"]
  else
    [.block s!"if err := {call}; err != nil" failed, .line s!"w.WriteHeader({status})"]

def handlerDoc (operation : Operation) : String :=
  let paragraphs := operation.summary.toList ++ operation.description.toList ++
    if operation.deprecated then [s!"Deprecated: {operation.id} is deprecated."] else []
  s!"{goName operation}Ctrl serves {operation.method.verb} {operation.path}." ++
    String.join (paragraphs.map fun text => "\n\n" ++ text)

def handlerCode (api : Api) (validate : Bool) (operation : Operation) : List Code :=
  let body := (if validate then guardCode else []) ++ readCode operation ++ answerCode api operation
  Function.code
    { doc := some (handlerDoc operation)
      receiver := none
      name := goName operation ++ "Ctrl"
      parameters := ("handle", handleType api operation) :: responders api operation
      results := ["http.HandlerFunc"]
      body := [.block "return func(w http.ResponseWriter, r *http.Request)" body] }

/-- The code for an operation; `validate` lets the handler check requests first. -/
def operationCode (api : Api) (validate : Bool) (operation : Operation) : List (List Code) :=
  (if hasParameters operation then
    [(parametersStruct api operation).code, readerCode api operation] else []) ++
    [handlerCode api validate operation]

def operationImports (api : Api) (operation : Operation) : NameSet :=
  (NameSet.ofList (Api.returnType api operation).models).insertAll
    (operation.parameters.flatMap fun parameter => parameter.type.models)

def operationPackages (api : Api) (operation : Operation) : NameSet :=
  let plain := (operation.parameters.filter (!isFile ·)).map (·.type)
  let returned := (Api.returnType api operation).types
  let errors := (errorResponses operation).filterMap (·.body)
  .ofList
    (["context", "net/http"] ++
      (if operation.parameters.any isFile then ["mime/multipart"] else []) ++
      timeFor (plain ++ returned ++ errors))

end OpenApiCodegen.Server
