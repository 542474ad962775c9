import OpenApiCodegen.Api.GlobalGroup
import OpenApiCodegen.Json.Value
import OpenApiCodegen.Server.Handlers
import OpenApiCodegen.Text.NameSet

namespace OpenApiCodegen.Server

open Api (Operation)
open OpenApi (Method)

def packageClause (package : String) : List Code :=
  [.line s!"package {package}"]

def packageLine (package : String) : Code :=
  .line (Text.inDoubleQuotes package)

def importBlock (lines : List Code) : List Code :=
  [.line "import (", .nested lines, .line ")"]

def decodeErrorCode : List (List Code) :=
  [[.line "// DecodeError reports a payload that cannot be decoded into a generated model.",
      .block "type DecodeError struct"
        [.line "Kind  string", .line "Model string", .line "Value string"]],
    [.block "func (e *DecodeError) Error() string"
      [.line "return fmt.Sprintf(\"%s: %s has no variant for %q\", e.Kind, e.Model, e.Value)"]],
    [.block "func newUnrecognizedVariant(model, value string) *DecodeError"
      [.line ("return &DecodeError\x7bKind: \"UnrecognizedVariant\", " ++
        "Model: model, Value: value\x7d")]]]

def statusErrorCode : List (List Code) :=
  [[.line "// StatusError attaches an HTTP status to an error returned by a handler.",
      .block "type StatusError struct" [.line "Status int", .line "Err    error"]],
    [.block "func (e *StatusError) Error() string" [.line "return e.Err.Error()"]],
    [.block "func (e *StatusError) Unwrap() error" [.line "return e.Err"]]]

def parameterErrorCode : List (List Code) :=
  [[.line "// ParamError reports a parameter that is missing or malformed.",
      .block "type ParamError struct" [.line "Name string", .line "Err  error"]],
    [.block "func (e *ParamError) Error() string"
      [.line "return fmt.Sprintf(\"parameter %s: %v\", e.Name, e.Err)"]],
    [.block "func (e *ParamError) Unwrap() error" [.line "return e.Err"]],
    [.line "var errMissing = errors.New(\"required value is missing\")"]]

def errorTypes : List (List Code) :=
  decodeErrorCode ++ statusErrorCode ++ parameterErrorCode

def statusFunction : List Code :=
  [.block "func statusOf(err error) int"
    [.line "var status *StatusError",
      .block "if errors.As(err, &status)" [.line "return status.Status"],
      .line "return http.StatusInternalServerError"]]

def writeJsonFunction : List Code :=
  [.block "func writeJSON(w http.ResponseWriter, status int, body any)"
    [.line "w.Header().Set(\"Content-Type\", \"application/json\")",
      .line "w.WriteHeader(status)",
      .line "_ = json.NewEncoder(w).Encode(body)"]]

def writeBytesFunction : List Code :=
  [.block "func writeBytes(w http.ResponseWriter, status int, body []byte)"
    [.line "w.Header().Set(\"Content-Type\", \"application/octet-stream\")",
      .line "w.WriteHeader(status)",
      .line "_, _ = w.Write(body)"]]

def writeErrorFunction : List Code :=
  [.block "func writeError(w http.ResponseWriter, status int, err error)"
    [.line "writeJSON(w, status, map[string]string\x7b\"error\": err.Error()\x7d)"]]

def responseWriters : List (List Code) :=
  [statusFunction, writeJsonFunction, writeBytesFunction, writeErrorFunction]

def decodeBodyFunction : List Code :=
  [.line "// decodeJSON reads the request body into target. An empty body is",
    .line "// errMissing when the body is required.",
    .block "func decodeJSON(r *http.Request, target any, required bool) error"
      [.line "err := errMissing",
        .block "if r.Body != nil" [.line "err = json.NewDecoder(r.Body).Decode(target)"],
        .block "if errors.Is(err, io.EOF) || errors.Is(err, errMissing)"
          [.block "if required" [.line "return errMissing"], .line "return nil"],
        .line "return err"]]

def pathSegmentFunction : List Code :=
  [.line "// pathSegment returns the segment at index of the request path, counting",
    .line "// the empty segment before the leading slash.",
    .block "func pathSegment(r *http.Request, index int) []string"
      [.line "segments := strings.Split(r.URL.Path, \"/\")",
        .block "if index < len(segments) && segments[index] != \"\""
          [.line "return []string\x7bsegments[index]\x7d"],
        .line "return nil"]]

def firstFunction : List Code :=
  [.block "func first(values []string) (string, bool)"
    [.block "if len(values) == 0" [.line "return \"\", false"],
      .line "return values[0], true"]]

def formReaders : List (List Code) :=
  [[.line "const maxFormMemory = 32 << 20"],
    [.block "func parseForm(r *http.Request) error"
      [.line "err := r.ParseMultipartForm(maxFormMemory)",
        .block "if errors.Is(err, http.ErrNotMultipart)" [.line "return r.ParseForm()"],
        .line "return err"]],
    [.block "func formValues(r *http.Request, name string) []string"
      [.block "if r.MultipartForm != nil" [.line "return r.MultipartForm.Value[name]"],
        .line "return r.PostForm[name]"]],
    [.block "func formFiles(r *http.Request, name string) []*multipart.FileHeader"
      [.block "if r.MultipartForm == nil" [.line "return nil"],
        .line "return r.MultipartForm.File[name]"]]]

def requestReaders : List (List Code) :=
  decodeBodyFunction :: pathSegmentFunction :: firstFunction :: formReaders

def conversion (head expression : String) : List Code :=
  [.block ("func " ++ head) [.line ("return " ++ expression)]]

def valueParsers : List (List Code) :=
  [conversion "parseInt(raw string) (int, error)" "strconv.Atoi(raw)",
    conversion "parseInt64(raw string) (int64, error)" "strconv.ParseInt(raw, 10, 64)",
    [.block "func parseFloat32(raw string) (float32, error)"
      [.line "value, err := strconv.ParseFloat(raw, 32)", .line "return float32(value), err"]],
    conversion "parseFloat64(raw string) (float64, error)" "strconv.ParseFloat(raw, 64)",
    conversion "parseBool(raw string) (bool, error)" "strconv.ParseBool(raw)",
    conversion "parseDate(raw string) (time.Time, error)" "time.Parse(time.DateOnly, raw)",
    conversion "parseDateTime(raw string) (time.Time, error)" "time.Parse(time.RFC3339, raw)"]

def parseTextFunction : List Code :=
  [.line "// parseText decodes a JSON value; bare words are retried as JSON strings.",
    .block "func parseText[T any](raw string) (T, error)"
      [.line "var value T",
        .block "if err := json.Unmarshal([]byte(raw), &value); err == nil"
          [.line "return value, nil"],
        .line "err := json.Unmarshal([]byte(strconv.Quote(raw)), &value)",
        .line "return value, err"]]

def parseAllFunction : List Code :=
  [.block "func parseAll[T any](values []string, parse func(string) (T, error)) ([]T, error)"
    [.line "parsed := make([]T, 0, len(values))",
      .block "for _, raw := range values"
        [.line "value, err := parse(raw)",
          .block "if err != nil" [.line "return nil, err"],
          .line "parsed = append(parsed, value)"],
      .line "return parsed, nil"]]

def textParsers : List (List Code) :=
  valueParsers ++ [parseTextFunction, parseAllFunction]

def handlerSupport (package : String) : String :=
  let packages :=
    ["encoding/json", "errors", "fmt", "io", "mime/multipart", "net/http", "strconv", "strings",
      "time"]
  render
    ([packageClause package, importBlock (packages.map packageLine)] ++ errorTypes ++
      responseWriters ++ requestReaders ++ textParsers)

def methodConstant : Method → String
  | .get => "http.MethodGet"
  | .post => "http.MethodPost"
  | .put => "http.MethodPut"
  | .patch => "http.MethodPatch"
  | .delete => "http.MethodDelete"

structure RouteRow where
  name : String
  method : Method
  path : String
  deriving DecidableEq

def routeRow (operation : Operation) : RouteRow :=
  { name := operation.id, method := operation.method, path := operation.path }

def RouteRow.code (row : RouteRow) : Code :=
  .line ("\x7bName: " ++ quoted row.name ++ ", Method: " ++ methodConstant row.method ++
    ", Pattern: " ++ quoted row.path ++ "\x7d,")

def routeType : List Code :=
  [.line "// Route binds an operation to its method and path pattern.",
    .block "type Route struct"
      [.line "Name    string", .line "Method  string", .line "Pattern string"]]

def registerFunction : List Code :=
  [.line "// Register mounts every handler found in handlers under its route.",
    .block "func Register(mux *http.ServeMux, handlers map[string]http.Handler)"
      [.block "for _, route := range Routes"
        [.block "if handler, ok := handlers[route.Name]; ok"
          [.line "mux.Handle(route.Method+\" \"+route.Pattern, handler)"]]]]

def routeTable (package : String) (rows : List RouteRow) : String :=
  render
    [packageClause package,
      [.line "import \"net/http\""],
      routeType,
      [.line "// Routes lists every generated operation.", .line "var Routes = []Route\x7b",
        .nested (rows.map RouteRow.code), .line "\x7d"],
      registerFunction]

def documentMethods : List String :=
  ["get", "put", "post", "delete", "options", "head", "patch", "trace"]

def isBinaryMedia (media : Json.Value) : Bool :=
  (media.at? ["schema", "format"]).bind Json.Value.text? == some "binary" &&
    (media.at? ["schema", "type"]).bind Json.Value.text? == some "string"

def membersAt (value : Json.Value) (path : List String) : List (String × Json.Value) :=
  ((value.at? path).bind Json.Value.members?).getD []

def binaryMediaTypes (document : Json.Value) : NameSet :=
  let operations := (membersAt document ["paths"]).flatMap fun (_, item) =>
    documentMethods.filterMap item.member?
  let media := operations.flatMap fun operation => membersAt operation ["requestBody", "content"]
  .ofList ((media.filter fun (_, description) => isBinaryMedia description).map (·.1))

def decoderCode (mediaTypes : NameSet) : List Code :=
  if mediaTypes.names.isEmpty then []
  else
    let types := commaSeparated (mediaTypes.names.map quoted)
    [.block ("for _, fileType := range []string\x7b" ++ types ++ "\x7d")
      [.line "openapi3filter.RegisterBodyDecoder(fileType, openapi3filter.FileBodyDecoder)"]]

def documentVariables : List (List Code) :=
  [[.line "//go:embed spec.json", .line "var specData []byte"],
    [.line "var (",
      .nested
        [.line "specOnce      sync.Once", .line "specRouter    routers.Router",
          .line "specRouterErr error"],
      .line ")"]]

def loadBody (mediaTypes : NameSet) : List Code :=
  let reading : List Code :=
    [.line "doc, err := openapi3.NewLoader().LoadFromData(specData)",
      .block "if err != nil" [.line "specRouterErr = err", .line "return"],
      .line "doc.Servers = nil"]
  reading ++ decoderCode mediaTypes ++
    [.line "specRouter, specRouterErr = gorillamux.NewRouter(doc)"]

def loadFunction (mediaTypes : NameSet) : List Code :=
  [.line "// loadSpecRouter builds the route matcher once. Servers are dropped so",
    .line "// that routes match on the path alone, as Register mounts them.",
    .block "func loadSpecRouter() (routers.Router, error)"
      [.block "specOnce.Do(func()" (loadBody mediaTypes) ")",
        .line "return specRouter, specRouterErr"]]

def refuseWith (status : String) : List Code :=
  [.line s!"writeError(w, http.{status}, err)", .line "return false"]

def validationFields : List Code :=
  [.line "Request:    r,",
    .line "PathParams: pathParams,",
    .line "Route:      route,",
    .line "Options: &openapi3filter.Options\x7b",
    .nested [.line "AuthenticationFunc: openapi3filter.NoopAuthenticationFunc,"],
    .line "\x7d,"]

def validateFunction : List Code :=
  [.line "// validateRequest checks r against the embedded document. A request that",
    .line "// does not conform is answered with 400 and false is returned.",
    .block "func validateRequest(w http.ResponseWriter, r *http.Request) bool"
      [.line "router, err := loadSpecRouter()",
        .block "if err != nil" (refuseWith "StatusInternalServerError"),
        .line "route, pathParams, err := router.FindRoute(r)",
        .block "if err != nil" (refuseWith "StatusBadRequest"),
        .line "input := &openapi3filter.RequestValidationInput\x7b",
        .nested validationFields,
        .line "\x7d",
        .block "if err := openapi3filter.ValidateRequest(r.Context(), input); err != nil"
          (refuseWith "StatusBadRequest"),
        .line "return true"]]

def requestCheck (package : String) (document : Json.Value) : String :=
  let standard := [.line "_ \"embed\"", packageLine "net/http", packageLine "sync"]
  let other :=
    ["openapi3", "openapi3filter", "routers", "routers/gorillamux"].map fun name =>
      packageLine ("github.com/getkin/kin-openapi/" ++ name)
  render
    ([packageClause package, importBlock (standard ++ .blank :: other)] ++ documentVariables ++
      [loadFunction (binaryMediaTypes document), validateFunction])

end OpenApiCodegen.Server
