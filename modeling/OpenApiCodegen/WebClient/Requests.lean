import OpenApiCodegen.Api.Binding
import OpenApiCodegen.Config.Basic
import OpenApiCodegen.WebClient.Models

namespace OpenApiCodegen.WebClient

open Api (DataType Parameter Operation ReturnType Location)
open Api.PathTemplate (Piece)

inductive UrlPart where
  | fixed (text : String)
  | value (parameter : Parameter)

inductive Url where
  | plain (path : String)
  | template (parts : List UrlPart)

def pathParameter? (parameters : List Parameter) (token : List Char) : Option Parameter :=
  parameters.find? fun parameter =>
    parameter.location == .path && parameter.wireName == String.ofList token

/-- Puts parameters for the placeholders of a template. `pending` is the fixed text before. -/
def urlParts (parameters : List Parameter) : (pending : List Char) → List Piece → List UrlPart
  | pending, [] => if pending.isEmpty then [] else [.fixed (String.ofList pending)]
  | pending, .fixed text :: rest => urlParts parameters (pending ++ text) rest
  | pending, .placeholder token :: rest =>
    match pathParameter? parameters token with
    | some parameter =>
      .fixed (String.ofList pending) :: .value parameter :: urlParts parameters [] rest
    | none => urlParts parameters (pending ++ '\x7b' :: token ++ ['\x7d']) rest

def UrlPart.isValue : UrlPart → Bool
  | value _ => true
  | fixed _ => false

def url (path : String) (parameters : List Parameter) : Url :=
  let parts := urlParts parameters [] (Api.PathTemplate.pieces path.toList)
  if parts.any UrlPart.isValue then .template parts else .plain path

/-- How a request is sent. `blob` says that the answer is binary data. -/
structure Request where
  name : String
  doc : Option String
  deprecated : Bool
  parameters : Option Interface
  returned : TypeExpr
  returnsValue : Bool
  blob : Bool
  verb : String
  url : Url
  query : List Parameter
  headers : List Parameter
  form : List Parameter
  payload : Option Parameter

def parameterField (parameter : Parameter) : String :=
  Text.afterLetter parameter.name

def parameterMember (api : Api) (parameter : Parameter) : Member :=
  { name := parameterField parameter
    type := orNullIf parameter.nullable (typeExpr api parameter.type)
    optional := !parameter.required
    doc := parameter.description }

def parametersName (operation : Operation) : String :=
  Text.pascalCase operation.id ++ "Params"

def parametersInterface (api : Api) (operation : Operation) : Interface :=
  { name := parametersName operation
    doc := none
    deprecated := false
    parameters := []
    members := operation.locals.map (parameterMember api)
    index := none }

def operationDoc (operation : Operation) : Option String :=
  match operation.summary, operation.description with
  | some summary, some description =>
    some (if summary = description then summary else summary ++ "\n\n" ++ description)
  | some summary, none => some summary
  | none, description => description

def localsAt (operation : Operation) (location : Location) : List Parameter :=
  operation.locals.filter (·.location == location)

def returnsBlob : ReturnType → Bool
  | .data .binary => true
  | _ => false

def returnsNothing : ReturnType → Bool
  | .nothing => true
  | _ => false

def request (api : Api) (operation : Operation) : Request :=
  let returned := Api.returnType api operation
  let form := localsAt operation .form
  { name := Text.typeScriptReserved.escape "_" operation.id
    doc := operationDoc operation
    deprecated := operation.deprecated
    parameters :=
      if operation.locals.isEmpty then none else some (parametersInterface api operation)
    returned := returnExpr api returned
    returnsValue := !returnsNothing returned
    blob := returnsBlob returned
    verb := operation.method.verb
    url := url operation.path operation.locals
    query := localsAt operation .query
    headers := localsAt operation .header
    form
    payload := if form.isEmpty then (localsAt operation .body).head? else none }

def requestImports (api : Api) (operation : Operation) : NameSet :=
  (NameSet.ofList (Api.returnType api operation).models).insertAll
    (operation.locals.flatMap fun parameter => parameter.type.models)

def access (parameter : Parameter) : String :=
  "params." ++ parameterField parameter

def templateText (text : String) : String :=
  let escaped := text.toList.flatMap fun c => if c = '`' then ['\\', '`'] else [c]
  String.ofList (Text.replacePair '$' '\x7b' ['\\', '$', '\x7b'] escaped)

def UrlPart.code : UrlPart → String
  | fixed text => templateText text
  | value parameter => "$\x7bencodeURIComponent(String(" ++ access parameter ++ "))\x7d"

def Url.code : Url → String
  | plain path => quoted path
  | template parts => "`" ++ String.join (parts.map UrlPart.code) ++ "`"

def inBraces (entries : List String) : String :=
  "\x7b " ++ commaSeparated entries ++ " \x7d"

def parametersEntry (key : String) (parameters : List Parameter) : List String :=
  if parameters.isEmpty then []
  else
    let entries := parameters.map fun parameter =>
      Text.propertyKey parameter.wireName ++ ": " ++ access parameter
    [key ++ ": " ++ inBraces entries]

def appendCode (wireName value : String) (type : DataType) : String :=
  let value := if type = .binary then value else "String(" ++ value ++ ")"
  "formData.append(" ++ quoted wireName ++ ", " ++ value ++ ");"

def appendAllCode (parameter : Parameter) : String :=
  match parameter.type with
  | .array item =>
    "for (const item of " ++ access parameter ++ ") \x7b\n  " ++
      appendCode parameter.wireName "item" item ++ "\n\x7d"
  | type => appendCode parameter.wireName (access parameter) type

def formFieldCode (parameter : Parameter) : List Code :=
  let code := appendAllCode parameter
  if parameter.required && !parameter.nullable then Code.ofText code
  else
    let value := access parameter
    let lines := (Text.lines code.toList).map fun line => "  " ++ String.ofList line
    Code.ofText (s!"if ({value} !== undefined && {value} !== null) \x7b\n" ++
      String.intercalate "\n" lines ++ "\n\x7d")

def formCode (form : List Parameter) : List Code :=
  if form.isEmpty then []
  else .line "const formData = new FormData();" :: form.flatMap formFieldCode

namespace Request

def dataEntry (request : Request) : List String :=
  if request.form.isEmpty then
    request.payload.toList.map fun parameter => "data: " ++ access parameter
  else ["data: formData"]

def options (request : Request) : String :=
  inBraces
    (["method: " ++ quoted request.verb, "url: " ++ request.url.code] ++
      parametersEntry "params" request.query ++ parametersEntry "headers" request.headers ++
      request.dataEntry ++ (if request.blob then ["responseType: \"blob\""] else []) ++
      ["...options"])

def callCode (axiosInstance : String) (request : Request) : List Code :=
  let call := "await " ++ axiosInstance ++ ".request<" ++ request.returned.code ++ ">(" ++
    request.options ++ ")"
  if request.returnsValue then
    [.line s!"const response = {call};", .line "return response.data;"]
  else [.line s!"{call};"]

def signature (request : Request) : String :=
  let parameters := request.parameters.toList.map fun declared => "params: " ++ declared.name
  "export async function " ++ request.name ++ "(" ++
    commaSeparated (parameters ++ ["options?: AxiosRequestConfig"]) ++ "): " ++
    request.returned.promise.code

def functionCode (axiosInstance : String) (request : Request) : List Code :=
  docComment request.doc request.deprecated ++
    [.block request.signature (formCode request.form ++ request.callCode axiosInstance)]

def code (axiosInstance : String) (request : Request) : String :=
  Code.render indent
    (Code.spaced
      (request.parameters.toList.map Interface.code ++ [request.functionCode axiosInstance]))

end Request

end OpenApiCodegen.WebClient
