import OpenApiCodegen.Error
import OpenApiCodegen.List.Total
import OpenApiCodegen.Lowering.Types
import OpenApiCodegen.OpenApi.Normalization
import OpenApiCodegen.Text.CharacterClass

namespace OpenApiCodegen.Lowering

open Api
open OpenApi (Schema Document Method PathItem NormalDocument componentName)

abbrev LowerOperation := StateT Draft (Except GenerationError)

def ending {α : Type} (work : Lower α) : LowerOperation α := fun draft =>
  match work draft with
  | some result => .ok result
  | none => .error .unfinished

def fault {α : Type} (error : GenerationError) : LowerOperation α :=
  fun _ => .error error

def building {α : Type} (build : Build α) : LowerOperation α := do
  match ← ending build.run with
  | .ok result => pure result
  | .error error => fault error

def parameterKey (parameter : OpenApi.Parameter) : String × String :=
  (parameter.location, parameter.name)

def firstRepeated? (seen : List (String × String)) :
    List OpenApi.Parameter → Option OpenApi.Parameter
  | [] => none
  | parameter :: rest =>
    if seen.contains (parameterKey parameter) then some parameter
    else firstRepeated? (parameterKey parameter :: seen) rest

def checkParameters (operation : String) (parameters : List OpenApi.Parameter) :
    LowerOperation Unit :=
  match firstRepeated? [] parameters with
  | some repeated => fault (.duplicateParameter operation repeated.location repeated.name)
  | none => pure ()

def putParameter (parameter : OpenApi.Parameter) : List OpenApi.Parameter → List OpenApi.Parameter
  | [] => [parameter]
  | first :: rest =>
    if parameterKey first = parameterKey parameter then parameter :: rest
    else first :: putParameter parameter rest

/-- The parameters of a path with those of an operation, which take the place of parameters with
the same key. -/
def mergeParameters (shared own : List OpenApi.Parameter) : List OpenApi.Parameter :=
  (shared ++ own).foldl (fun merged parameter => putParameter parameter merged) []

def location? : String → Option Location
  | "path" => some .path
  | "query" => some .query
  | "header" => some .header
  | "cookie" => some .cookie
  | _ => none

def lowerParameter (bound : Nat) (scope : Scope) (owner : String) (location : Location)
    (parameter : OpenApi.Parameter) : Lower Parameter := do
  let schema := parameter.schema.getD .empty
  let type ← typeOf bound scope schema owner parameter.name .inlineObject 0
  pure
    { name := identifier parameter.name
      wireName := parameter.name
      location
      required := parameter.required || location = .path
      nullable := admitsNull scope.components schema
      type
      marked := parameter.isGlobal
      description := parameter.description }

def lowerParameters (bound : Nat) (scope : Scope) (owner : String)
    (parameters : List OpenApi.Parameter) : Lower (List Parameter) := do
  let lowered ← parameters.mapM fun parameter =>
    match location? parameter.location with
    | some location => some <$> lowerParameter bound scope owner location parameter
    | none => pure none
  pure (lowered.filterMap id)

def isJsonMedia (media : String) : Bool :=
  Text.mentions media "json"

def isFormMedia (media : String) : Bool :=
  Text.beginsWith media "multipart/form-data" ||
    Text.beginsWith media "application/x-www-form-urlencoded"

/-- The properties of a schema that is sent as a form: those of the component that it refers to, or
those of its members and its own. -/
def formProperties : (bound : Nat) → Scope → Schema → (owner : String) → (depth : Nat) →
    Build (List Property)
  | 0, _, _, _, _ => liftM (failure : Lower (List Property))
  | n + 1, scope, schema, owner, depth => do
    match schema.ref with
    | some ref =>
      let found ← memberProperties n scope (componentName ref) depth
      pure ((found.map (·.2)).getD [])
    | none =>
      let merged ← (schema.allOf.getD []).foldlM
        (fun merged member => do
          pure (putProperties merged (← formProperties n scope member owner (depth + 1))))
        []
      let own ← lowerProperties scope.components (typeOf n scope) owner schema
      pure (putProperties merged own)

def formParameter (bodyRequired : Bool) (property : Property) : Parameter :=
  { name := property.name
    wireName := property.wireName
    location := .form
    required := bodyRequired && property.required
    nullable := property.nullable
    type := property.type
    marked := false
    description := property.description }

def bareType? (media : String) : Option DataType :=
  if isJsonMedia media then none else some .binary

def bodyParameter (bound : Nat) (scope : Scope) (owner : String) (body : OpenApi.RequestBody)
    (media : String) (schema : Option Schema) : Lower Parameter := do
  let parameter := fun (name : String) (type : DataType) (nullable : Bool) =>
    ({ name, wireName := name, location := .body, required := body.required, nullable, type
       marked := false, description := body.description } : Parameter)
  match schema with
  | none => pure (parameter "body" ((bareType? media).getD .any) false)
  | some schema => do
    let name := match schema.ref with
      | some ref => identifier (typeName (componentName ref))
      | none => "body"
    let type ← typeOf bound scope schema owner "Request" .inlineObject 0
    pure (parameter name type (admitsNull scope.components schema))

def lowerBody (bound : Nat) (scope : Scope) (owner : String) (body : OpenApi.RequestBody) :
    Build (List Parameter) := do
  let json := body.content.find? fun (media, _) => isJsonMedia media
  let form := body.content.find? fun (media, _) => isFormMedia media
  match json, form with
  | none, some (_, schema) =>
    let properties ← formProperties bound scope (schema.getD .empty) (owner ++ "Form") 0
    pure (properties.map (formParameter body.required))
  | json, _ =>
    match json.or body.content.head? with
    | some (media, schema) => do pure [← bodyParameter bound scope owner body media schema]
    | none => pure []

def pickPayload? (content : OpenApi.Content) : Option (String × Option Schema) :=
  (content.find? fun (media, _) => isJsonMedia media).or content.head?

def lowerResponse (bound : Nat) (scope : Scope) (owner : String)
    (entry : String × OpenApi.Response) : Lower Response := do
  let (status, response) := entry
  let owner := owner ++ statusSuffix status
  let body ← match pickPayload? response.content with
    | none => pure none
    | some (media, none) => pure (bareType? media)
    | some (_, some schema) => some <$> typeOf bound scope schema owner "Response" .inlineResponse 0
  pure { status, description := response.description, body }

structure Declared where
  path : String
  shared : List OpenApi.Parameter
  method : Method
  operation : OpenApi.Operation

def declaredOperations (doc : Document) : List Declared :=
  doc.operations.map fun (path, item, method, operation) =>
    { path, shared := item.parameters.getD [], method, operation }

def Declared.id (declared : Declared) : String :=
  operationName declared.operation.operationId declared.method.name declared.path

def lowerOperation (bound : Nat) (scope : Scope) (declared : Declared) :
    LowerOperation Operation := do
  let op := declared.operation
  let own := op.parameters.getD []
  let id := declared.id
  let owner := Text.capitalize id
  checkParameters id declared.shared
  checkParameters id own
  let parameters ← ending (lowerParameters bound scope owner (mergeParameters declared.shared own))
  let body ← match op.requestBody with
    | some body => building (lowerBody bound scope owner body)
    | none => pure []
  let responses ← ending (op.responses.mapM (lowerResponse bound scope owner))
  pure
    { id
      method := declared.method
      path := declared.path
      summary := op.summary
      description := op.description
      deprecated := op.deprecated
      parameters := parameters ++ body
      responses }

/-- Lowers operations one after the other. `ids` are those of the operations before. -/
def lowerOperations (bound : Nat) (scope : Scope) (ids : List String) :
    List Declared → LowerOperation (List Operation)
  | [] => pure []
  | declared :: rest => do
    let operation ← lowerOperation bound scope declared
    if ids.contains operation.id then fault (.duplicateOperation operation.id)
    else do
      let later ← lowerOperations bound scope (operation.id :: ids) rest
      pure (operation :: later)

def lowerAll (bound : Nat) (doc : Document) : LowerOperation (List Operation) := do
  let scope : Scope := ⟨doc.components, []⟩
  building (lowerComponents bound scope)
  lowerOperations bound scope [] (declaredOperations doc)

def Draft.start (doc : Document) : Draft :=
  ⟨[], doc.components.map fun (key, _) => typeName key⟩

def lowerWithin (bound : Nat) (doc : NormalDocument) : Except GenerationError Api := do
  let document := doc.document
  let (operations, draft) ← (lowerAll bound document).run (Draft.start document)
  pure
    { title := document.info.bind (·.title)
      models := draft.models.reverse
      operations }

def contentWeight (content : OpenApi.Content) : Nat :=
  total (fun (_, schema) => (schema.map Schema.weight).getD 0) content

def parametersWeight (parameters : List OpenApi.Parameter) : Nat :=
  total (fun parameter => (parameter.schema.map Schema.weight).getD 0) parameters

def operationWeight (op : OpenApi.Operation) : Nat :=
  parametersWeight (op.parameters.getD []) +
    ((op.requestBody.map fun body => contentWeight body.content).getD 0) +
    total (fun (_, response) => contentWeight response.content) op.responses

def documentWeight (doc : Document) : Nat :=
  total (fun (_, schema) => schema.weight) doc.components +
    total (fun (_, item) => parametersWeight (item.parameters.getD [])) doc.paths +
    total (fun (_, _, _, op) => operationWeight op) doc.operations

/-- Deeper than calls are nested unless they go on without end: no schema is met twice at the same
depth while the same components are being made. -/
def callBound (doc : Document) : Nat :=
  (doc.components.length + 2) * (documentWeight doc + 2) * (maxDepth + 4)

def lower (doc : NormalDocument) : Except GenerationError Api :=
  lowerWithin (callBound doc.document) doc

end OpenApiCodegen.Lowering
