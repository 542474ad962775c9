import OpenApiCodegen.Proofs.Server.ErrorDispatch
import OpenApiCodegen.Proofs.Server.ModelQualifiers

namespace OpenApiCodegen.Server

open Api (DataType Operation Parameter Response ReturnType)
open Lowering (NamesCapitalized)

def parameterNames (parameter : Parameter) : List String :=
  if isFile parameter then ["multipart"] else timeNames parameter.type

def parserNames : DataType → List String
  | .date => []
  | .dateTime => []
  | type => timeNames type

def readingNames (parameter : Parameter) : List String :=
  if parameter.location == .body || isFile parameter then []
  else
    match parameter.type with
    | .array item => parserNames item
    | type => parserNames type

def Reading.parser? : Reading → Option String
  | .values parser => parser
  | .first parser _ => parser
  | _ => none

section Parameters

variable {api : Api} {path : String} {parameter : Parameter} {names : List String}

theorem term_parameterType (api : Api) (named : NamesCapitalized parameter.type) :
    Term (parameterType api parameter).code (parameterNames parameter) := by
  have single : Term "*multipart.FileHeader" ["multipart"] := term_fixed rfl
  have many : Term "[]*multipart.FileHeader" ["multipart"] := term_fixed rfl
  have type := term_goType api named
  unfold parameterType parameterNames
  split
  · cases parameter.isArray
    · exact single
    · exact many
  · dsimp only
    split
    · exact term_orNil type
    · exact type

theorem term_parses {type : DataType} {parser : String} (named : NamesCapitalized type)
    (parses : Server.parser? api type = some parser) : Term parser (parserNames type) := by
  have typed : Term s!"parseText[{(goType api type).code}]" (timeNames type) :=
    term_typed [.fixed "parseText[" rfl, .type, .fixed "]" rfl] [(goType api type).code] rfl rfl
      ⟨term_goType api named, trivial⟩
  cases type with
  | text => cases parses
  | integer | long | float | double | boolean | date | dateTime =>
    cases parses
    exact term_word (isWord_fixed (by decide))
  | binary | any | array | map | model =>
    cases parses
    exact typed

theorem reading_parses (named : NamesCapitalized parameter.type) :
    (∀ parser ∈ (reading api parameter).parser?, Term parser (readingNames parameter)) ∧
      ((reading api parameter).parser? = none → readingNames parameter = []) := by
  have item : ∀ type, NamesCapitalized type → (∀ parser ∈ Server.parser? api type, Term parser (parserNames type)) ∧
      (Server.parser? api type = none → parserNames type = []) := by
    intro type named
    refine ⟨fun parser parses => term_parses named parses, fun none => ?_⟩
    cases type <;> cases none
    rfl
  unfold reading readingNames
  split
  · rename_i body
    simp [body, Reading.parser?]
  · rename_i sent
    split
    · rename_i file
      simp [file, Reading.parser?]
    · rename_i value
      rw [if_neg (by simp [sent, value])]
      generalize parameter.type = type at named
      cases type with
      | array inner => exact item inner named
      | _ => exact item _ named

theorem term_source (path : String) (parameter : Parameter) : Term (source path parameter) [] := by
  have name := term_quoted parameter.wireName
  unfold source
  dsimp only
  split
  · exact term_plain [.fixed "pathSegment(r, " rfl, .word, .fixed ")" rfl] [toString _] rfl rfl
      ⟨isWord_nat _, trivial⟩
  · split
    · exact term_plain [.fixed "formFiles(r, " rfl, .term, .fixed ")" rfl] [quoted parameter.wireName] rfl
        rfl ⟨name, trivial⟩
    · exact term_plain [.fixed "formValues(r, " rfl, .term, .fixed ")" rfl] [quoted parameter.wireName] rfl
        rfl ⟨name, trivial⟩
  · exact term_plain [.fixed "r.Header.Values(" rfl, .term, .fixed ")" rfl] [quoted parameter.wireName] rfl
      rfl ⟨name, trivial⟩
  · exact term_plain [.fixed "r.URL.Query()[" rfl, .term, .fixed "]" rfl] [quoted parameter.wireName] rfl
      rfl ⟨name, trivial⟩

theorem names_refusal {error : String} (term : Term error []) : Names [refusal parameter error] [] :=
  names_plain [.fixed "return params, &ParamError\x7bName: " rfl, .term, .fixed ", Err: " rfl, .term, .fixed "\x7d" rfl]
    [quoted parameter.wireName, error] rfl rfl ⟨term_quoted parameter.wireName, term, trivial⟩

theorem names_assignment {value : String} (term : Term value []) : Names [assignment parameter value] [] :=
  names_plain [.fixed "params." rfl, .word, .fixed " = " rfl, .term] [fieldName parameter.name, value] rfl
    rfl ⟨isWord_fieldName parameter.name, term, trivial⟩

theorem names_assigned {chars : List Char} (reads : termNames [.fixed (String.ofList chars) rfl] = some []) :
    Names [assignment parameter (String.ofList chars)] [] :=
  names_assignment (term_fixed reads)

theorem names_set {call name value : String} (word : IsWord name) (term : Term call names)
    (assigned : Names [assignment parameter value] []) :
    Names (parseCode parameter name call ++ [assignment parameter value]) names := by
  have bound : Names [.line s!"{name}, err := {call}"] names :=
    names_typed [.word, .fixed ", err := " rfl, .type] [name, call] rfl rfl ⟨word, term, trivial⟩
  have error : Term "err" [] := term_fixed rfl
  have refused : Names [refusal parameter "err"] [] := names_refusal error
  have failed : Names [.block "if err != nil" [refusal parameter "err"]] ([] ++ []) :=
    refused.below rfl
  have whole := (bound.cons failed).append assigned
  simpa [parseCode] using whole

theorem names_files (path : String) (parameter : Parameter) :
    Names [.line ("if " ++ s!"files := {source path parameter}; len(files) > 0" ++ " \x7b")] [] :=
  names_plain [.fixed "if files := " rfl, .term, .fixed "; len(files) > 0 \x7b" rfl] [source path parameter]
    (String.toList_inj.1 (by simp [fill, fillFrom, toString])) rfl
    ⟨term_source path parameter, trivial⟩

theorem names_several (path : String) (parameter : Parameter) :
    Names [.line ("if " ++ s!"values := {source path parameter}; len(values) > 0" ++ " \x7b")] [] :=
  names_plain [.fixed "if values := " rfl, .term, .fixed "; len(values) > 0 \x7b" rfl] [source path parameter]
    (String.toList_inj.1 (by simp [fill, fillFrom, toString])) rfl
    ⟨term_source path parameter, trivial⟩

theorem names_first (path : String) (parameter : Parameter) :
    Names [.line ("if " ++ s!"raw, ok := first({source path parameter}); ok" ++ " \x7b")] [] :=
  names_plain [.fixed "if raw, ok := first(" rfl, .term, .fixed "); ok \x7b" rfl] [source path parameter]
    (String.toList_inj.1 (by simp [fill, fillFrom, toString])) rfl
    ⟨term_source path parameter, trivial⟩

theorem isWord_flag (flag : Bool) : IsWord (toString flag) := by
  cases flag <;> exact isWord_fixed (by decide)

theorem names_body (required : Bool) : Names [.line ("if " ++
    s!"err := decodeJSON(r, &params.{fieldName parameter.name}, {required}); err != nil" ++ " \x7b")] [] :=
  names_plain [.fixed "if err := decodeJSON(r, &params." rfl, .word, .fixed ", " rfl, .word, .fixed "); err != nil \x7b" rfl]
    [fieldName parameter.name, toString required] (String.toList_inj.1 (by simp [fill, fillFrom, toString]))
    rfl ⟨isWord_fieldName parameter.name, isWord_flag required, trivial⟩

theorem names_readingParts (path : String) (reading : Reading)
    (parser : ∀ parser ∈ reading.parser?, Term parser names) (without : reading.parser? = none → names = []) :
    Names [.line ("if " ++ (readingParts path parameter reading).1 ++ " \x7b")] [] ∧
      Names (readingParts path parameter reading).2 names := by
  cases reading with
  | body required =>
    obtain rfl := without rfl
    have error : Term "err" [] := term_fixed rfl
    have refused : Names [refusal parameter "err"] [] := names_refusal error
    exact ⟨names_body required, refused⟩
  | files many =>
    obtain rfl := without rfl
    have all : Names [assignment parameter "files"] [] := names_assigned rfl
    have first : Names [assignment parameter "files[0]"] [] := names_assigned rfl
    cases many
    · exact ⟨names_files path parameter, first⟩
    · exact ⟨names_files path parameter, all⟩
  | values parser? =>
    have several := names_several path parameter
    cases parser? with
    | none =>
      obtain rfl := without rfl
      have values : Names [assignment parameter "values"] [] := names_assigned rfl
      exact ⟨several, values⟩
    | some given =>
      have call : Term s!"parseAll(values, {given})" names :=
        term_typed [.fixed "parseAll(values, " rfl, .type, .fixed ")" rfl] [given] rfl rfl
          ⟨parser given rfl, trivial⟩
      have parsed : Names [assignment parameter "parsed"] [] := names_assigned rfl
      exact ⟨several, names_set (isWord_fixed (by decide)) call parsed⟩
  | first parser? byAddress =>
    have one := names_first path parameter
    cases parser? with
    | none =>
      obtain rfl := without rfl
      have raw : Names [assignment parameter "raw"] [] := names_assigned rfl
      have address : Names [assignment parameter "&raw"] [] := names_assigned rfl
      cases byAddress
      · exact ⟨one, raw⟩
      · exact ⟨one, address⟩
    | some given =>
      have call : Term s!"{given}(raw)" names :=
        term_typed [.type, .fixed "(raw)" rfl] [given] rfl rfl ⟨parser given rfl, trivial⟩
      have word : IsWord "value" := isWord_fixed (by decide)
      have value : Names [assignment parameter "value"] [] := names_assigned rfl
      have address : Names [assignment parameter "&value"] [] := names_assigned rfl
      cases byAddress
      · exact ⟨one, names_set word call value⟩
      · exact ⟨one, names_set word call address⟩

theorem names_reading (path : String) (named : NamesCapitalized parameter.type) :
    Names (readingCode api path parameter) (readingNames parameter) := by
  obtain ⟨parser, without⟩ : (∀ parser ∈ (reading api parameter).parser?, Term parser (readingNames parameter)) ∧
      ((reading api parameter).parser? = none → readingNames parameter = []) := reading_parses named
  obtain ⟨condition, body⟩ :
      Names [.line ("if " ++ (readingParts path parameter (reading api parameter)).1 ++ " \x7b")] [] ∧
        Names (readingParts path parameter (reading api parameter)).2 (readingNames parameter) :=
    names_readingParts path _ parser without
  have closes : Names [.line "\x7d"] [] := names_fixed rfl
  have otherwise : Names (otherwiseCode parameter) [] := by
    unfold otherwiseCode
    split
    · have opens : Names [.line "\x7d else \x7b"] [] := names_fixed rfl
      have missing : Term "errMissing" [] := term_fixed rfl
      have refused : Names [refusal parameter "errMissing"] [] := names_refusal missing
      exact opens.cons refused.nested
    · exact names_nil
  have whole := (condition.cons body.nested).append (otherwise.append closes)
  simpa [readingCode] using whole

theorem names_parametersStruct {operation : Operation}
    (named : ∀ parameter ∈ operation.parameters, NamesCapitalized parameter.type) :
    Names (parametersStruct api operation).code (operation.parameters.flatMap parameterNames) := by
  have name : IsWord (parametersName operation) :=
    (isWord_of_capitalized (Text.capitalized_pascalCase operation.id)).append (isWord_fixed (by decide))
  refine names_record name (by simp [parametersStruct]) ?_
  rw [parametersStruct, List.flatMap_map]
  exact .flatMap fun parameter mem =>
    names_field (isWord_fieldName parameter.name) (term_parameterType api (named parameter mem)) (by simp [parameterField])

theorem names_reader {operation : Operation}
    (named : ∀ parameter ∈ operation.parameters, NamesCapitalized parameter.type) :
    Names (readerCode api operation) ("http" :: operation.parameters.flatMap readingNames) := by
  have name : IsWord (parametersName operation) :=
    (isWord_of_capitalized (Text.capitalized_pascalCase operation.id)).append (isWord_fixed (by decide))
  have made : Names [.line s!"var params {parametersName operation}"] [] :=
    names_plain [.fixed "var params " rfl, .word] [parametersName operation] rfl rfl ⟨name, trivial⟩
  have given : Names [.line "return params, err"] [] := names_fixed rfl
  have form : Names [.block "if err := parseForm(r); err != nil" [.line "return params, err"]] ([] ++ []) :=
    given.below rfl
  have form : Names (if operation.parameters.any (·.location == .form) then
      [Code.block "if err := parseForm(r); err != nil" [.line "return params, err"]] else []) [] := by
    split
    · exact form
    · exact names_nil
  have reads : Names (operation.parameters.flatMap (readingCode api operation.path))
      (operation.parameters.flatMap readingNames) :=
    .flatMap fun parameter mem => names_reading operation.path (named parameter mem)
  have done : Names [.line "return params, nil"] [] := names_fixed rfl
  have body := ((made.cons form).append reads).append done
  have head : Names [.line (openingLine none ("read" ++ parametersName operation) [("r", "*http.Request")]
      [parametersName operation, "error"])] ["http"] :=
    names_plain [.fixed "func " rfl, .word, .fixed "(r *http.Request) (" rfl, .word, .fixed ", error) \x7b" rfl]
      ["read" ++ parametersName operation, parametersName operation]
      (String.toList_inj.1 (by simp [openingLine, resultsCode, commaSeparated, fill, fillFrom])) rfl
      ⟨.append (isWord_fixed (by decide)) name, name, trivial⟩
  have one : ¬1 < [("r", "*http.Request")].length := by decide
  have whole : Names (readerCode api operation) _ := names_function one head body
  simpa using whole

end Parameters

/-- Names for responders are made from statuses as a document has them. -/
def LegibleOperation (operation : Operation) : Prop :=
  ∀ response ∈ errorResponses operation, response.body.isSome = true → IsWord (responderName response)

instance (operation : Operation) : Decidable (LegibleOperation operation) :=
  inferInstanceAs (Decidable (∀ response ∈ errorResponses operation, response.body.isSome = true → _))

def errorNames (operation : Operation) : List String :=
  ((errorResponses operation).filterMap (·.body)).flatMap timeNames

def returnedNames (api : Api) (operation : Operation) : List String :=
  "context" :: (Api.returnType api operation).types.flatMap timeNames

def handlerNames (api : Api) (operation : Operation) : List String :=
  returnedNames api operation ++ errorNames operation ++
    "http" :: "http" :: "http" :: if hasParameters operation then ["http"] else []

section Errors

variable {api : Api} {operation : Operation}

theorem term_test (test : StatusTest) : Term test.code [] := by
  cases test with
  | exactly code =>
    exact term_plain [.fixed "status == " rfl, .word] [toString code] rfl rfl ⟨isWord_nat code, trivial⟩
  | hundredFrom code =>
    exact term_plain [.fixed "status >= " rfl, .word, .fixed " && status < " rfl, .word] [toString code, toString (code + 100)]
      rfl rfl ⟨isWord_nat code, isWord_nat (code + 100), trivial⟩

theorem names_writer {writer : Writer} (word : ∀ name, writer = .responder name → IsWord name) :
    Names [.line writer.code] [] := by
  have statusOnly : Names [.line "w.WriteHeader(status)"] [] := names_fixed rfl
  have standard : Names [.line "writeError(w, status, err)"] [] := names_fixed rfl
  cases writer with
  | responder name =>
    exact names_plain [.fixed "writeJSON(w, status, " rfl, .word, .fixed "(err))" rfl] [name] rfl rfl
      ⟨word name rfl, trivial⟩
  | statusOnly => exact statusOnly
  | standard => exact standard

theorem word_of_writerFor (legible : LegibleOperation operation) {response : Response}
    (listed : response ∈ errorResponses operation) {name : String} (writes : writerFor response = .responder name) :
    IsWord name := by
  unfold writerFor at writes
  split at writes
  · rename_i body
    cases writes
    exact legible response listed body
  · cases writes

theorem names_errorSwitch (legible : LegibleOperation operation) : Names (errorSwitch operation).code [] := by
  have opens : Names [.line "switch status := statusOf(err); \x7b"] [] := names_fixed rfl
  have arms : Names ((errorSwitch operation).arms.flatMap fun arm =>
      [Code.line s!"case {arm.1.code}:", .nested [.line arm.2.code]]) [] := by
    have each : Names ((errorSwitch operation).arms.flatMap fun arm =>
        [Code.line s!"case {arm.1.code}:", .nested [.line arm.2.code]])
        ((errorSwitch operation).arms.flatMap fun _ => []) := by
      refine .flatMap fun arm listed => ?_
      obtain ⟨response, inside, made⟩ := List.mem_filterMap.1 listed
      obtain ⟨test, -, rfl⟩ := Option.map_eq_some_iff.1 made
      have case : Names [.line s!"case {test.code}:"] [] :=
        names_plain [.fixed "case " rfl, .term, .fixed ":" rfl] [test.code] rfl rfl
          ⟨term_test test, trivial⟩
      exact case.cons (names_writer fun name writes => word_of_writerFor legible inside writes).nested
    rwa [List.flatMap_eq_nil_iff.2 fun _ _ => rfl] at each
  have default : Names [.line "default:"] [] := names_fixed rfl
  have fallback : Names [.line (errorSwitch operation).fallback.code] [] := by
    refine names_writer fun name writes => ?_
    unfold errorSwitch at writes
    dsimp only at writes
    cases last : ((errorResponses operation).filter fun response => (statusTest? response).isNone).getLast? with
    | none =>
      rw [last] at writes
      cases writes
    | some response =>
      rw [last] at writes
      have listed := (List.mem_filter.1 (List.mem_of_getLast? last)).1
      exact word_of_writerFor legible listed writes
  have closes : Names [.line "\x7d"] [] := names_fixed rfl
  have whole := (opens.append arms).append (default.cons (fallback.nested.cons closes))
  simpa [ErrorSwitch.code] using whole

theorem names_read (operation : Operation) :
    Names (readCode operation) (if hasParameters operation then ["http"] else []) := by
  have name : IsWord (parametersName operation) :=
    (isWord_of_capitalized (Text.capitalized_pascalCase operation.id)).append (isWord_fixed (by decide))
  have read : Names [.line s!"params, err := read{parametersName operation}(r)"] [] :=
    names_plain [.fixed "params, err := read" rfl, .word, .fixed "(r)" rfl] [parametersName operation] rfl
      rfl ⟨name, trivial⟩
  have answered : Names [.line "writeError(w, http.StatusBadRequest, err)"] ["http"] :=
    names_fixed rfl
  have done : Names [.line "return"] [] := names_fixed rfl
  have failed : Names [.block "if err != nil" [.line "writeError(w, http.StatusBadRequest, err)", .line "return"]]
      ([] ++ ["http"]) := (answered.cons done).below rfl
  unfold readCode
  split
  · exact read.cons failed
  · exact names_nil

theorem names_guard (validate : Bool) : Names (if validate then guardCode else []) [] := by
  have done : Names [.line "return"] [] := names_fixed rfl
  have guards : Names guardCode ([] ++ []) := done.below rfl
  split
  · exact guards
  · exact names_nil

theorem names_answer (legible : LegibleOperation operation) : Names (answerCode api operation) [] := by
  have call : Term (if hasParameters operation then "handle(r.Context(), params)" else "handle(r.Context())") [] := by
    split
    · exact term_fixed rfl
    · exact term_fixed rfl
  have done : Names [.line "return"] [] := names_fixed rfl
  have failed : Names ((errorSwitch operation).code ++ [.line "return"]) [] :=
    (names_errorSwitch legible).append done
  have status := isWord_nat (successStatus api operation)
  unfold answerCode
  dsimp only
  generalize (if hasParameters operation then "handle(r.Context(), params)" else "handle(r.Context())") = text at call
  split
  · have bound : Names [.line s!"result, err := {text}"] [] :=
      names_plain [.fixed "result, err := " rfl, .term] [text] rfl rfl ⟨call, trivial⟩
    have fails : Names [.block "if err != nil" ((errorSwitch operation).code ++ [.line "return"])] ([] ++ []) :=
      failed.below rfl
    have word : IsWord (if isBytes (Api.returnType api operation) then "writeBytes" else "writeJSON") := by
      split <;> exact isWord_fixed (by decide)
    generalize (if isBytes (Api.returnType api operation) then "writeBytes" else "writeJSON") = write at word
    have written : Names [.line s!"{write}(w, {successStatus api operation}, result)"] [] :=
      names_plain [.word, .fixed "(w, " rfl, .word, .fixed ", result)" rfl] [write, toString (successStatus api operation)]
        rfl rfl ⟨word, status, trivial⟩
    exact bound.cons (fails.append written)
  · have opens : Names [.line (s!"if err := {text}; err != nil" ++ " \x7b")] [] :=
      names_plain [.fixed "if err := " rfl, .term, .fixed "; err != nil \x7b" rfl] [text]
        (String.toList_inj.1 (by simp [fill, fillFrom, toString])) rfl ⟨call, trivial⟩
    have written : Names [.line s!"w.WriteHeader({successStatus api operation})"] [] :=
      names_plain [.fixed "w.WriteHeader(" rfl, .word, .fixed ")" rfl] [toString (successStatus api operation)] rfl
        rfl ⟨status, trivial⟩
    exact (failed.braced opens).append written

end Errors

section Heads

variable {api : Api} {operation : Operation} {names : List String}

theorem term_returnType {returned : ReturnType} (named : ∀ type ∈ returned.types, NamesCapitalized type)
    (envelope : ∀ applied, returned = .envelope applied → Text.Capitalized applied.envelope.toList) {type : GoType}
    (some : returnType? api returned = some type) : Term type.code (returned.types.flatMap timeNames) := by
  cases returned with
  | nothing => cases some
  | data type =>
    cases some
    have own := term_goType api (named type (List.mem_singleton_self type))
    rwa [ReturnType.types, List.flatMap_singleton]
  | envelope applied =>
    cases some
    have each : List.Forall₂ Term ((applied.arguments.map (goType api)).map GoType.code)
        (applied.arguments.map timeNames) := by
      rw [List.map_map, List.forall₂_map_left_iff, List.forall₂_map_right_iff]
      exact List.forall₂_same.2 fun type mem => term_goType api (named type mem)
    rw [ReturnType.types, List.flatMap_def]
    exact term_applied (isWord_of_capitalized (envelope applied rfl)) each

theorem term_handleType (named : ∀ type ∈ (Api.returnType api operation).types, NamesCapitalized type)
    (envelope : ∀ applied, Api.returnType api operation = .envelope applied →
      Text.Capitalized applied.envelope.toList) : Term (handleType api operation) (returnedNames api operation) := by
  have name : IsWord (parametersName operation) :=
    (isWord_of_capitalized (Text.capitalized_pascalCase operation.id)).append (isWord_fixed (by decide))
  unfold handleType returnedNames
  cases returned : returnType? api (Api.returnType api operation) with
  | none =>
    have nothing : (Api.returnType api operation).types.flatMap timeNames = [] := by
      cases answered : Api.returnType api operation with
      | nothing => rfl
      | data | envelope =>
        rw [answered] at returned
        cases returned
    rw [nothing]
    cases hasParameters operation with
    | true =>
      exact term_plain [.fixed "func(ctx context.Context, params " rfl, .word, .fixed ") error" rfl]
        [parametersName operation] (String.toList_inj.1 (by simp [fill, fillFrom, toString])) rfl ⟨name, trivial⟩
    | false =>
      exact term_plain [.fixed "func(ctx context.Context) error" rfl] []
        (String.toList_inj.1 (by simp [fill, fillFrom, toString])) rfl trivial
  | some type =>
    have term := term_returnType named envelope returned
    generalize (Api.returnType api operation).types.flatMap timeNames = names at term
    have own : resolve names [some "context", none] = "context" :: names := by simp [resolve]
    rw [← own]
    cases hasParameters operation with
    | true =>
      exact term_fill [.fixed "func(ctx context.Context, params " rfl, .word, .fixed ") (" rfl, .type, .fixed ", error)" rfl]
        [parametersName operation, type.code] (String.toList_inj.1 (by simp [fill, fillFrom, toString])) rfl
        ⟨name, term, trivial⟩
    | false =>
      exact term_fill [.fixed "func(ctx context.Context) (" rfl, .type, .fixed ", error)" rfl] [type.code]
        (String.toList_inj.1 (by simp [fill, fillFrom, toString])) rfl ⟨term, trivial⟩

theorem names_responderLines (bodies : ∀ response ∈ errorResponses operation, ∀ type ∈ response.body, NamesCapitalized type)
    (legible : LegibleOperation operation) :
    Names ((responders api operation).map fun entry => .line (entry.1 ++ " " ++ entry.2 ++ ","))
      (errorNames operation) := by
  have each : Names ((errorResponses operation).flatMap fun response => response.body.toList.map fun type =>
      .line (responderName response ++ " " ++ ("func(err error) " ++ (goType api type).code) ++ ","))
      ((errorResponses operation).flatMap fun response => response.body.toList.flatMap timeNames) := by
    refine .flatMap fun response listed => ?_
    cases body : response.body with
    | none => exact names_nil
    | some type =>
      have word : IsWord (responderName response) := legible response listed (by rw [body]; rfl)
      have term := term_goType api (bodies response listed type body)
      have line : Names [.line (responderName response ++ " " ++ ("func(err error) " ++ (goType api type).code) ++
          ",")] (timeNames type) :=
        names_typed [.word, .fixed " func(err error) " rfl, .type, .fixed "," rfl]
          [responderName response, (goType api type).code]
          (String.toList_inj.1 (by simp [fill, fillFrom])) rfl ⟨word, term, trivial⟩
      simpa using line
  have lines : ((responders api operation).map fun entry => Code.line (entry.1 ++ " " ++ entry.2 ++ ",")) =
      (errorResponses operation).flatMap fun response => response.body.toList.map fun type =>
        .line (responderName response ++ " " ++ ("func(err error) " ++ (goType api type).code) ++ ",") := by
    rw [responders, List.filterMap_eq_flatMap_toList, List.map_flatMap]
    refine List.flatMap_congr fun response _ => ?_
    cases response.body <;> rfl
  rwa [lines, errorNames, List.filterMap_eq_flatMap_toList, List.flatMap_assoc]

theorem names_serving (api : Api) (legible : LegibleOperation operation) (validate : Bool) :
    Names [.block "return func(w http.ResponseWriter, r *http.Request)"
      ((if validate then guardCode else []) ++ readCode operation ++ answerCode api operation)]
      ("http" :: "http" :: if hasParameters operation then ["http"] else []) := by
  have answer : Names (answerCode api operation) [] := names_answer legible
  have inside := ((names_guard validate).append (names_read operation)).append answer
  have reads : lineNames [.fixed "return func(w http.ResponseWriter, r *http.Request)" rfl, .fixed " \x7b" rfl] =
      some (["http", "http"].map some) := rfl
  rw [List.nil_append, List.append_nil] at inside
  exact inside.below reads

theorem names_handler (named : ∀ type ∈ (Api.returnType api operation).types, NamesCapitalized type)
    (envelope : ∀ applied, Api.returnType api operation = .envelope applied →
      Text.Capitalized applied.envelope.toList)
    (bodies : ∀ response ∈ errorResponses operation, ∀ type ∈ response.body, NamesCapitalized type)
    (legible : LegibleOperation operation) (validate : Bool) :
    Names (handlerCode api validate operation) (handlerNames api operation) := by
  have name : IsWord (goName operation ++ "Ctrl") :=
    (isWord_of_capitalized (Text.capitalized_pascalCase operation.id)).append (isWord_fixed (by decide))
  have handle : Term (handleType api operation) (returnedNames api operation) := term_handleType named envelope
  have serving := names_serving api legible validate
  have comment := names_lineComment (some (handlerDoc operation))
  have lines : Names ((responders api operation).map fun entry => .line (entry.1 ++ " " ++ entry.2 ++ ","))
      (errorNames operation) := names_responderLines bodies legible
  unfold handlerCode Function.code
  dsimp only
  split
  · have opens : Names [.line ("func " ++ "" ++ (goName operation ++ "Ctrl") ++ "(")] [] :=
      names_plain [.fixed "func " rfl, .word, .fixed "(" rfl] [goName operation ++ "Ctrl"] (by simp [fill, fillFrom]) rfl
        ⟨name, trivial⟩
    have first : Names [.line ("handle" ++ " " ++ handleType api operation ++ ",")] (returnedNames api operation) :=
      names_typed [.fixed "handle " rfl, .type, .fixed "," rfl] [handleType api operation]
        (String.toList_inj.1 (by simp [fill, fillFrom])) rfl ⟨handle, trivial⟩
    have closes : Names [.line (")" ++ resultsCode ["http.HandlerFunc"] ++ " \x7b")] ["http"] :=
      names_plain [.fixed ") http.HandlerFunc \x7b" rfl] [] (by simp [resultsCode, fill, fillFrom]) rfl trivial
    have parameters := (first.cons lines).nested
    have whole := comment.append (opens.cons (parameters.cons (serving.braced closes)))
    have found : handlerNames api operation = [] ++ ([] ++ ((returnedNames api operation ++ errorNames operation) ++
        (["http"] ++ ("http" :: "http" :: if hasParameters operation then ["http"] else [])))) := rfl
    rw [found, List.map_cons, List.map_cons, List.map_map]
    exact whole
  · rename_i one
    have none : responders api operation = [] := by simpa using one
    rw [none] at lines
    have errors : [] = errorNames operation := (lines 0).meets
    have own : resolve (returnedNames api operation) [Option.none, some "http"] =
        returnedNames api operation ++ ["http"] := by
      simp [resolve]
    have opens : Names [.line ("func " ++ "" ++ (goName operation ++ "Ctrl") ++ "(" ++ commaSeparated
        ["handle" ++ " " ++ handleType api operation] ++ (")" ++ resultsCode ["http.HandlerFunc"]) ++ " \x7b")]
        (resolve (returnedNames api operation) [Option.none, some "http"]) :=
      names_line [.fixed "func " rfl, .word, .fixed "(handle " rfl, .type, .fixed ") http.HandlerFunc \x7b" rfl]
        [goName operation ++ "Ctrl", handleType api operation]
        (String.toList_inj.1 (by simp [commaSeparated, resultsCode, fill, fillFrom])) rfl ⟨name, handle, trivial⟩
    rw [own] at opens
    have whole := comment.append (serving.braced opens)
    have found : handlerNames api operation = [] ++ ((returnedNames api operation ++ ["http"]) ++
        ("http" :: "http" :: if hasParameters operation then ["http"] else [])) := by
      rw [handlerNames, ← errors, List.append_nil, List.append_assoc]
      rfl
    rw [found, none]
    exact whole

end Heads

def handlerPieceNames (api : Api) (operation : Operation) : List (List String) :=
  (if hasParameters operation then
    [operation.parameters.flatMap parameterNames, "http" :: operation.parameters.flatMap readingNames] else []) ++
    [handlerNames api operation]

section Units

variable {api : Api} {operation : Operation} {name : String}

theorem names_operation (typed : Lowering.OperationTyped NamesCapitalized operation)
    (named : ∀ type ∈ (Api.returnType api operation).types, NamesCapitalized type)
    (envelope : ∀ applied, Api.returnType api operation = .envelope applied →
      Text.Capitalized applied.envelope.toList)
    (legible : LegibleOperation operation) (validate : Bool) :
    List.Forall₂ Names (operationCode api validate operation) (handlerPieceNames api operation) := by
  have bodies : ∀ response ∈ errorResponses operation, ∀ type ∈ response.body, NamesCapitalized type :=
    fun response listed type body => typed.2 response (mem_errorResponses.1 listed).1 type body
  have handler := names_handler named envelope bodies legible validate
  unfold operationCode handlerPieceNames
  split
  · exact .cons (names_parametersStruct typed.1) (.cons (names_reader typed.1) (.cons handler .nil))
  · exact .cons handler .nil

theorem mem_parameterNames : name ∈ operation.parameters.flatMap parameterNames ↔
    (name = "multipart" ∧ ∃ parameter ∈ operation.parameters, isFile parameter = true) ∨
      name ∈ ((operation.parameters.filter (!isFile ·)).map (·.type)).flatMap timeNames := by
  simp only [List.mem_flatMap, List.mem_map, List.mem_filter, Bool.not_eq_true', parameterNames]
  constructor
  · rintro ⟨parameter, mem, named⟩
    cases file : isFile parameter with
    | true => exact .inl ⟨by simpa [file] using named, parameter, mem, file⟩
    | false => exact .inr ⟨_, ⟨parameter, ⟨mem, file⟩, rfl⟩, by simpa [file] using named⟩
  · rintro (⟨rfl, parameter, mem, file⟩ | ⟨_, ⟨parameter, ⟨mem, value⟩, rfl⟩, named⟩)
    · exact ⟨parameter, mem, by simp [file]⟩
    · exact ⟨parameter, mem, by simpa [value] using named⟩

theorem mem_timeNames_of_parses {type : DataType} (mem : name ∈ parserNames type) : name ∈ timeNames type := by
  unfold parserNames at mem
  split at mem
  · cases mem
  · cases mem
  · exact mem

theorem mem_parameterNames_of_reading (mem : name ∈ operation.parameters.flatMap readingNames) :
    name ∈ operation.parameters.flatMap parameterNames := by
  obtain ⟨parameter, listed, named⟩ := List.mem_flatMap.1 mem
  refine List.mem_flatMap.2 ⟨parameter, listed, ?_⟩
  unfold readingNames at named
  unfold parameterNames
  split at named
  · cases named
  · rename_i plain
    have value : isFile parameter = false := by simp_all
    rw [if_neg (by simp [value])]
    split at named
    · rename_i item list
      rw [list]
      exact (mem_timeNames_of_parses named : name ∈ timeNames item)
    · exact mem_timeNames_of_parses named

theorem mem_pieces : name ∈ (handlerPieceNames api operation).flatten ↔
    name ∈ ["context", "http"] ∨ name ∈ operation.parameters.flatMap parameterNames ∨
      name ∈ (Api.returnType api operation).types.flatMap timeNames ∨ name ∈ errorNames operation := by
  have handler : name ∈ handlerNames api operation ↔ name ∈ ["context", "http"] ∨
      name ∈ (Api.returnType api operation).types.flatMap timeNames ∨ name ∈ errorNames operation := by
    unfold handlerNames returnedNames
    split <;> simp only [List.mem_append, List.mem_cons, List.not_mem_nil] <;> tauto
  unfold handlerPieceNames
  rw [List.flatten_append, List.mem_append, List.flatten_singleton, handler]
  cases some : hasParameters operation with
  | true =>
    rw [if_pos rfl, List.flatten_cons, List.flatten_singleton, List.mem_append, List.mem_cons]
    constructor
    · rintro ((fields | rfl | read) | always | others)
      · exact .inr (.inl fields)
      · exact .inl (by decide)
      · exact .inr (.inl (mem_parameterNames_of_reading read))
      · exact .inl always
      · exact .inr (.inr others)
    · rintro (always | fields | others)
      · exact .inr (.inl always)
      · exact .inl (.inl fields)
      · exact .inr (.inr others)
  | false =>
    have none : operation.parameters = [] := by simpa [hasParameters] using some
    simp [none]

theorem exists_mem_append {α : Type} {P : α → Prop} {items others : List α} :
    (∃ a ∈ items ++ others, P a) ↔ (∃ a ∈ items, P a) ∨ ∃ a ∈ others, P a := by
  simp only [List.mem_append, or_and_right, exists_or]

theorem mem_handlerPieceNames : name ∈ (handlerPieceNames api operation).flatten ↔
    ∃ package ∈ operationPackages api operation, packageName package = name := by
  have context : packageName "context" = "context" := by decide
  have http : packageName "net/http" = "http" := by decide
  have multipart : packageName "mime/multipart" = "multipart" := by decide
  have always : (∃ package ∈ ["context", "net/http"], packageName package = name) ↔
      name ∈ ["context", "http"] := by
    simp [context, http, eq_comm]
  have files : (∃ package ∈ (if operation.parameters.any isFile then ["mime/multipart"] else []),
      packageName package = name) ↔
      name = "multipart" ∧ ∃ parameter ∈ operation.parameters, isFile parameter = true := by
    rw [← List.any_eq_true]
    cases operation.parameters.any isFile
    · simp
    · simp [multipart, eq_comm]
  have times : name ∈ ((operation.parameters.filter (!isFile ·)).map (·.type) ++
      (Api.returnType api operation).types ++ (errorResponses operation).filterMap (·.body)).flatMap timeNames ↔ _ :=
    mem_timeNames
  rw [List.flatMap_append, List.flatMap_append, List.mem_append, List.mem_append] at times
  rw [mem_pieces, mem_parameterNames, errorNames, operationPackages]
  simp only [NameSet.mem_ofList]
  rw [exists_mem_append, exists_mem_append, always, files, ← times]
  simp only [or_assoc]

end Units

end OpenApiCodegen.Server
