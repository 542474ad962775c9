import OpenApiCodegen.Proofs.Server.HandlerQualifiers
import OpenApiCodegen.Proofs.Server.PackageFiles

namespace OpenApiCodegen.Server

inductive Lined : List Code → List (List Char) → Prop where
  | nil : Lined [] []
  | line {chars : List Char} {rest : List Code} {lines : List (List Char)} (behind : Lined rest lines) :
    Lined (.line (String.ofList chars) :: rest) (chars :: lines)
  | joined {chars more : List Char} {rest : List Code} {lines : List (List Char)} (behind : Lined rest lines) :
    Lined (.line (String.ofList chars ++ String.ofList more) :: rest) ((chars ++ more) :: lines)
  | blank {rest : List Code} {lines : List (List Char)} (behind : Lined rest lines) :
    Lined (.blank :: rest) ([] :: lines)
  | nested {body rest : List Code} {inner lines : List (List Char)} (inside : Lined body inner)
    (behind : Lined rest lines) : Lined (.nested body :: rest) (inner ++ lines)
  | block {head tail : List Char} {body rest : List Code} {inner lines : List (List Char)}
    (inside : Lined body inner) (behind : Lined rest lines) :
    Lined (.block (String.ofList head) body (String.ofList tail) :: rest)
      ((head ++ [' ', '\x7b']) :: (inner ++ ('\x7d' :: tail) :: lines))

def readLines : List (List Char) → Option (List String)
  | [] => some []
  | line :: rest =>
    if Place.between.through (line ++ ['\n']) = .between then
      (readLines rest).map fun found =>
        ((Place.between.qualifiers (line ++ ['\n'])).filter fun name => !localNames.contains name) ++ found
    else none

section Lines

variable {code : List Code} {lines more : List (List Char)} {line : List Char} {found : List String}

theorem readLines_cons (reads : readLines (line :: lines) = some found) :
    ∃ own others, Scans .between (line ++ ['\n']) .between own ∧ readLines lines = some others ∧
      found = own ++ others := by
  rw [readLines, Option.ite_none_right_eq_some, Option.map_eq_some_iff] at reads
  obtain ⟨between, others, reads, rfl⟩ := reads
  exact ⟨_, others, ⟨between, rfl⟩, reads, rfl⟩

theorem readLines_append (reads : readLines (lines ++ more) = some found) :
    ∃ first second, readLines lines = some first ∧ readLines more = some second ∧ found = first ++ second := by
  induction lines generalizing found with
  | nil => exact ⟨[], found, rfl, reads, rfl⟩
  | cons line rest ih =>
    rw [List.cons_append, readLines, Option.ite_none_right_eq_some, Option.map_eq_some_iff] at reads
    obtain ⟨between, others, reads, rfl⟩ := reads
    obtain ⟨first, second, inFront, behind, rfl⟩ := ih reads
    refine ⟨_, second, ?_, behind, (List.append_assoc _ first second).symm⟩
    rw [readLines, if_pos between, inFront]
    rfl

theorem names_of_scans {text : String} (same : text.toList = line)
    (scans : Scans .between (line ++ ['\n']) .between found) : Names [.line text] found := by
  intro depth
  rw [Code.textOfAll_singleton, Code.text, String.append_assoc, String.toList_append, String.toList_append, same]
  exact (scans_indentation depth).append scans

theorem names_block {head tail : List Char} {own ends : List String} (named : Names code found)
    (opens : Scans .between (head ++ [' ', '\x7b'] ++ ['\n']) .between own)
    (closes : Scans .between ('\x7d' :: tail ++ ['\n']) .between ends) :
    Names [.block (String.ofList head) code (String.ofList tail)] (own ++ (found ++ ends)) :=
  named.block (names_of_scans (by simp) opens) (names_of_scans (by simp) closes)

/-- By induction on the code; a block is its two braced lines with the body between them. -/
theorem names_of_lined (lined : Lined code lines) (reads : readLines lines = some found) : Names code found := by
  induction lined generalizing found with
  | nil =>
    cases reads
    exact names_nil
  | line _ ih =>
    obtain ⟨own, others, scans, rest, rfl⟩ := readLines_cons reads
    exact (names_of_scans String.toList_ofList scans).cons (ih rest)
  | joined _ ih =>
    obtain ⟨own, others, scans, rest, rfl⟩ := readLines_cons reads
    exact (names_of_scans (by simp) scans).cons (ih rest)
  | blank _ ih =>
    obtain ⟨own, others, ⟨-, rfl⟩, rest, rfl⟩ := readLines_cons reads
    exact names_blank.cons (ih rest)
  | nested _ _ inside behind =>
    obtain ⟨first, second, inner, rest, rfl⟩ := readLines_append reads
    exact (inside inner).nested.cons (behind rest)
  | block _ _ inside behind =>
    obtain ⟨own, others, opens, body, rfl⟩ := readLines_cons reads
    obtain ⟨first, second, inner, last, rfl⟩ := readLines_append body
    obtain ⟨ends, others, closes, rest, rfl⟩ := readLines_cons last
    have whole := (names_block (inside inner) opens closes).cons (behind rest)
    simpa only [List.append_assoc] using whole

end Lines

def NamesJust (code : List Code) (packages : List String) : Prop :=
  ∃ found, Names code found ∧ ∀ name, name ∈ found ↔ name ∈ packages

theorem NamesJust.named {code : List Code} {packages : List String} (just : NamesJust code packages) (name : String) :
    name ∈ namedPackages (Code.render indent code) ↔ name ∈ packages := by
  obtain ⟨found, named, same⟩ := just
  rw [namedPackages_of_names named]
  exact same name

theorem namesJust_of_lined {code : List Code} {lines : List (List Char)} {packages : List String}
    (lined : Lined code lines)
    (reads : (readLines lines).map (fun found => (NameSet.ofList found).names) = some packages) :
    NamesJust code packages := by
  obtain ⟨found, rest, rfl⟩ := Option.map_eq_some_iff.1 reads
  exact ⟨found, names_of_lined lined rest, fun name => NameSet.mem_ofList.symm⟩

theorem namesJust_support : NamesJust (Code.spaced supportPieces)
    ["errors", "fmt", "http", "io", "json", "multipart", "strconv", "strings", "time"] := by
  simp only [supportPieces, errorTypes, decodeErrorCode, statusErrorCode, parameterErrorCode, responseWriters,
    statusFunction, writeJsonFunction, writeBytesFunction, writeErrorFunction, requestReaders, decodeBodyFunction,
    pathSegmentFunction, firstFunction, formReaders, textParsers, valueParsers, conversion, parseTextFunction,
    parseAllFunction, Code.spaced, List.cons_append, List.nil_append, String.reduceAppend]
  apply namesJust_of_lined
  · repeat' constructor
  · decide +kernel

section Routes

theorem term_methodConstant (method : OpenApi.Method) : Term (methodConstant method) ["http"] := by
  cases method <;> exact term_fixed rfl

theorem names_routeRow (row : RouteRow) : Names [row.code] ["http"] :=
  names_typed [.fixed "\x7bName: " rfl, .term, .fixed ", Method: " rfl, .type, .fixed ", Pattern: " rfl, .term, .fixed "\x7d," rfl]
    [quoted row.name, methodConstant row.method, quoted row.path] rfl rfl
    ⟨term_quoted row.name, term_methodConstant row.method, term_quoted row.path, trivial⟩

theorem names_register : Names registerFunction ["http", "http"] := by
  rw [registerFunction]
  apply names_of_lined
  · repeat' constructor
  · rfl

theorem names_routeType : Names routeType [] := by
  rw [routeType]
  apply names_of_lined
  · repeat' constructor
  · rfl

theorem namesJust_routes (rows : List RouteRow) : NamesJust (Code.spaced (routePieces rows)) ["http"] := by
  have first : Names [.line "// Routes lists every generated operation."] [] := names_fixed rfl
  have second : Names [.line "var Routes = []Route\x7b"] [] := names_fixed rfl
  have listed : Names (rows.map RouteRow.code) (rows.flatMap fun _ => ["http"]) := by
    rw [List.map_eq_flatMap]
    exact .flatMap fun row _ => names_routeRow row
  have last : Names [.line "\x7d"] [] := names_fixed rfl
  have table := first.cons (second.cons (listed.nested.cons last))
  refine ⟨_, .spaced (.cons names_routeType (.cons table (.cons names_register .nil))), fun name => ?_⟩
  simp

end Routes

section Validation

theorem names_variables : Names (Code.spaced documentVariables) ["sync", "routers"] := by
  simp only [documentVariables, Code.spaced, List.cons_append, List.nil_append]
  apply names_of_lined
  · repeat' constructor
  · rfl

theorem names_validate : Names validateFunction
    ["http", "http", "http", "http", "openapi3filter", "openapi3filter", "openapi3filter", "openapi3filter",
      "http"] := by
  simp only [validateFunction, validationFields, refuseWith, toString, String.reduceAppend]
  apply names_of_lined
  · repeat' constructor
  · rfl

theorem names_decoder (mediaTypes : NameSet) : Names (decoderCode mediaTypes)
    (if mediaTypes.names.isEmpty then [] else ["openapi3filter", "openapi3filter"]) := by
  have body : Names [.line "openapi3filter.RegisterBodyDecoder(fileType, openapi3filter.FileBodyDecoder)"]
      ["openapi3filter", "openapi3filter"] := names_fixed rfl
  unfold decoderCode
  split
  · exact names_nil
  · have each : List.Forall₂ Term (mediaTypes.names.map quoted) (mediaTypes.names.map fun _ => []) := by
      rw [List.forall₂_map_left_iff, List.forall₂_map_right_iff]
      exact List.forall₂_same.2 fun mediaType _ => term_quoted mediaType
    have types : Term (commaSeparated (mediaTypes.names.map quoted)) [] := by
      simpa using term_commaSeparated each
    have opens : Names [.line _] [] :=
      names_plain [.fixed "for _, fileType := range []string\x7b" rfl, .term, .fixed "\x7d" rfl, .fixed " \x7b" rfl]
        [commaSeparated (mediaTypes.names.map quoted)] rfl rfl ⟨types, trivial⟩
    exact body.braced opens

theorem names_load (mediaTypes : NameSet) : Names (loadFunction mediaTypes)
    ("routers" :: "openapi3" :: (if mediaTypes.names.isEmpty then [] else ["openapi3filter", "openapi3filter"]) ++
      ["gorillamux"]) := by
  have reads : Names [.line "doc, err := openapi3.NewLoader().LoadFromData(specData)",
      .block "if err != nil" [.line "specRouterErr = err", .line "return"], .line "doc.Servers = nil"]
      ["openapi3"] := by
    apply names_of_lined
    · repeat' constructor
    · rfl
  have comments : Names [.line "// loadSpecRouter builds the route matcher once. Servers are dropped so"] [] :=
    names_fixed rfl
  have comments' : Names [.line "// that routes match on the path alone, as Register mounts them."] [] :=
    names_fixed rfl
  have makes : Names [.line "specRouter, specRouterErr = gorillamux.NewRouter(doc)"] ["gorillamux"] := names_fixed rfl
  have opens : Names [.line "specOnce.Do(func() \x7b"] [] := names_fixed rfl
  have closes : Names [.line "\x7d)"] [] := names_fixed rfl
  have returns : Names [.line "return specRouter, specRouterErr"] [] := names_fixed rfl
  have head : Names [.line "func loadSpecRouter() (routers.Router, error) \x7b"] ["routers"] := names_fixed rfl
  have body : Names (loadBody mediaTypes) _ := (reads.append (names_decoder mediaTypes)).append makes
  have once : Names [.block "specOnce.Do(func()" (loadBody mediaTypes) ")"] _ := body.block opens closes
  have whole : Names (loadFunction mediaTypes) _ := comments.cons (comments'.cons ((once.cons returns).braced head))
  simpa using whole

theorem namesJust_check (document : Json.Value) : NamesJust (Code.spaced (checkPieces document))
    ["gorillamux", "http", "openapi3", "openapi3filter", "routers", "sync"] := by
  have functions := Names.spaced (.cons (names_load (binaryMediaTypes document)) (.cons names_validate .nil))
  rw [checkPieces, Code.spaced_append (by simp [documentVariables]) (by simp)]
  refine ⟨_, names_variables.append (names_blank.append functions), fun name => ?_⟩
  simp only [List.mem_append, List.flatten_cons, List.flatten_nil]
  split <;> simp <;> tauto

end Validation

end OpenApiCodegen.Server
