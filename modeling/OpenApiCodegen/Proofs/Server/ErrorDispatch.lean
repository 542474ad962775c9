import Mathlib.Data.List.Find
import OpenApiCodegen.Proofs.Api.StatusKeys
import OpenApiCodegen.Proofs.Lowering.DocumentRuns
import OpenApiCodegen.Proofs.Output.TextLines
import OpenApiCodegen.Proofs.Server.RequestChecks

namespace OpenApiCodegen.Server

open Api (Operation Response StatusClass StatusKey)

/-- All responses are declared under codes, wildcards or `default`. -/
def PlainKeys (operation : Operation) : Prop :=
  ∀ response ∈ operation.responses, (StatusKey.read? response.status).isSome = true

instance (operation : Operation) : Decidable (PlainKeys operation) :=
  inferInstanceAs (Decidable (∀ response ∈ operation.responses, _))

def responseUnder? (responses : List Response) (key : StatusKey) : Option Response :=
  responses.find? fun response => StatusKey.read? response.status = some key

def classified? (responses : List Response) (status : Nat) : Option Response :=
  if 400 ≤ status ∧ status < 600 then
    (responseUnder? responses (.code status)).or (responseUnder? responses (.hundreds (status / 100)))
  else none

/-- The response for the code, for the class, or for all others. -/
def mostSpecific? (responses : List Response) (status : Nat) : Option Response :=
  (classified? responses status).or (responseUnder? responses .others)

/-- The writer of a response, and the usual text where there is none. -/
def writerOf (response : Option Response) : Writer :=
  (response.map writerFor).getD .standard

def unclassified (operation : Operation) : List Response :=
  (errorResponses operation).filter (·.statusClass = .other)

section Tests

variable {response : Response} {key : StatusKey} {digit status : Nat}

theorem ofHundreds_cases (digit : Nat) :
    (digit = 2 ∧ StatusClass.ofHundreds digit = .success) ∨
      (digit = 4 ∧ StatusClass.ofHundreds digit = .clientError) ∨
        (digit = 5 ∧ StatusClass.ofHundreds digit = .serverError) ∨
          (digit ≠ 2 ∧ digit ≠ 4 ∧ digit ≠ 5 ∧ StatusClass.ofHundreds digit = .other) := by
  unfold StatusClass.ofHundreds
  split <;> simp_all

theorem ofHundreds_error (error : digit = 4 ∨ digit = 5) :
    StatusClass.ofHundreds digit ≠ .success ∧ StatusClass.ofHundreds digit ≠ .other ∧
      (StatusClass.ofHundreds digit).baseCode? = some (100 * digit) := by
  rcases error with rfl | rfl <;> decide

theorem ofHundreds_other (none : ¬(digit = 4 ∨ digit = 5))
    (failed : StatusClass.ofHundreds digit ≠ .success) : StatusClass.ofHundreds digit = .other := by
  rcases ofHundreds_cases digit with ⟨-, same⟩ | ⟨four, -⟩ | ⟨five, -⟩ | ⟨-, -, -, same⟩
  · exact absurd same failed
  · exact absurd (.inl four) none
  · exact absurd (.inr five) none
  · exact same

theorem holds_exactly {code : Nat} : (StatusTest.exactly code).holds status = true ↔ status = code := by
  simp [StatusTest.holds]

theorem holds_hundredFrom : (StatusTest.hundredFrom (100 * digit)).holds status = true ↔ status / 100 = digit := by
  simp only [StatusTest.holds, Bool.and_eq_true, decide_eq_true_eq]
  omega

theorem statusTest?_eq_none : statusTest? response = none ↔ response.statusClass = .other := by
  unfold statusTest?
  split
  · rename_i other
    simp [other]
  · rename_i group
    cases written : response.statusClass with
    | other => exact absurd written group
    | success | clientError | serverError => simp [Response.code?, written, StatusClass.baseCode?]

theorem statusTest?_of_code (group : response.statusClass ≠ .other) (code : response.code? = some status) :
    statusTest? response =
      some (if response.isWildcard then .hundredFrom status else .exactly status) := by
  rw [statusTest?, if_neg group, code, Option.map_some]

theorem holds_statusTest? (read : StatusKey.read? response.status = some key)
    (failed : response.statusClass ≠ .success) :
    (statusTest? response).any (·.holds status) = true ↔
      (400 ≤ status ∧ status < 600) ∧ (key = .code status ∨ key = .hundreds (status / 100)) := by
  have settles := StatusKey.settles read
  have group := settles.statusClass
  cases key with
  | others =>
    rw [statusTest?_eq_none.2 group]
    simp
  | code declared =>
    have plain : ¬response.isWildcard = true := by
      rw [settles.wildcard]
      exact fun ⟨_, impossible⟩ => nomatch impossible
    by_cases error : declared / 100 = 4 ∨ declared / 100 = 5
    · rw [statusTest?_of_code (group.trans_ne (ofHundreds_error error).2.1) (settles.code declared rfl), if_neg plain,
        Option.any_some, holds_exactly, StatusKey.code.injEq]
      simp only [reduceCtorEq, or_false]
      omega
    · rw [statusTest?_eq_none.2 (group.trans (ofHundreds_other error (group.symm.trans_ne failed))), Option.any_none,
        StatusKey.code.injEq]
      simp only [Bool.false_eq_true, reduceCtorEq, or_false, false_iff, not_and]
      omega
  | hundreds digit =>
    have wild := settles.wildcard.2 ⟨digit, rfl⟩
    by_cases error : digit = 4 ∨ digit = 5
    · have base := (settles.base digit rfl).trans (ofHundreds_error error).2.2
      rw [statusTest?_of_code (group.trans_ne (ofHundreds_error error).2.1) base, if_pos wild, Option.any_some,
        holds_hundredFrom, StatusKey.hundreds.injEq]
      simp only [reduceCtorEq, false_or]
      omega
    · rw [statusTest?_eq_none.2 (group.trans (ofHundreds_other error (group.symm.trans_ne failed))), Option.any_none,
        StatusKey.hundreds.injEq]
      simp only [Bool.false_eq_true, reduceCtorEq, false_or, false_iff, not_and]
      omega

theorem armed_iff (read : StatusKey.read? response.status = some key) :
    (response.statusClass ≠ .success ∧ (statusTest? response).any (·.holds status) = true) ↔
      (400 ≤ status ∧ status < 600) ∧ (key = .code status ∨ key = .hundreds (status / 100)) := by
  constructor
  · rintro ⟨failed, taken⟩
    exact (holds_statusTest? read failed).1 taken
  · intro fits
    have failed : response.statusClass ≠ .success := by
      rw [(StatusKey.settles read).statusClass]
      rcases fits with ⟨range, rfl | rfl⟩ <;> exact (ofHundreds_error (by omega)).1
    exact ⟨failed, (holds_statusTest? read failed).2 fits⟩

theorem armed_code (read : StatusKey.read? response.status = some key) (error : 400 ≤ status ∧ status < 600) :
    (response.statusClass ≠ .success ∧ ¬response.isWildcard = true ∧
      (statusTest? response).any (·.holds status) = true) ↔ key = .code status := by
  rw [and_left_comm, armed_iff read, (StatusKey.settles read).wildcard]
  cases key <;> simp [error]

theorem armed_hundreds (read : StatusKey.read? response.status = some key)
    (error : 400 ≤ status ∧ status < 600) :
    (response.statusClass ≠ .success ∧ response.isWildcard = true ∧
      (statusTest? response).any (·.holds status) = true) ↔ key = .hundreds (status / 100) := by
  rw [and_left_comm, armed_iff read, (StatusKey.settles read).wildcard]
  cases key <;> simp [error]

end Tests

section Switch

variable {operation : Operation} {response : Response} {status : Nat}

theorem errorResponses_perm (operation : Operation) :
    (errorResponses operation).Perm (operation.responses.filter (·.statusClass != .success)) := by
  have split := List.filter_append_perm (fun response : Response => !response.isWildcard)
    (operation.responses.filter (·.statusClass != .success))
  simp only [Bool.not_not] at split
  exact split

theorem mem_errorResponses :
    response ∈ errorResponses operation ↔ response ∈ operation.responses ∧ response.statusClass ≠ .success := by
  rw [(errorResponses_perm operation).mem_iff, List.mem_filter, bne_iff_ne]

theorem find?_arms (operation : Operation) (status : Nat) :
    (errorSwitch operation).arms.find? (fun arm => arm.1.holds status) =
      ((errorResponses operation).find? fun response => (statusTest? response).any (·.holds status)).bind
        fun response => (statusTest? response).map fun test => (test, writerFor response) := by
  rw [errorSwitch, List.find?_filterMap]
  congr 2
  funext response
  cases statusTest? response <;> rfl

theorem find?_errorResponses (keys : PlainKeys operation) (status : Nat) :
    (errorResponses operation).find? (fun response => (statusTest? response).any (·.holds status)) =
      classified? operation.responses status := by
  unfold classified?
  split
  · rename_i error
    unfold errorResponses responseUnder?
    dsimp only
    simp only [List.find?_append, List.find?_filter]
    congr 1
    · refine List.find?_congr fun response mem => ?_
      obtain ⟨key, read⟩ := Option.isSome_iff_exists.1 (keys response mem)
      simp only [read, Option.some_inj]
      rw [decide_eq_decide, ← armed_code read error]
      simp
    · refine List.find?_congr fun response mem => ?_
      obtain ⟨key, read⟩ := Option.isSome_iff_exists.1 (keys response mem)
      simp only [read, Option.some_inj]
      rw [decide_eq_decide, ← armed_hundreds read error]
      simp
  · rename_i other
    refine List.find?_eq_none.2 fun response mem taken => other ?_
    obtain ⟨listed, failed⟩ := mem_errorResponses.1 mem
    obtain ⟨key, read⟩ := Option.isSome_iff_exists.1 (keys response listed)
    exact ((armed_iff read).1 ⟨failed, taken⟩).1

theorem fallback_errorSwitch (operation : Operation) :
    (errorSwitch operation).fallback = writerOf (unclassified operation).getLast? := by
  have same : ∀ response ∈ errorResponses operation,
      (statusTest? response).isNone = decide (response.statusClass = .other) := by
    intro response _
    rw [Bool.eq_iff_iff, Option.isNone_iff_eq_none, statusTest?_eq_none, decide_eq_true_eq]
  rw [errorSwitch, unclassified, ← List.filter_congr same]
  rfl

theorem writer_errorSwitch (keys : PlainKeys operation) (status : Nat) :
    (errorSwitch operation).writer status =
      writerOf ((classified? operation.responses status).or (unclassified operation).getLast?) := by
  have found := find?_errorResponses keys status
  rw [ErrorSwitch.writer, find?_arms]
  cases taken : classified? operation.responses status with
  | none =>
    rw [found, taken, Option.bind_none, Option.none_or]
    exact fallback_errorSwitch operation
  | some response =>
    rw [taken] at found
    have holds := List.find?_some found
    obtain ⟨test, written, -⟩ := (Option.any_eq_true _ _).1 holds
    rw [found, Option.bind_some, written]
    rfl

theorem writerOf_eq_iff {found found' : Option Response} (group : ∀ a ∈ found, a.statusClass = .other)
    (group' : ∀ a ∈ found', a.statusClass = .other) :
    writerOf found = writerOf found' ↔ found.map (·.body.isSome) = found'.map (·.body.isSome) := by
  have written : ∀ {found : Option Response}, (∀ a ∈ found, a.statusClass = .other) →
      writerOf found = ((found.map (·.body.isSome)).map fun body =>
        if body then Writer.responder "onDefault" else .statusOnly).getD .standard := by
    intro found group
    cases found with
    | none => rfl
    | some a => simp [writerOf, writerFor, responderName, group a rfl]
  rw [written group, written group']
  generalize found.map (·.body.isSome) = body
  generalize found'.map (·.body.isSome) = body'
  rcases body with _ | _ | _ <;> rcases body' with _ | _ | _ <;> simp

theorem responseUnder?_some {responses : List Response} {key : StatusKey}
    (found : responseUnder? responses key = some response) :
    response ∈ responses ∧ StatusKey.read? response.status = some key :=
  ⟨List.mem_of_find?_eq_some found,
    of_decide_eq_true (List.find?_some (p := fun a : Response => StatusKey.read? a.status = some key) found)⟩

theorem writer_specific_iff (keys : PlainKeys operation) :
    (∀ status, (errorSwitch operation).writer status = writerOf (mostSpecific? operation.responses status)) ↔
      (unclassified operation).getLast?.map (·.body.isSome) =
        (responseUnder? operation.responses .others).map (·.body.isSome) := by
  have last : ∀ a ∈ (unclassified operation).getLast?, a.statusClass = .other := fun a found =>
    of_decide_eq_true (List.mem_filter.1 (List.mem_of_getLast? found)).2
  have default : ∀ a ∈ responseUnder? operation.responses .others, a.statusClass = .other := fun a found =>
    (StatusKey.settles (responseUnder?_some found).2).statusClass
  rw [← writerOf_eq_iff last default]
  constructor
  · intro specific
    have none : classified? operation.responses 0 = none := rfl
    have first := specific 0
    rwa [writer_errorSwitch keys, mostSpecific?, none, Option.none_or, Option.none_or] at first
  · intro same status
    rw [writer_errorSwitch keys, mostSpecific?]
    cases classified? operation.responses status with
    | none => exact same
    | some _ => rfl

end Switch

def AnswersError (response : Response) : Prop :=
  response.statusClass ≠ .success ∧ response.body.isSome = true

def Alike (response other : Response) : Prop :=
  (response.statusClass = .other ∧ other.statusClass = .other) ∨
    StatusKey.read? response.status = StatusKey.read? other.status

section Responders

variable {operation : Operation} {response other : Response} {key key' : StatusKey}

theorem length_of_class (read : StatusKey.read? response.status = some key)
    (group : response.statusClass ≠ .other) : response.status.toList.length = 3 := by
  have settles := StatusKey.settles read
  have spells := StatusKey.spells_of_read? read
  generalize response.status.toList = text at spells
  cases spells with
  | code => rfl
  | hundreds => rfl
  | others => exact absurd settles.statusClass group

theorem responderName_of_class (group : response.statusClass ≠ .other) :
    (responderName response).toList = "on".toList ++ response.status.toList.map Char.toUpper := by
  simp [responderName, group, Text.asciiUpper, Text.mapAscii]

theorem responderName_ne_onDefault (read : StatusKey.read? response.status = some key)
    (group : response.statusClass ≠ .other) : responderName response ≠ "onDefault" := by
  intro same
  have length := congrArg List.length (responderName_of_class group)
  rw [same, List.length_append, List.length_map, length_of_class read group] at length
  exact absurd length (by decide)

theorem responderName_eq_iff (read : StatusKey.read? response.status = some key)
    (read' : StatusKey.read? other.status = some key') :
    responderName response = responderName other ↔ Alike response other := by
  have onDefault : ∀ {a : Response}, a.statusClass = .other → responderName a = "onDefault" :=
    fun group => if_pos group
  have classes : StatusKey.read? response.status = StatusKey.read? other.status →
      response.statusClass = other.statusClass := by
    intro same
    rw [(StatusKey.settles read).statusClass, (StatusKey.settles (same ▸ read)).statusClass]
  unfold Alike
  by_cases group : response.statusClass = .other <;> by_cases group' : other.statusClass = .other
  · exact iff_of_true ((onDefault group).trans (onDefault group').symm) (.inl ⟨group, group'⟩)
  · refine iff_of_false ?_ (not_or.2 ⟨fun both => group' both.2, fun same => group' (classes same ▸ group)⟩)
    exact fun same => responderName_ne_onDefault read' group' (same.symm.trans (onDefault group))
  · refine iff_of_false ?_ (not_or.2 ⟨fun both => group both.1, fun same => group ((classes same).trans group')⟩)
    exact fun same => responderName_ne_onDefault read group (same.trans (onDefault group'))
  · rw [← String.toList_inj, responderName_of_class group, responderName_of_class group',
      List.append_cancel_left_eq, read, read', Option.some_inj,
      (StatusKey.spells_of_read? read).capitals_eq_iff (StatusKey.spells_of_read? read')]
    exact (or_iff_right fun both => group both.1).symm

theorem names_responders (api : Api) (operation : Operation) :
    (responders api operation).map (·.1) =
      ((errorResponses operation).filter (·.body.isSome)).map responderName := by
  rw [responders, List.map_filterMap, ← List.filterMap_eq_map, List.filterMap_filter]
  congr 1
  funext response
  cases response.body <;> rfl

theorem responders_distinct_iff (api : Api) (keys : PlainKeys operation) :
    ((responders api operation).map (·.1)).Nodup ↔ operation.responses.Pairwise fun response other =>
      AnswersError response → AnswersError other → ¬Alike response other := by
  have symm : ∀ {a b : Response}, responderName a ≠ responderName b → responderName b ≠ responderName a :=
    Ne.symm
  rw [names_responders, List.Nodup, List.pairwise_map,
    ((errorResponses_perm operation).filter _).pairwise_iff symm, List.pairwise_filter, List.pairwise_filter]
  refine List.Pairwise.iff_of_mem @fun response other mem mem' => ?_
  obtain ⟨key, read⟩ := Option.isSome_iff_exists.1 (keys response mem)
  obtain ⟨key', read'⟩ := Option.isSome_iff_exists.1 (keys other mem')
  rw [ne_eq, responderName_eq_iff read read']
  simp only [AnswersError, bne_iff_ne]
  tauto

end Responders

def StatusTest.text : StatusTest → String
  | exactly code => "status == " ++ toString code
  | hundredFrom code => "status >= " ++ toString code ++ " && status < " ++ toString (code + 100)

def Writer.text : Writer → String
  | responder name => "writeJSON(w, status, " ++ name ++ "(err))"
  | statusOnly => "w.WriteHeader(status)"
  | standard => "writeError(w, status, err)"

def ErrorSwitch.lines (errors : ErrorSwitch) : List String :=
  "switch status := statusOf(err); \x7b" ::
    errors.arms.flatMap (fun arm => ["case " ++ arm.1.text ++ ":", "\t" ++ arm.2.text]) ++
      ["default:", "\t" ++ errors.fallback.text, "\x7d"]

def parametersText : List (String × String) → String
  | [] => ""
  | [parameter] => parameter.1 ++ " " ++ parameter.2
  | parameters => "\n" ++ String.join (parameters.map fun parameter =>
      "\t" ++ parameter.1 ++ " " ++ parameter.2 ++ ",\n")

/-- The text has a function that takes the responders, and the switch over the status of errors. -/
structure ShowsErrors (api : Api) (operation : Operation) (text : String) : Prop where
  head : ∃ before after, text = before ++ ("func " ++ goName operation ++ "Ctrl(" ++
    parametersText (("handle", handleType api operation) :: responders api operation) ++
      ") http.HandlerFunc \x7b\n") ++ after
  switch : HasLines "\t" (errorSwitch operation).lines text

/-- How the text of a handler writes errors, and how far that follows what the operation declares. -/
structure WritesErrors (api : Api) (operation : Operation) (text : String) : Prop where
  shows : ShowsErrors api operation text
  dispatched : ∀ status, (errorSwitch operation).writer status =
    writerOf ((classified? operation.responses status).or (unclassified operation).getLast?)
  specific : (∀ status,
      (errorSwitch operation).writer status = writerOf (mostSpecific? operation.responses status)) ↔
    (unclassified operation).getLast?.map (·.body.isSome) =
      (responseUnder? operation.responses .others).map (·.body.isSome)
  distinct : ((responders api operation).map (·.1)).Nodup ↔ operation.responses.Pairwise
    fun response other => AnswersError response → AnswersError other → ¬Alike response other

section Handlers

variable {config : Config} {source : Source} {code : GeneratedCode} {id : Nat} {operation : Operation}

theorem within_answerCode (api : Api) (operation : Operation) :
    Code.Within (errorSwitch operation).code (answerCode api operation) := by
  have failed : Code.Within (errorSwitch operation).code
      [Code.block "if err != nil" ((errorSwitch operation).code ++ [.line "return"])] :=
    (Code.Within.whole.before _).block _ _
  unfold answerCode
  dsimp only
  split
  · exact (failed.before _).cons _
  · exact ((Code.Within.whole.before _).block _ _).before _

theorem spells_arm (arm : StatusTest × Writer) : Code.Spells indent
    [.line ("case " ++ arm.1.code ++ ":"), .nested [.line arm.2.code]]
      ["case " ++ arm.1.text ++ ":", "\t" ++ arm.2.text] := by
  have test : arm.1.code = arm.1.text := by
    cases arm.1 <;> rfl
  have writer : arm.2.code = arm.2.text := by
    cases arm.2 <;> rfl
  rw [test, writer]
  exact (Code.spells_line indent _).cons (Code.spells_line indent arm.2.text).nested

theorem spells_errorSwitch (errors : ErrorSwitch) : Code.Spells indent errors.code errors.lines := by
  have fallback : errors.fallback.code = errors.fallback.text := by
    cases errors.fallback <;> rfl
  have arms := Code.Spells.flatMap fun arm (_ : arm ∈ errors.arms) => spells_arm arm
  have last := (Code.spells_line indent errors.fallback.text).nested.append (Code.spells_line indent "\x7d")
  unfold ErrorSwitch.code ErrorSwitch.lines
  dsimp only
  rw [fallback]
  exact (Code.spells_line indent _).cons (arms.append ((Code.spells_line indent "default:").cons last))

theorem functionHead_handlerFrame (api : Api) (operation : Operation) :
    functionHead (handlerFrame api operation) = Code.render indent (lineComment (some (handlerDoc operation))) ++
      ("func " ++ goName operation ++ "Ctrl(" ++
        parametersText (("handle", handleType api operation) :: responders api operation) ++
          ") http.HandlerFunc \x7b\n") := by
  have written : ∀ parameters : List (String × String),
      (if 1 < (parameters.map fun parameter => parameter.1 ++ " " ++ parameter.2).length then
        "\n" ++ String.join ((parameters.map fun parameter => parameter.1 ++ " " ++ parameter.2).map fun text =>
          "\t" ++ text ++ ",\n")
      else commaSeparated (parameters.map fun parameter => parameter.1 ++ " " ++ parameter.2)) =
        parametersText parameters := by
    intro parameters
    rcases parameters with _ | ⟨first, _ | ⟨second, rest⟩⟩
    · rfl
    · simp [parametersText, commaSeparated]
    · change _ = "\n" ++ String.join ((first :: second :: rest).map fun parameter =>
        "\t" ++ parameter.1 ++ " " ++ parameter.2 ++ ",\n")
      rw [if_pos (by simp), List.map_map]
      simp only [Function.comp_def, String.append_assoc]
  have results : resultsCode ["http.HandlerFunc"] = " http.HandlerFunc" := rfl
  have opened : "Ctrl" ++ "(" = "Ctrl(" := rfl
  have close : ")" ++ (" http.HandlerFunc" ++ " \x7b\n") = ") http.HandlerFunc \x7b\n" := by rfl
  unfold functionHead handlerFrame
  dsimp only
  rw [results, written, ← close, ← opened]
  simp only [String.append_assoc]

theorem shows_operation (api : Api) (validate : Bool) (operation : Operation) :
    ShowsErrors api operation (render (operationCode api validate operation)) := by
  have struct : IsLines (if hasParameters operation then
      render [(parametersStruct api operation).code, readerCode api operation] ++ "\n" else "") := by
    split
    · exact .line _
    · exact ⟨[], rfl⟩
  have head : IsLines (functionHead (handlerFrame api operation)) := .opening _
  have returns : IsLines "\treturn func(w http.ResponseWriter, r *http.Request) \x7b\n" :=
    ⟨["\treturn func(w http.ResponseWriter, r *http.Request) \x7b"], rfl⟩
  have guards : IsLines (if validate then guardText else "") := by
    rw [guardText]
    split
    · exact ⟨["\t\tif !validateRequest(w, r) \x7b", "\t\t\treturn", "\t\t\x7d"], by rfl⟩
    · exact ⟨[], rfl⟩
  rw [render_operation]
  constructor
  · rw [handlerOpening, functionHead_handlerFrame]
    generalize "func " ++ goName operation ++ "Ctrl(" ++
      parametersText (("handle", handleType api operation) :: responders api operation) ++
        ") http.HandlerFunc \x7b\n" = head
    generalize (if hasParameters operation then _ else "") = struct
    exact ⟨struct ++ Code.render indent (lineComment (some (handlerDoc operation))), _, by
      simp only [String.append_assoc]; rfl⟩
  · have within := (within_answerCode api operation).behind (readCode operation)
    have rest := (within.hasLines (spells_errorSwitch (errorSwitch operation)) 2).before "\t\x7d\n\x7d\n"
    exact rest.behind (((struct.append head).append returns).append guards)

/-- Errors are written by what is declared for their code, else for their class, else by the last response
that has no class. -/
theorem errors_of_generate (run : generate .server config source = .ok code)
    (included : (id, operation) ∈ source.api.includedOperations .server) (keys : PlainKeys operation) :
    ∃ unit, (id, unit) ∈ code.operations ∧ WritesErrors source.api operation unit.code := by
  obtain ⟨unit, made, validate, written⟩ := handler_of_generate run included
  exact ⟨unit, made,
    { shows := written ▸ shows_operation source.api validate operation
      dispatched := writer_errorSwitch keys
      specific := writer_specific_iff keys
      distinct := responders_distinct_iff source.api keys }⟩

end Handlers

def problemAt (status : String) : String × OpenApi.Response :=
  (status, { description := none
             content := [("application/json", some { typeNames := some (.single "string") })] })

def emptyAt (status : String) : String × OpenApi.Response :=
  (status, { description := none, content := [] })

def answeringAt (path : String) (responses : List (String × OpenApi.Response)) : OpenApi.Document where
  openapi := none
  info := none
  paths := [(path, Lowering.reading [] responses)]
  schemas := none
  tags := []
  source := none

/-- The server takes an operation of the document with plain keys, and writes it with its switch. -/
def Handles (doc : OpenApi.Document) (P : Api → Operation → Prop) : Prop :=
  ∃ source code, Source.of doc = .ok source ∧ generate .server {} source = .ok code ∧
    ∃ entry ∈ source.api.includedOperations .server, PlainKeys entry.2 ∧ P source.api entry.2 ∧
      ∃ unit, (entry.1, unit) ∈ code.operations ∧ ShowsErrors source.api entry.2 unit.code

theorem handles_of_seen {doc : OpenApi.Document} {P : Api → Operation → Prop}
    [∀ api operation, Decidable (P api operation)]
    (seen : (Source.of doc).toOption.map (fun source : Source => (fullySupported source.api,
      decide (∃ entry ∈ source.api.includedOperations .server, PlainKeys entry.2 ∧ P source.api entry.2))) =
        some (true, true)) : Handles doc P := by
  obtain ⟨source, lowered, seen, runs⟩ := exists_runs_of_seen seen
  obtain ⟨entry, included, keys, property⟩ := of_decide_eq_true seen
  obtain ⟨code, run⟩ := runs .server {}
  obtain ⟨unit, made, validate, written⟩ := handler_of_generate run included
  exact ⟨source, code, lowered, run, entry, included, keys, property, unit, made,
    written ▸ shows_operation source.api validate entry.2⟩

/-- A response for one code comes after the one for all others; a class is declared in both cases. -/
theorem errors_astray :
    Handles (answeringAt "/moved" [problemAt "default", emptyAt "302"]) (fun _ operation =>
      (mostSpecific? operation.responses 500).map (·.status) = some "default" ∧
        writerOf (mostSpecific? operation.responses 500) = .responder "onDefault" ∧
        (errorSwitch operation).writer 500 = .statusOnly) ∧
      Handles (answeringAt "/closed" [problemAt "4XX", problemAt "4xx"]) (fun api operation =>
        (responders api operation).map (·.1) = ["on4XX", "on4XX"]) :=
  ⟨handles_of_seen (by rfl), handles_of_seen (by rfl)⟩

def tickets : OpenApi.Document :=
  answeringAt "/tickets" [emptyAt "204", problemAt "4XX", problemAt "404", emptyAt "5xx", emptyAt "302",
    problemAt "default"]

theorem tickets_errors : ∃ source code, Source.of tickets = .ok source ∧
    generate .server {} source = .ok code ∧ ∃ entry ∈ source.api.includedOperations .server,
      PlainKeys entry.2 ∧ (∃ unit, (entry.1, unit) ∈ code.operations ∧
        WritesErrors source.api entry.2 unit.code) ∧
      ([404, 403, 500, 302].map fun status => (errorSwitch entry.2).writer status) =
        [.responder "on404", .responder "on4XX", .statusOnly, .responder "onDefault"] ∧
      (∀ status,
        (errorSwitch entry.2).writer status = writerOf (mostSpecific? entry.2.responses status)) ∧
      ((responders source.api entry.2).map (·.1)).Nodup := by
  have seen : (Source.of tickets).toOption.map (fun source : Source => (fullySupported source.api,
      decide (∃ entry ∈ source.api.includedOperations .server, PlainKeys entry.2 ∧
        ([404, 403, 500, 302].map fun status => (errorSwitch entry.2).writer status) =
          [.responder "on404", .responder "on4XX", .statusOnly, .responder "onDefault"] ∧
        (unclassified entry.2).getLast?.map (·.body.isSome) =
          (responseUnder? entry.2.responses .others).map (·.body.isSome) ∧
        ((responders source.api entry.2).map (·.1)).Nodup))) = some (true, true) := by
    rfl
  obtain ⟨source, lowered, seen, runs⟩ := exists_runs_of_seen seen
  obtain ⟨entry, included, keys, writers, last, names⟩ := of_decide_eq_true seen
  obtain ⟨code, run⟩ := runs .server {}
  obtain ⟨unit, made, writes⟩ := errors_of_generate run included keys
  exact ⟨source, code, lowered, run, entry, included, keys, ⟨unit, made, writes⟩, writers,
    writes.specific.2 last, names⟩

end OpenApiCodegen.Server
