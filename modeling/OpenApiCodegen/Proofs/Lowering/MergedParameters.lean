import OpenApiCodegen.Proofs.Lowering.OperationFaults
import OpenApiCodegen.Proofs.Lowering.ParameterKeys

namespace OpenApiCodegen.Lowering

open Api
open OpenApi (Schema NormalDocument)

/-- The declaration that counts for a key: that of the operation, if it has one, or that of the path. -/
def Declared.governing? (declared : Declared) (key : String × String) : Option OpenApi.Parameter :=
  (declared.own.find? (parameterKey · = key)).or (declared.shared.find? (parameterKey · = key))

def Declared.placedKeys (declared : Declared) : List (String × String) :=
  (firstKeys (declared.shared ++ declared.own)).filter fun key => (location? key.1).isSome

section Merging

variable {declared : Declared}

theorem governing?_eq (shared : (declared.shared.map parameterKey).Nodup)
    (own : (declared.own.map parameterKey).Nodup) (key : String × String) :
    declared.governing? key =
      (mergeParameters declared.shared declared.own).find? (parameterKey · = key) := by
  rw [mergeParameters_eq, find?_placeAll, List.reverse_append, List.find?_append, find?_reverse shared,
    find?_reverse own]
  exact (Option.or_none).symm

theorem nodup_mergeParameters (shared own : List OpenApi.Parameter) :
    ((mergeParameters shared own).map parameterKey).Nodup := by
  rw [keys_mergeParameters]
  exact firsts_nodup _

theorem governing?_of_mem (shared : (declared.shared.map parameterKey).Nodup)
    (own : (declared.own.map parameterKey).Nodup) {source : OpenApi.Parameter}
    (mem : source ∈ mergeParameters declared.shared declared.own) :
    declared.governing? (parameterKey source) = some source := by
  rw [governing?_eq shared own]
  exact find?_of_mem (nodup_mergeParameters _ _) mem

theorem placedKeys_eq (declared : Declared) :
    declared.placedKeys = ((mergeParameters declared.shared declared.own).filter fun parameter =>
      (location? parameter.location).isSome).map parameterKey := by
  rw [Declared.placedKeys, ← keys_mergeParameters, List.filter_map]
  rfl

theorem nodup_placedKeys (declared : Declared) : declared.placedKeys.Nodup :=
  (firsts_nodup _).filter _

end Merging

/-- The operation has a result, whose parameters apart from those for payloads are one for each declared key, made
of the declaration that counts for it. -/
def Declared.Merges (declared : Declared) (bound : Nat) (scope : Scope) (draft : Draft) : Prop :=
  ∃ operation draft', lowerOperation bound scope declared draft = .ok (operation, draft') ∧
    declared.placedKeys.Nodup ∧
      List.Forall₂ (fun key parameter => ∃ source, declared.governing? key = some source ∧
          LoweredBetween (· ≤ ·) bound scope (Text.capitalize declared.id) draft draft' source parameter)
        declared.placedKeys (operation.parameters.filter fun parameter => !parameter.isPayload)

theorem merges_of_run {declared : Declared} {bound : Nat} {scope : Scope} {draft draft' : Draft}
    {operation : Operation} (shared : (declared.shared.map parameterKey).Nodup)
    (own : (declared.own.map parameterKey).Nodup)
    (run : lowerOperation bound scope declared draft = .ok (operation, draft')) :
    declared.Merges bound scope draft := by
  refine ⟨operation, draft', run, nodup_placedKeys declared, ?_⟩
  obtain ⟨parameters, body, responses, a, b, one, two, three, -, same, -⟩ := lowerOperation_run run
  have each := (lowerParameters_run composes_le (fun _ _ _ _ _ _ _ _ _ run => typeOf_le run) one).2
  have kept : KeepsAsked (· ≤ ·) scope declared :=
    ⟨composes_le, fun _ _ _ _ _ _ _ _ run => typeOf_le run, fun _ _ _ _ _ _ run => memberProperties_le run⟩
  have le : a ≤ draft' := le_trans (lowerRequest_keeps kept two) (lowerResponses_keeps kept three)
  rw [same, filter_not_isPayload one two, placedKeys_eq, List.forall₂_map_left_iff]
  have counts : ∀ source ∈ (mergeParameters declared.shared declared.own).filter
      (fun parameter => (location? parameter.location).isSome),
      declared.governing? (parameterKey source) = some source :=
    fun source mem => governing?_of_mem shared own (List.mem_of_mem_filter mem)
  refine ((List.forall₂_and_left _ _).2 ⟨counts, each⟩).imp ?_
  rintro source parameter ⟨counts, made⟩
  obtain ⟨before, after, start, typed, finish⟩ := made.type
  exact ⟨source, counts, { made with type := ⟨before, after, start, typed, le_trans finish le⟩ }⟩

/-- Parameters that are declared twice for an operation and its path are parameters once, where they come
first and as the operation declares them. An operation that asks for no endless schema has a result. -/
theorem parameters_merged {declared : Declared} (shared : (declared.shared.map parameterKey).Nodup)
    (own : (declared.own.map parameterKey).Nodup) (draft : Draft) :
    (∀ bound scope,
      lowerOperation bound scope declared draft = .error .unfinished ∨ declared.Merges bound scope draft) ∧
    ∀ doc, Bounded doc → declared ∈ declaredOperations doc →
      (∀ schema, AsksFor declared schema → ¬ Endless doc.components (.type schema 0)) →
        declared.Merges (callBound doc) ⟨doc.components, []⟩ draft := by
  have distinct : declared.Distinct := ⟨keys_nodup_iff.1 shared, keys_nodup_iff.1 own⟩
  have merges : ∀ bound scope,
      lowerOperation bound scope declared draft = .error .unfinished ∨ declared.Merges bound scope draft := by
    intro bound scope
    exact (lowerOperation_cases distinct draft).imp_right fun ⟨_, _, run, _⟩ => merges_of_run shared own run
  refine ⟨merges, fun doc bounded listed finite => ?_⟩
  exact (merges _ _).resolve_left (lowerOperation_ne_unfinished bounded listed distinct finite draft)

/-- The page is declared for the path and for the operation, and the file is sent in a way of its own. -/
def pagedPets : Declared where
  path := "/pets/{id}"
  shared := [parameterAt "query" "page" none, parameterAt "header" "tenant" none]
  method := .get
  operation := operationWith "listPets"
    [parameterAt "path" "id" none, { parameterAt "query" "page" none with required := true },
      parameterAt "formData" "file" none]

/-- A document with one operation, for paged pets. -/
def pagedShop : OpenApi.Document where
  openapi := none
  info := none
  paths := [("/pets/{id}", { reading [] [] with get := some pagedPets.operation, parameters := some pagedPets.shared })]
  schemas := none
  tags := []
  source := none

theorem pagedPets_finite {schema : Schema} (asks : AsksFor pagedPets schema) :
    ¬ Endless [] (.type schema 0) := by
  have untyped : ∀ parameter ∈ mergeParameters pagedPets.shared pagedPets.own, parameter.schema = none := by
    decide
  have plain : ¬ Endless [] (.type .empty 0) := by
    intro endless
    have settled : plan [] .empty 0 = .settled .any := rfl
    obtain ⟨next, needs, -⟩ := endless.exists_next
    cases needs with
    | onward planned => cases settled.symm.trans planned
    | made planned => cases settled.symm.trans planned
  cases asks with
  | parameter mem =>
    rw [untyped _ mem]
    exact plain
  | field sent => cases sent
  | body sent => cases sent
  | response mem => cases mem

theorem pagedPets_merged :
    ∃ operation draft', lowerOperation (callBound pagedShop) ⟨pagedShop.components, []⟩ pagedPets ⟨[], []⟩ =
        .ok (operation, draft') ∧
      operation.parameters.map (fun parameter => (parameter.location, parameter.wireName, parameter.required)) =
        [(.query, "page", true), (.header, "tenant", false), (.path, "id", true)] ∧
      List.Forall₂ (fun key parameter => ∃ source, pagedPets.governing? key = some source ∧
          LoweredBetween (· ≤ ·) (callBound pagedShop) ⟨pagedShop.components, []⟩ "ListPets" ⟨[], []⟩ draft' source
            parameter)
        [("query", "page"), ("header", "tenant"), ("path", "id")]
        (operation.parameters.filter fun parameter => !parameter.isPayload) := by
  have seen : (lowerOperation (callBound pagedShop) ⟨pagedShop.components, []⟩ pagedPets ⟨[], []⟩).toOption.map
      (fun result => result.1.parameters.map fun parameter =>
        (parameter.location, parameter.wireName, parameter.required)) =
        some [(.query, "page", true), (.header, "tenant", false), (.path, "id", true)] := by
    rfl
  obtain ⟨⟨operation, draft'⟩, run, parameters⟩ := exists_of_toOption_map seen
  have keys : pagedPets.placedKeys = [("query", "page"), ("header", "tenant"), ("path", "id")] := by
    rfl
  have owner : Text.capitalize pagedPets.id = "ListPets" := by rfl
  have listed : pagedPets ∈ declaredOperations pagedShop := List.mem_cons_self
  obtain ⟨operation', draft'', run', -, each⟩ :=
    (@parameters_merged pagedPets (by decide) (by decide) ⟨[], []⟩).2 pagedShop
      (List.forall_mem_nil _) listed fun _ asks => pagedPets_finite asks
  rw [run] at run'
  cases run'
  rw [keys, owner] at each
  exact ⟨operation, draft', run, parameters, each⟩

end OpenApiCodegen.Lowering
