import OpenApiCodegen.Proofs.Lowering.Endings
import OpenApiCodegen.Proofs.Text.Casing

namespace OpenApiCodegen.Lowering

open Api
open OpenApi (Schema SchemaKind Document NormalDocument Method)

def FirstRepeat (parameters : List OpenApi.Parameter) (parameter : OpenApi.Parameter) : Prop :=
  ∃ before after, parameters = before ++ parameter :: after ∧ (before.map parameterKey).Nodup ∧
    parameterKey parameter ∈ before.map parameterKey

abbrev Declared.own (declared : Declared) : List OpenApi.Parameter :=
  declared.operation.parameters.getD []

def Faulty (earlier : List Declared) (declared : Declared) : Prop :=
  ¬ (declared.shared.map parameterKey).Nodup ∨ ¬ (declared.own.map parameterKey).Nodup ∨
    declared.id ∈ earlier.map Declared.id

/-- What is reported about an operation. Parameters of the path are looked at first, the name last. -/
inductive FaultOf (earlier : List Declared) (declared : Declared) : GenerationError → Prop
  | shared {parameter : OpenApi.Parameter} :
      FirstRepeat declared.shared parameter →
        FaultOf earlier declared (.duplicateParameter declared.id parameter.location parameter.name)
  | own {parameter : OpenApi.Parameter} :
      (declared.shared.map parameterKey).Nodup → FirstRepeat declared.own parameter →
        FaultOf earlier declared (.duplicateParameter declared.id parameter.location parameter.name)
  | name :
      (declared.shared.map parameterKey).Nodup → (declared.own.map parameterKey).Nodup →
        declared.id ∈ earlier.map Declared.id →
          FaultOf earlier declared (.duplicateOperation declared.id)

def Faultless (past all : List Declared) : Prop :=
  ∀ earlier declared later, all = earlier ++ declared :: later → ¬ Faulty (past ++ earlier) declared

/-- The first operation with a fault has this one, after those that are past. -/
def FirstFault (past all : List Declared) (error : GenerationError) : Prop :=
  ∃ earlier declared later, all = earlier ++ declared :: later ∧ Faultless past earlier ∧
    FaultOf (past ++ earlier) declared error

section Keys

variable {seen : List (String × String)} {parameters : List OpenApi.Parameter}
  {parameter : OpenApi.Parameter}

theorem firstRepeated?_eq_none_iff :
    firstRepeated? seen parameters = none ↔
      (parameters.map parameterKey).Nodup ∧ ∀ key ∈ parameters.map parameterKey, key ∉ seen := by
  induction parameters generalizing seen with
  | nil => simp [firstRepeated?]
  | cons first rest ih =>
    by_cases known : parameterKey first ∈ seen
    · simp [firstRepeated?, known]
    · simp only [firstRepeated?, List.contains_iff_mem, known, if_false, ih, List.map_cons,
        List.nodup_cons, List.forall_mem_cons, not_false_eq_true, true_and]
      constructor
      · rintro ⟨distinct, fresh⟩
        have apart : ∀ key ∈ rest.map parameterKey, key ≠ parameterKey first ∧ key ∉ seen :=
          fun key mem => not_or.1 (mt List.mem_cons.2 (fresh key mem))
        exact ⟨⟨fun mem => (apart _ mem).1 rfl, distinct⟩, fun key mem => (apart key mem).2⟩
      · rintro ⟨⟨apart, distinct⟩, fresh⟩
        refine ⟨distinct, fun key mem again => ?_⟩
        rcases List.mem_cons.1 again with rfl | again
        · exact apart mem
        · exact fresh key mem again

theorem firstRepeated?_eq_some_iff :
    firstRepeated? seen parameters = some parameter ↔
      ∃ before after, parameters = before ++ parameter :: after ∧ firstRepeated? seen before = none ∧
        (parameterKey parameter ∈ seen ∨ parameterKey parameter ∈ before.map parameterKey) := by
  induction parameters generalizing seen with
  | nil => simp [firstRepeated?]
  | cons first rest ih =>
    by_cases known : parameterKey first ∈ seen
    · simp only [firstRepeated?, List.contains_iff_mem, known, if_true, Option.some_inj]
      constructor
      · rintro rfl
        exact ⟨[], rest, rfl, rfl, .inl known⟩
      · rintro ⟨before, after, split, none, -⟩
        cases before with
        | nil => exact (List.cons.inj split).1
        | cons other before =>
          obtain ⟨rfl, -⟩ := List.cons.inj split
          simp [firstRepeated?, known] at none
    · simp only [firstRepeated?, List.contains_iff_mem, known, if_false, ih]
      constructor
      · rintro ⟨before, after, rfl, none, again⟩
        refine ⟨first :: before, after, rfl, by simpa [firstRepeated?, known] using none, ?_⟩
        simp only [List.mem_cons, List.map_cons] at again ⊢
        tauto
      · rintro ⟨before, after, split, none, again⟩
        cases before with
        | nil =>
          obtain ⟨rfl, -⟩ := List.cons.inj split
          simp [known] at again
        | cons other before =>
          obtain ⟨rfl, rfl⟩ := List.cons.inj split
          refine ⟨before, after, rfl, by simpa [firstRepeated?, known] using none, ?_⟩
          simp only [List.mem_cons, List.map_cons] at again ⊢
          tauto

theorem keys_nodup_iff : (parameters.map parameterKey).Nodup ↔ firstRepeated? [] parameters = none := by
  simp [firstRepeated?_eq_none_iff]

theorem firstRepeat_iff : FirstRepeat parameters parameter ↔
    firstRepeated? [] parameters = some parameter := by
  simp [FirstRepeat, firstRepeated?_eq_some_iff, keys_nodup_iff]

end Keys

section Faults

variable {past rest : List Declared} {declared : Declared} {error : GenerationError}

theorem exists_faultOf (faulty : Faulty past declared) : ∃ error, FaultOf past declared error := by
  by_cases shared : (declared.shared.map parameterKey).Nodup
  · by_cases own : (declared.own.map parameterKey).Nodup
    · have known : declared.id ∈ past.map Declared.id := by
        simpa [Faulty, shared, own] using faulty
      exact ⟨_, .name shared own known⟩
    · obtain ⟨parameter, found⟩ := Option.ne_none_iff_exists'.1 (mt keys_nodup_iff.2 own)
      exact ⟨_, .own shared (firstRepeat_iff.2 found)⟩
  · obtain ⟨parameter, found⟩ := Option.ne_none_iff_exists'.1 (mt keys_nodup_iff.2 shared)
    exact ⟨_, .shared (firstRepeat_iff.2 found)⟩

theorem FirstRepeat.not_nodup {parameters : List OpenApi.Parameter} {parameter : OpenApi.Parameter}
    (repeats : FirstRepeat parameters parameter) : ¬ (parameters.map parameterKey).Nodup := by
  rw [keys_nodup_iff, firstRepeat_iff.1 repeats]
  nofun

theorem FaultOf.faulty (fault : FaultOf past declared error) : Faulty past declared := by
  cases fault with
  | shared repeats => exact .inl repeats.not_nodup
  | own _ repeats => exact .inr (.inl repeats.not_nodup)
  | name _ _ known => exact .inr (.inr known)

theorem distinct_of_not_faulty (sound : ¬ Faulty past declared) :
    declared.Distinct ∧ declared.id ∉ past.map Declared.id := by
  obtain ⟨shared, own, fresh⟩ := by simpa only [Faulty, not_or, not_not] using sound
  exact ⟨⟨keys_nodup_iff.1 shared, keys_nodup_iff.1 own⟩, fresh⟩

theorem faultless_cons : Faultless past (declared :: rest) ↔
    ¬ Faulty past declared ∧ Faultless (past ++ [declared]) rest := by
  constructor
  · intro sound
    refine ⟨by simpa using sound [] declared rest rfl, ?_⟩
    rintro earlier other later rfl
    simpa using sound (declared :: earlier) other later rfl
  · rintro ⟨here, sound⟩ earlier other later split
    cases earlier with
    | nil =>
      obtain ⟨rfl, -⟩ := List.cons.inj split
      simpa using here
    | cons first earlier =>
      obtain ⟨rfl, rfl⟩ := List.cons.inj split
      simpa using sound earlier other later rfl

theorem firstFault_cons : FirstFault past (declared :: rest) error ↔
    FaultOf past declared error ∨
      ¬ Faulty past declared ∧ FirstFault (past ++ [declared]) rest error := by
  constructor
  · rintro ⟨earlier, other, later, split, sound, fault⟩
    cases earlier with
    | nil =>
      obtain ⟨rfl, -⟩ := List.cons.inj split
      exact .inl (by simpa using fault)
    | cons first earlier =>
      obtain ⟨rfl, rfl⟩ := List.cons.inj split
      obtain ⟨here, sound⟩ := faultless_cons.1 sound
      exact .inr ⟨here, earlier, other, later, rfl, sound, by simpa using fault⟩
  · rintro (fault | ⟨here, earlier, other, later, rfl, sound, fault⟩)
    · refine ⟨[], declared, rest, rfl, ?_, by simpa using fault⟩
      rintro earlier other later split
      simp at split
    · exact ⟨declared :: earlier, other, later, rfl, faultless_cons.2 ⟨here, sound⟩, by simpa using fault⟩

theorem faultless_or_firstFault (past all : List Declared) :
    Faultless past all ∨ ∃ error, FirstFault past all error := by
  induction all generalizing past with
  | nil => exact .inl fun earlier declared later split => by simp at split
  | cons declared rest ih =>
    simp only [faultless_cons, firstFault_cons]
    by_cases faulty : Faulty past declared
    · obtain ⟨error, fault⟩ := exists_faultOf faulty
      exact .inr ⟨error, .inl fault⟩
    · rcases ih (past ++ [declared]) with sound | ⟨error, fault⟩
      · exact .inl ⟨faulty, sound⟩
      · exact .inr ⟨error, .inr ⟨faulty, fault⟩⟩

theorem nodup_of_faultless (sound : Faultless past rest) :
    (rest.map Declared.id).Nodup ∧ ∀ id ∈ rest.map Declared.id, id ∉ past.map Declared.id := by
  induction rest generalizing past with
  | nil => simp
  | cons declared rest ih =>
    obtain ⟨here, sound⟩ := faultless_cons.1 sound
    obtain ⟨-, fresh⟩ := distinct_of_not_faulty here
    obtain ⟨distinct, apart⟩ := ih sound
    simp only [List.map_append, List.map_cons, List.map_nil, List.mem_append, List.mem_singleton,
      not_or] at apart
    simp only [List.map_cons, List.nodup_cons, List.forall_mem_cons]
    exact ⟨⟨fun mem => (apart _ mem).2 rfl, distinct⟩, fresh, fun id mem => (apart id mem).1⟩

end Faults

section Names

theorem pathName_ne_empty (method : Method) (path : String) : pathName method.name path ≠ "" := by
  -- the path may have nothing to offer, the method always has letters
  obtain ⟨c, mem, alphanumeric⟩ : ∃ c ∈ method.name.toList, Text.isAlphanumeric c = true := by
    cases method <;> exact ⟨_, List.mem_cons_self, by decide⟩
  unfold pathName Text.camelCase
  rw [ne_eq, String.ofList_eq_empty_iff]
  apply Text.camelChars_ne_nil _ alphanumeric
  simp only [String.toList_append, List.mem_append]
  exact .inl (.inl mem)

theorem Declared.id_ne_empty (declared : Declared) : declared.id ≠ "" := by
  unfold Declared.id operationName
  cases written : declared.operation.operationId.map Text.camelCase with
  | none => exact pathName_ne_empty _ _
  | some name =>
    by_cases empty : name.isEmpty
    · simpa [empty] using pathName_ne_empty _ _
    · simpa [empty] using fun same => empty (String.isEmpty_iff.2 same)

end Names

structure LoweredFrom (declared : Declared) (operation : Operation) : Prop where
  id : operation.id = declared.id
  method : operation.method = declared.method
  path : operation.path = declared.path
  summary : operation.summary = declared.operation.summary
  description : operation.description = declared.operation.description
  deprecated : operation.deprecated = declared.operation.deprecated
  responses : operation.responses.map (fun response => (response.status, response.description)) =
    declared.operation.responses.map fun entry => (entry.1, entry.2.description)

def lowerAfter (bound : Nat) (scope : Scope) (past all : List Declared) : LowerOperation (List Operation) :=
  lowerOperations bound scope (past.map Declared.id).reverse all

section Runs

variable {bound : Nat} {scope : Scope} {past all rest : List Declared} {declared : Declared}
  {operation : Operation} {error : GenerationError} {draft draft' : Draft}

theorem statuses_of_run {owner : String} {entries : List (String × OpenApi.Response)}
    {responses : List Response}
    (run : entries.mapM (lowerResponse bound scope owner) draft = some (responses, draft')) :
    responses.map (fun response => (response.status, response.description)) =
      entries.map fun entry => (entry.1, entry.2.description) := by
  induction entries generalizing draft responses with
  | nil =>
    obtain ⟨rfl, -⟩ := Lower.pure_eq_some.1 run
    rfl
  | cons entry rest ih =>
    simp only [List.mapM_cons, Lower.bind_eq_some, Lower.pure_eq_some, lowerResponse_eq,
      Lower.map_eq_some] at run
    obtain ⟨_, middle, ⟨body, -, rfl⟩, others, _, later, rfl, rfl⟩ := run
    rw [List.map_cons, List.map_cons, ih later]

theorem loweredFrom_of_run (distinct : declared.Distinct)
    (run : lowerOperation bound scope declared draft = .ok (operation, draft')) :
    LoweredFrom declared operation := by
  rw [lowerOperation_of_distinct distinct] at run
  simp only [lowerChecked, LowerOperation.bind_eq_ok, LowerOperation.pure_eq_ok,
    LowerOperation.ending_eq_ok] at run
  obtain ⟨parameters, a, -, body, b, -, responses, c, answers, rfl, -⟩ := run
  exact ⟨rfl, rfl, rfl, rfl, rfl, rfl, statuses_of_run answers⟩

theorem lowerAfter_cons :
    lowerAfter bound scope past (declared :: rest) draft =
      (lowerOperation bound scope declared draft).bind fun first =>
        if first.1.id ∈ past.map Declared.id then .error (.duplicateOperation first.1.id)
        else (lowerOperations bound scope (first.1.id :: (past.map Declared.id).reverse) rest first.2).map
          fun result => (first.1 :: result.1, result.2) := by
  rw [lowerAfter, lowerOperations, LowerOperation.bind_eq]
  congr 1
  funext first
  by_cases known : first.1.id ∈ past.map Declared.id
  · rw [if_pos known, if_pos (by simpa using known)]
    rfl
  · rw [if_neg known, if_neg (by simpa using known), LowerOperation.bind_eq]
    cases lowerOperations bound scope (first.1.id :: (past.map Declared.id).reverse) rest first.2 <;> rfl

theorem lowerAfter_of_not_faulty (sound : ¬ Faulty past declared) (draft : Draft) :
    lowerAfter bound scope past (declared :: rest) draft = .error .unfinished ∨
      ∃ operation draft', LoweredFrom declared operation ∧
        lowerAfter bound scope past (declared :: rest) draft =
          (lowerAfter bound scope (past ++ [declared]) rest draft').map
            fun result => (operation :: result.1, result.2) := by
  obtain ⟨distinct, fresh⟩ := distinct_of_not_faulty sound
  rw [lowerAfter_cons]
  rcases lowerOperation_cases distinct draft with stuck | ⟨operation, draft', run, same⟩
  · left
    rw [stuck]
    rfl
  · right
    have ids : ((past ++ [declared]).map Declared.id).reverse =
        operation.id :: (past.map Declared.id).reverse := by
      simp [same]
    refine ⟨operation, draft', loweredFrom_of_run distinct run, ?_⟩
    rw [run, lowerAfter, ids]
    exact if_neg (same ▸ fresh)

theorem lowerAfter_of_faultOf (fault : FaultOf past declared error) (draft : Draft) :
    lowerAfter bound scope past (declared :: rest) draft = .error .unfinished ∨
      lowerAfter bound scope past (declared :: rest) draft = .error error := by
  rw [lowerAfter_cons]
  cases fault with
  | shared repeats =>
    right
    rw [lowerOperation_eq, checkParameters, firstRepeat_iff.1 repeats]
    rfl
  | own distinct repeats =>
    right
    rw [lowerOperation_eq, checkParameters_of_none (keys_nodup_iff.1 distinct), pure_bind,
      checkParameters, firstRepeat_iff.1 repeats]
    rfl
  | name shared own known =>
    have distinct : declared.Distinct := ⟨keys_nodup_iff.1 shared, keys_nodup_iff.1 own⟩
    rcases lowerOperation_cases distinct draft with stuck | ⟨operation, draft', run, same⟩
    · left
      rw [stuck]
      rfl
    · right
      rw [run, ← same]
      exact if_pos (same ▸ known)

theorem lowerAfter_of_firstFault (first : FirstFault past all error) (draft : Draft) :
    lowerAfter bound scope past all draft = .error .unfinished ∨
      lowerAfter bound scope past all draft = .error error := by
  induction all generalizing past draft with
  | nil =>
    obtain ⟨earlier, declared, later, split, -⟩ := first
    simp at split
  | cons declared rest ih =>
    rcases firstFault_cons.1 first with fault | ⟨sound, first⟩
    · exact lowerAfter_of_faultOf fault draft
    · rcases lowerAfter_of_not_faulty sound draft with stuck | ⟨operation, draft', -, run⟩
      · exact .inl stuck
      · rw [run]
        rcases ih first draft' with stuck | fails
        · left
          rw [stuck]
          rfl
        · right
          rw [fails]
          rfl

theorem lowerAfter_of_faultless (faultless : Faultless past all) (draft : Draft) :
    lowerAfter bound scope past all draft = .error .unfinished ∨
      ∃ operations draft', lowerAfter bound scope past all draft = .ok (operations, draft') ∧
        List.Forall₂ LoweredFrom all operations := by
  induction all generalizing past draft with
  | nil => exact .inr ⟨[], draft, rfl, .nil⟩
  | cons declared rest ih =>
    obtain ⟨sound, faultless⟩ := faultless_cons.1 faultless
    rcases lowerAfter_of_not_faulty sound draft with stuck | ⟨operation, draft', made, run⟩
    · exact .inl stuck
    · rw [run]
      rcases ih faultless draft' with stuck | ⟨operations, last, run, each⟩
      · left
        rw [stuck]
        rfl
      · right
        refine ⟨operation :: operations, last, ?_, .cons made each⟩
        rw [run]
        rfl

end Runs

section Documents

/-- The declared operations in the order of the paths, and of methods within a path. -/
def visited (doc : Document) : List Declared :=
  doc.paths.flatMap fun (path, item) =>
    [(Method.get, item.get), (.post, item.post), (.put, item.put), (.patch, item.patch),
      (.delete, item.delete)].filterMap fun (method, operation) =>
        operation.map fun operation => ⟨path, item.parameters.getD [], method, operation⟩

theorem declaredOperations_eq (doc : Document) : declaredOperations doc = visited doc := by
  unfold declaredOperations visited OpenApi.Document.operations
  rw [List.map_flatMap]
  congr 1
  funext ⟨path, item⟩
  dsimp only
  have slots : [(Method.get, item.get), (.post, item.post), (.put, item.put), (.patch, item.patch),
      (.delete, item.delete)] = Method.all.map fun method => (method, item.operation? method) := rfl
  rw [slots, OpenApi.PathItem.operations, List.map_map, List.map_filterMap, List.filterMap_map]
  congr 1
  funext method
  simp only [Option.map_map, Function.comp_apply]
  rfl

/-- The result for operations that are visited in this order. -/
structure Outcome (all : List Declared) (result : Except GenerationError Api) : Prop where
  fails : (∃ error, result = .error error) ↔
    ∃ earlier declared later, all = earlier ++ declared :: later ∧ Faulty earlier declared
  first : ∀ error, result = .error error ↔ FirstFault [] all error
  complete : ∀ api, result = .ok api → List.Forall₂ LoweredFrom all api.operations ∧
    (api.operations.map (·.id)).Nodup ∧ ∀ operation ∈ api.operations, operation.id ≠ ""

variable {doc : NormalDocument} {bound : Nat}

theorem lowerWithin_eq (bound : Nat) (doc : NormalDocument) :
    lowerWithin bound doc = (lowerAll bound doc.document (Draft.start doc.document)).map fun result =>
      ⟨doc.document.info.bind (·.title), result.2.models.reverse, result.1⟩ :=
  rfl

theorem lowerWithin_cases (bound : Nat) (doc : NormalDocument) :
    lowerWithin bound doc = .error .unfinished ∨ ∃ draft, lowerWithin bound doc =
      (lowerAfter bound ⟨doc.document.components, []⟩ [] (visited doc.document) draft).map
        fun result => ⟨doc.document.info.bind (·.title), result.2.models.reverse, result.1⟩ := by
  rw [lowerWithin_eq, ← declaredOperations_eq, lowerAll_eq, LowerOperation.bind_eq, ending]
  cases (lowerComponents bound ⟨doc.document.components, []⟩).work (Draft.start doc.document) with
  | none => exact .inl rfl
  | some result => exact .inr ⟨result.2, rfl⟩

theorem lowerWithin_of_firstFault {error : GenerationError}
    (ends : lowerWithin bound doc ≠ .error .unfinished)
    (first : FirstFault [] (visited doc.document) error) : lowerWithin bound doc = .error error := by
  rcases lowerWithin_cases bound doc with stuck | ⟨draft, whole⟩
  · exact absurd stuck ends
  · rcases lowerAfter_of_firstFault first draft with stuck | run
    · rw [whole, stuck] at ends
      exact absurd rfl ends
    · rw [whole, run]
      rfl

theorem lowerWithin_of_faultless (ends : lowerWithin bound doc ≠ .error .unfinished)
    (faultless : Faultless [] (visited doc.document)) :
    ∃ api, lowerWithin bound doc = .ok api ∧ List.Forall₂ LoweredFrom (visited doc.document) api.operations := by
  rcases lowerWithin_cases bound doc with stuck | ⟨draft, whole⟩
  · exact absurd stuck ends
  · rcases lowerAfter_of_faultless faultless draft with stuck | ⟨operations, last, run, each⟩
    · rw [whole, stuck] at ends
      exact absurd rfl ends
    · rw [whole, run]
      exact ⟨_, rfl, each⟩

theorem ids_of_loweredFrom {all : List Declared} {operations : List Operation}
    (each : List.Forall₂ LoweredFrom all operations) : operations.map (·.id) = all.map Declared.id := by
  induction each with
  | nil => rfl
  | cons made _ ih => rw [List.map_cons, List.map_cons, made.id, ih]

theorem outcome_of_ends (ends : lowerWithin bound doc ≠ .error .unfinished) :
    Outcome (visited doc.document) (lowerWithin bound doc) := by
  rcases faultless_or_firstFault [] (visited doc.document) with faultless | ⟨error, first⟩
  · obtain ⟨api, run, each⟩ := lowerWithin_of_faultless ends faultless
    rw [run]
    constructor
    · constructor
      · rintro ⟨error, fails⟩
        cases fails
      · rintro ⟨earlier, declared, later, split, faulty⟩
        exact absurd faulty (faultless earlier declared later split)
    · intro error
      constructor
      · intro fails
        cases fails
      · intro first
        have fails := lowerWithin_of_firstFault ends first
        rw [run] at fails
        cases fails
    · rintro _ ⟨⟩
      have ids := ids_of_loweredFrom each
      refine ⟨each, ids ▸ (nodup_of_faultless faultless).1, fun operation mem => ?_⟩
      obtain ⟨declared, -, made⟩ := exists_of_forall₂_right each mem
      exact made.id ▸ declared.id_ne_empty
  · have run := lowerWithin_of_firstFault ends first
    rw [run]
    constructor
    · obtain ⟨earlier, declared, later, split, -, fault⟩ := first
      exact ⟨fun _ => ⟨earlier, declared, later, split, fault.faulty⟩, fun _ => ⟨error, rfl⟩⟩
    · intro error'
      constructor
      · rintro ⟨⟩
        exact first
      · intro first'
        rw [← run, lowerWithin_of_firstFault ends first']
    · intro api done
      cases done

end Documents

theorem typeOf_of_make {n depth : Nat} {scope : Scope} {schema : Schema} {owner hint : String}
    {origin : Origin} {kind : SchemaKind} {draft draft' : Draft} {type : DataType}
    (planned : plan scope.components schema depth = .make kind)
    (run : typeOf n scope schema owner hint origin depth draft = some (type, draft')) :
    ∃ fewer name model middle, name ∉ draft.taken ∧
      buildOf fewer scope kind name schema origin (depth + 1) (draft.reserve name) =
          some (.ok model, middle) ∧
        type = .model name ∧ model.name = name ∧ draft' = middle.push model := by
  cases n with
  | zero => cases run
  | succ n =>
    rw [typeOf_succ, planned] at run
    obtain ⟨name, model, middle, rfl, made, rfl, rfl⟩ := Plan.carryOut_make_run run
    have named := name_of_modelOf made
    rw [← work_buildOf, Build.work_eq_some] at made
    exact ⟨n, _, model, middle, freshName_not_mem _ _, made, rfl, named, rfl⟩

/-- When lowering ends, it fails exactly if an operation has a fault, with that of the first one.
Otherwise it makes one operation of each. Types ask for models as their plans say, nothing is at fault
in making them, and so the type is that of the model. -/
theorem lowering_outcome {bound : Nat} {doc : NormalDocument}
    (ends : lowerWithin bound doc ≠ .error .unfinished) :
    Outcome (visited doc.document) (lowerWithin bound doc) ∧
      (∀ {n scope schema owner hint origin depth},
        typeOf (n + 1) scope schema owner hint origin depth =
          (plan scope.components schema depth).carryOut n scope schema owner hint origin depth) ∧
        (∀ {n scope kind name schema origin depth draft error draft'},
          buildOf n scope kind name schema origin depth draft ≠ some (.error error, draft')) ∧
          ∀ {n scope schema owner hint origin depth kind draft type draft'},
            plan scope.components schema depth = .make kind →
              typeOf n scope schema owner hint origin depth draft = some (type, draft') →
                ∃ fewer name model middle, name ∉ draft.taken ∧
                  buildOf fewer scope kind name schema origin (depth + 1) (draft.reserve name) =
                      some (.ok model, middle) ∧
                    type = .model name ∧ model.name = name ∧ draft' = middle.push model :=
  ⟨outcome_of_ends ends, typeOf_succ, sound_buildOf _ _ _, typeOf_of_make⟩

def operationWith (id : String) (parameters : List OpenApi.Parameter) : OpenApi.Operation where
  operationId := some id
  summary := none
  description := none
  deprecated := false
  tags := []
  parameters := some parameters
  requestBody := none
  responses := []

/-- Pets are listed, and another operation is declared after that. -/
def petPaths (second : OpenApi.Operation) : NormalDocument :=
  .of
    { openapi := none
      info := none
      paths :=
        [("/pets",
          { get := some (operationWith "list-pets" [])
            post := some second
            put := none
            patch := none
            delete := none
            parameters := none })]
      schemas := none
      tags := []
      source := none }

def failure? (result : Except GenerationError Api) : Option GenerationError :=
  match result with
  | .error error => some error
  | .ok _ => none

theorem eq_error_of_failure? {result : Except GenerationError Api} {error : GenerationError}
    (seen : failure? result = some error) : result = .error error := by
  cases result with
  | error other => exact congrArg Except.error (Option.some.inj seen)
  | ok api => cases seen

/-- A name that is equal only when it is written as an identifier is reported, unless a parameter is
repeated as well. -/
theorem petPaths_outcomes :
    FirstFault [] (visited (petPaths (operationWith "listPets" [])).document)
        (.duplicateOperation "listPets") ∧
      FirstFault [] (visited (petPaths (operationWith "listPets"
          [parameterAt "query" "page" none, parameterAt "query" "page" none])).document)
            (.duplicateParameter "listPets" "query" "page") ∧
      ∃ api, lower (petPaths (operationWith "addPet" [])) = .ok api ∧
        List.Forall₂ LoweredFrom (visited (petPaths (operationWith "addPet" [])).document)
          api.operations := by
  have reported : ∀ {doc error}, failure? (lower doc) = some error → error ≠ .unfinished →
      FirstFault [] (visited doc.document) error := by
    intro doc error seen finished
    have run := eq_error_of_failure? seen
    have ends : lower doc ≠ .error .unfinished := by
      rw [run]
      simpa using finished
    exact ((lowering_outcome ends).1.first error).1 run
  refine ⟨reported (by rfl) nofun, reported (by rfl) nofun, ?_⟩
  obtain ⟨api, run⟩ : ∃ api, lower (petPaths (operationWith "addPet" [])) = .ok api :=
    exists_of_toOption (by rfl)
  have ends : lower (petPaths (operationWith "addPet" [])) ≠ .error .unfinished := by
    rw [run]
    nofun
  exact ⟨api, run, ((lowering_outcome ends).1.complete api run).1⟩

end OpenApiCodegen.Lowering
