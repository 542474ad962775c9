import OpenApiCodegen.Lowering.Operations
import OpenApiCodegen.Proofs.List.Placing
import OpenApiCodegen.Proofs.Lowering.History

namespace OpenApiCodegen.Lowering

open Api
open OpenApi (Schema Document NormalDocument componentName)

namespace LowerOperation

variable {α β : Type} {draft draft' : Draft}

@[simp] theorem bind_eq_ok {work : LowerOperation α} {next : α → LowerOperation β} {b : β} :
    (work >>= next) draft = .ok (b, draft') ↔
      ∃ a middle, work draft = .ok (a, middle) ∧ next a middle = .ok (b, draft') := by
  have unfolded : (work >>= next) draft = (work draft).bind fun p => next p.1 p.2 := rfl
  rw [unfolded]
  rcases work draft with error | ⟨a, middle⟩ <;> simp [Except.bind, and_assoc]

@[simp] theorem pure_eq_ok {a b : α} :
    (pure a : LowerOperation α) draft = .ok (b, draft') ↔ a = b ∧ draft = draft' := by
  have unfolded : (pure a : LowerOperation α) draft = .ok (a, draft) := rfl
  simp [unfolded]

@[simp] theorem ending_eq_ok {work : Lower α} {a : α} :
    ending work draft = .ok (a, draft') ↔ work draft = some (a, draft') := by
  unfold ending
  cases work draft <;> simp

@[simp] theorem fault_ne_ok {error : GenerationError} {result : α × Draft} :
    (fault error : LowerOperation α) draft = .ok result ↔ False := by
  simp [fault]

end LowerOperation

def Ensures {α : Type} (P : Draft → Prop) (work : Lower α) (Q : Draft → α → Prop) : Prop :=
  ∀ draft a draft', P draft → work draft = some (a, draft') → draft ≤ draft' ∧ P draft' ∧ Q draft' a

def Lasting {α : Type} (Q : Draft → α → Prop) : Prop :=
  ∀ ⦃draft draft' a⦄, draft ≤ draft' → Q draft a → Q draft' a

theorem Lasting.forall {α : Type} {Q : Draft → α → Prop} (lasting : Lasting Q) :
    Lasting fun draft (items : List α) => ∀ item ∈ items, Q draft item :=
  fun _ _ _ le all item mem => lasting le (all item mem)

namespace Ensures

variable {α β : Type} {P : Draft → Prop} {work : Lower α} {Q : Draft → α → Prop}

theorem pure {a : α} (holds : ∀ draft, Q draft a) : Ensures P (pure a) Q := by
  intro draft b draft' kept run
  obtain ⟨rfl, rfl⟩ := Lower.pure_eq_some.1 run
  exact ⟨le_refl draft, kept, holds draft⟩

theorem bind {next : α → Lower β} {Q' : Draft → β → Prop} (first : Ensures P work Q)
    (lasting : Lasting Q) (second : ∀ a, Ensures P (next a) fun draft b => Q draft a → Q' draft b) :
    Ensures P (work >>= next) Q' := by
  intro draft b draft' kept run
  obtain ⟨a, middle, one, two⟩ := Lower.bind_eq_some.1 run
  obtain ⟨le, kept, held⟩ := first _ _ _ kept one
  obtain ⟨le', kept, holds⟩ := second a _ _ _ kept two
  exact ⟨le_trans le le', kept, holds (lasting le' held)⟩

theorem map {f : α → β} {Q' : Draft → β → Prop} (first : Ensures P work Q)
    (holds : ∀ draft a, Q draft a → Q' draft (f a)) : Ensures P (f <$> work) Q' := by
  intro draft b draft' kept run
  obtain ⟨a, one, rfl⟩ := Lower.map_eq_some.1 run
  obtain ⟨le, kept, held⟩ := first _ _ _ kept one
  exact ⟨le, kept, holds _ _ held⟩

theorem mapM {f : α → Lower β} {Q : Draft → β → Prop} {items : List α} (lasting : Lasting Q)
    (each : ∀ item ∈ items, Ensures P (f item) Q) :
    Ensures P (items.mapM f) fun draft results => ∀ result ∈ results, Q draft result := by
  induction items with
  | nil => exact Ensures.pure (by simp)
  | cons item rest ih =>
    intro draft results draft' kept run
    simp only [List.mapM_cons, Lower.bind_eq_some, Lower.pure_eq_some] at run
    obtain ⟨b, middle, first, later, last, others, rfl, rfl⟩ := run
    obtain ⟨le, kept, head⟩ := each item (by simp) _ _ _ kept first
    obtain ⟨le', kept, tail⟩ := ih (fun item mem => each item (by simp [mem])) _ _ _ kept others
    refine ⟨le_trans le le', kept, ?_⟩
    simp only [List.mem_cons, forall_eq_or_imp]
    exact ⟨lasting le' head, tail⟩

end Ensures

/-- What is ensured whenever a schema gets a type while no component is being made. -/
structure TypesEnsure (P : Draft → Prop) (T : Draft → DataType → Prop) (scope : Scope) : Prop where
  lasting : Lasting T
  plain : ∀ {draft type}, type.models = [] → T draft type
  type : ∀ n schema owner hint origin depth, origin ≠ .composition →
    Ensures P (typeOf n scope schema owner hint origin depth) T
  member : ∀ n key depth, Ensures P (memberProperties n scope key depth).work fun draft found =>
    ∀ member ∈ found, ∀ property ∈ member.2, T draft property.type

def OperationTyped (T : DataType → Prop) (operation : Operation) : Prop :=
  (∀ parameter ∈ operation.parameters, T parameter.type) ∧
    ∀ response ∈ operation.responses, ∀ type ∈ response.body, T type

section Operations

variable {P : Draft → Prop} {T : Draft → DataType → Prop} {scope : Scope} {n : Nat} {owner : String}

theorem putProperty_eq (added : Property) (properties : List Property) :
    putProperty added properties = place (·.wireName) added properties := by
  induction properties with
  | nil => rfl
  | cons first rest ih => rw [putProperty, place, ih]

theorem putProperties_eq (properties added : List Property) :
    putProperties properties added = placeAll (·.wireName) properties added := by
  simp only [putProperties, putProperty_eq, placeAll]

theorem mem_putProperties {property : Property} {properties added : List Property}
    (mem : property ∈ putProperties properties added) : property ∈ properties ∨ property ∈ added :=
  mem_placeAll (putProperties_eq properties added ▸ mem)

theorem putParameter_eq (added : OpenApi.Parameter) (parameters : List OpenApi.Parameter) :
    putParameter added parameters = place parameterKey added parameters := by
  induction parameters with
  | nil => rfl
  | cons first rest ih => rw [putParameter, place, ih]

theorem mergeParameters_eq (shared own : List OpenApi.Parameter) :
    mergeParameters shared own = placeAll parameterKey [] (shared ++ own) := by
  simp only [mergeParameters, putParameter_eq, placeAll]

theorem lowerProperties_ensures (ensured : TypesEnsure P T scope) (schema : Schema) :
    Ensures P (lowerProperties scope.components (typeOf n scope) owner schema).work
      fun draft properties => ∀ property ∈ properties, T draft property.type := by
  rw [work_lowerProperties]
  refine Ensures.mapM (Q := fun draft (property : Property) => T draft property.type)
    (fun _ _ _ le typed => ensured.lasting le typed) fun entry _ draft property draft' kept run => ?_
  obtain ⟨type, typed, rfl⟩ := lowerProperty_eq_some.1 run
  exact ensured.type n _ _ _ _ _ (by decide) _ _ _ kept typed

/-- A parameter says what its declaration does, with the type that its schema got between the drafts. -/
structure LoweredBetween (R : Draft → Draft → Prop) (n : Nat) (scope : Scope) (owner : String)
    (draft draft' : Draft) (source : OpenApi.Parameter) (parameter : Parameter) : Prop where
  name : parameter.name = identifier source.name
  wireName : parameter.wireName = source.name
  location : location? source.location = some parameter.location
  required : parameter.required = true ↔ source.required = true ∨ parameter.location = .path
  marked : parameter.marked = source.isGlobal
  description : parameter.description = source.description
  nullable : parameter.nullable = admitsNull scope.components (source.schema.getD .empty)
  type : ∃ before after, R draft before ∧
    typeOf n scope (source.schema.getD .empty) owner source.name .inlineObject 0 before =
        some (parameter.type, after) ∧ R after draft'

theorem lowerParameters_run {R : Draft → Draft → Prop} (composes : Composes R)
    {parameters : List OpenApi.Parameter} {lowered : List Parameter} {draft draft' : Draft}
    (types : ∀ parameter ∈ parameters, (location? parameter.location).isSome →
      ∀ owner hint origin draft type draft',
        typeOf n scope (parameter.schema.getD .empty) owner hint origin 0 draft = some (type, draft') →
          R draft draft')
    (run : lowerParameters n scope owner parameters draft = some (lowered, draft')) :
    R draft draft' ∧ List.Forall₂ (LoweredBetween R n scope owner draft draft')
      (parameters.filter fun parameter => (location? parameter.location).isSome) lowered := by
  simp only [lowerParameters, Lower.bind_eq_some, Lower.pure_eq_some] at run
  obtain ⟨results, last, each, rfl, rfl⟩ := run
  have both := mapM_run composes (fun source mem before result after run => ?_) each
  · obtain ⟨whole, parts⟩ := both
    refine ⟨whole, ?_⟩
    clear each types
    induction parts with
    | nil => exact .nil
    | @cons source result _ _ head _ ih =>
      obtain ⟨before, after, start, run, finish⟩ := head
      cases known : location? source.location with
      | none =>
        simp only [known, Lower.pure_eq_some] at run
        obtain ⟨rfl, -⟩ := run
        rw [List.filter_cons_of_neg (by simp [known])]
        exact ih
      | some location =>
        simp only [known, lowerParameter, Lower.map_eq_some, Lower.bind_eq_some,
          Lower.pure_eq_some] at run
        obtain ⟨_, ⟨type, _, typed, rfl, rfl⟩, rfl⟩ := run
        rw [List.filter_cons_of_pos (by simp [known])]
        exact .cons
          ⟨rfl, rfl, known, by simp, rfl, rfl, rfl, before, _, start, typed, finish⟩ ih
  · cases known : location? source.location with
    | none =>
      simp only [known, Lower.pure_eq_some] at run
      exact run.2 ▸ composes.refl before
    | some location =>
      simp only [known, lowerParameter, Lower.map_eq_some, Lower.bind_eq_some,
        Lower.pure_eq_some] at run
      obtain ⟨_, ⟨type, _, typed, -, rfl⟩, -⟩ := run
      exact types source mem (by simp [known]) _ _ _ _ _ _ typed

theorem lowerParameters_ensures (ensured : TypesEnsure P T scope)
    (parameters : List OpenApi.Parameter) :
    Ensures P (lowerParameters n scope owner parameters)
      fun draft lowered => ∀ parameter ∈ lowered, T draft parameter.type := by
  have lasting : Lasting fun draft (lowered : Option Parameter) =>
      ∀ parameter ∈ lowered, T draft parameter.type :=
    fun _ _ _ le all parameter mem => ensured.lasting le (all parameter mem)
  unfold lowerParameters
  refine Ensures.bind (Ensures.mapM lasting fun parameter _ => ?_) lasting.forall fun lowered =>
    Ensures.pure ?_
  · cases location? parameter.location with
    | none => exact Ensures.pure (by simp)
    | some location =>
      refine Ensures.map (Q := fun draft (lowered : Parameter) => T draft lowered.type) ?_ (by simp)
      exact (ensured.type n _ _ _ _ _ (by decide)).bind ensured.lasting fun type =>
        Ensures.pure fun _ typed => typed
  · intro draft all parameter mem
    obtain ⟨_, listed, rfl⟩ := List.mem_filterMap.1 mem
    exact all _ listed parameter rfl

theorem formProperties_succ {schema : Schema} {depth : Nat} :
    (formProperties (n + 1) scope schema owner depth).work =
      match schema.ref with
      | some ref =>
        (fun found => (found.map (·.2)).getD []) <$> (memberProperties n scope (componentName ref) depth).work
      | none => (do
        let merged ← (fun parts => parts.foldl putProperties []) <$>
          (schema.allOf.getD []).mapM fun member => (formProperties n scope member owner (depth + 1)).work
        putProperties merged <$> (lowerProperties scope.components (typeOf n scope) owner schema).work) := by
  rw [formProperties]
  cases schema.ref with
  | some ref => simp
  | none =>
    simp only [bind_pure_comp, Build.work_bind, Build.work_map, Build.work_foldlM]
    rw [foldlM_eq_mapM putProperties]

theorem formProperties_ensures (ensured : TypesEnsure P T scope) (schema : Schema) (depth : Nat) :
    Ensures P (formProperties n scope schema owner depth).work
      fun draft properties => ∀ property ∈ properties, T draft property.type := by
  have lasting : Lasting fun draft (properties : List Property) =>
      ∀ property ∈ properties, T draft property.type :=
    fun _ _ _ le all property mem => ensured.lasting le (all property mem)
  induction n generalizing schema depth with
  | zero => intro draft a draft' _ run; cases run
  | succ n ih =>
    rw [formProperties_succ]
    cases schema.ref with
    | some ref =>
      refine Ensures.map (ensured.member n _ _) fun draft found all property mem => ?_
      cases found with
      | none => simp at mem
      | some member => exact all member rfl property mem
    | none =>
      refine Ensures.bind (Q := fun draft properties => ∀ property ∈ properties, T draft property.type)
        ?_ lasting fun merged => ?_
      · refine Ensures.map (Ensures.mapM lasting fun member _ => ih member (depth + 1)) ?_
        intro draft parts typed
        suffices gathered : ∀ start : List Property, (∀ property ∈ start, T draft property.type) →
            ∀ property ∈ parts.foldl putProperties start, T draft property.type from
          gathered [] (by simp)
        clear lasting ih
        induction parts with
        | nil => exact fun start all => all
        | cons part rest ih =>
          intro start all
          refine ih (fun part mem => typed part (by simp [mem])) _ fun property mem => ?_
          exact (mem_putProperties mem).elim (all property) (typed part (by simp) property)
      · refine Ensures.map (lowerProperties_ensures ensured schema) ?_
        intro draft own typed all property mem
        exact (mem_putProperties mem).elim (all property) (typed property)

theorem bodyParameter_ensures (ensured : TypesEnsure P T scope) (body : OpenApi.RequestBody)
    (media : String) (schema : Option Schema) :
    Ensures P (bodyParameter n scope owner body media schema)
      fun draft parameter => T draft parameter.type := by
  cases schema with
  | none =>
    refine Ensures.pure fun draft => ensured.plain ?_
    simp only [bareType?]
    split <;> rfl
  | some schema =>
    exact (ensured.type n _ _ _ _ _ (by decide)).bind ensured.lasting fun type =>
      Ensures.pure fun _ typed => typed

/-- The schema of a form, unless the payload is sent in another way. -/
def sentForm? (content : OpenApi.Content) : Option Schema :=
  match content.find? fun (media, _) => isJsonMedia media, content.find? fun (media, _) => isFormMedia media with
  | none, some (_, schema) => some (schema.getD .empty)
  | _, _ => none

theorem lowerBody_eq (body : OpenApi.RequestBody) :
    (lowerBody n scope owner body).work =
      match sentForm? body.content with
      | some schema =>
        (fun properties => properties.map (formParameter body.required)) <$>
          (formProperties n scope schema (owner ++ "Form") 0).work
      | none =>
        match pickPayload? body.content with
        | some (media, schema) =>
          (fun parameter => [parameter]) <$> bodyParameter n scope owner body media schema
        | none => pure [] := by
  unfold lowerBody sentForm? pickPayload?
  dsimp only
  generalize body.content.find? (fun (media, _) => isJsonMedia media) = json
  generalize body.content.find? (fun (media, _) => isFormMedia media) = form
  rcases json with _ | json <;> rcases form with _ | form
  · rcases body.content.head? with _ | payload <;> simp
  · simp
  · simp
  · simp

theorem lowerBody_ensures (ensured : TypesEnsure P T scope) (body : OpenApi.RequestBody) :
    Ensures P (lowerBody n scope owner body).work
      fun draft parameters => ∀ parameter ∈ parameters, T draft parameter.type := by
  rw [lowerBody_eq]
  cases sentForm? body.content with
  | some form =>
    refine Ensures.map (formProperties_ensures ensured form 0) ?_
    intro draft properties typed parameter mem
    obtain ⟨property, inside, rfl⟩ := List.mem_map.1 mem
    exact typed property inside
  | none =>
    rcases pickPayload? body.content with _ | ⟨media, schema⟩
    · exact Ensures.pure (by simp)
    · exact Ensures.map (bodyParameter_ensures ensured body media schema) (by simp)

def lowerPayload (bound : Nat) (scope : Scope) (owner : String) (content : OpenApi.Content) :
    Lower (Option DataType) :=
  match pickPayload? content with
  | none => pure none
  | some (media, none) => pure (bareType? media)
  | some (_, some schema) => some <$> typeOf bound scope schema owner "Response" .inlineResponse 0

theorem lowerResponse_eq {entry : String × OpenApi.Response} :
    lowerResponse n scope owner entry =
      (fun body => ⟨entry.1, entry.2.description, body⟩) <$>
        lowerPayload n scope (owner ++ statusSuffix entry.1) entry.2.content := by
  unfold lowerResponse lowerPayload
  dsimp only
  rcases pickPayload? entry.2.content with _ | ⟨media, _ | schema⟩
  · simp
  · simp
  · simp

theorem lowerResponse_ensures (ensured : TypesEnsure P T scope) (entry : String × OpenApi.Response) :
    Ensures P (lowerResponse n scope owner entry)
      fun draft response => ∀ type ∈ response.body, T draft type := by
  rw [lowerResponse_eq]
  refine Ensures.map (Q := fun draft (body : Option DataType) => ∀ type ∈ body, T draft type) ?_
    fun _ _ typed => typed
  unfold lowerPayload
  rcases pickPayload? entry.2.content with _ | ⟨media, _ | schema⟩
  · exact Ensures.pure (by simp)
  · refine Ensures.pure fun draft type mem => ensured.plain ?_
    unfold bareType? at mem
    split at mem
    · cases mem
    · cases mem
      rfl
  · refine Ensures.map (ensured.type n _ _ _ _ _ (by decide)) fun draft type typed => ?_
    rintro _ ⟨⟩
    exact typed

def lowerRequest (bound : Nat) (scope : Scope) (owner : String) (declared : Declared) :
    Lower (List Parameter) :=
  match declared.operation.requestBody with
  | some body => (lowerBody bound scope owner body).work
  | none => pure []

def lowerChecked (bound : Nat) (scope : Scope) (declared : Declared) : LowerOperation Operation := do
  let owner := Text.capitalize declared.id
  let parameters ← ending (lowerParameters bound scope owner
    (mergeParameters declared.shared (declared.operation.parameters.getD [])))
  let body ← ending (lowerRequest bound scope owner declared)
  let responses ← ending (declared.operation.responses.mapM (lowerResponse bound scope owner))
  pure
    { id := declared.id
      method := declared.method
      path := declared.path
      summary := declared.operation.summary
      description := declared.operation.description
      deprecated := declared.operation.deprecated
      parameters := parameters ++ body
      responses }

theorem lowerOperation_eq {declared : Declared} :
    lowerOperation n scope declared = (do
      checkParameters declared.id declared.shared
      checkParameters declared.id (declared.operation.parameters.getD [])
      lowerChecked n scope declared) := by
  unfold lowerOperation lowerChecked lowerRequest
  dsimp only
  cases declared.operation.requestBody with
  | none => rfl
  | some body => simp only [sound_lowerBody.building_eq]

theorem lowerOperation_run {declared : Declared} {operation : Operation} {draft draft' : Draft}
    (run : lowerOperation n scope declared draft = .ok (operation, draft')) :
    ∃ parameters body responses a b,
      lowerParameters n scope (Text.capitalize declared.id)
          (mergeParameters declared.shared (declared.operation.parameters.getD [])) draft =
            some (parameters, a) ∧
        lowerRequest n scope (Text.capitalize declared.id) declared a = some (body, b) ∧
          declared.operation.responses.mapM (lowerResponse n scope (Text.capitalize declared.id)) b =
              some (responses, draft') ∧
            operation.id = declared.id ∧ operation.parameters = parameters ++ body ∧
              operation.responses = responses := by
  have checked : ∀ {parameters : List OpenApi.Parameter} {draft draft' : Draft} {done : Unit},
      checkParameters declared.id parameters draft = .ok (done, draft') → draft = draft' := by
    intro parameters draft draft' done run
    unfold checkParameters at run
    cases found : firstRepeated? [] parameters with
    | some repeated => simp [found] at run
    | none =>
      rw [found] at run
      exact (LowerOperation.pure_eq_ok.1 run).2
  simp only [lowerOperation_eq, lowerChecked, LowerOperation.bind_eq_ok, LowerOperation.pure_eq_ok,
    LowerOperation.ending_eq_ok] at run
  obtain ⟨_, _, first, _, _, second, parameters, a, one, body, b, two, responses, c, three, rfl,
    rfl⟩ := run
  obtain rfl := checked first
  obtain rfl := checked second
  exact ⟨parameters, body, responses, a, b, one, two, three, rfl, rfl, rfl⟩

theorem runs_of_lowerOperations {R : Draft → Draft → Prop} (composes : Composes R) {ids : List String}
    {all : List Declared} {operations : List Operation} {draft draft' : Draft}
    (step : ∀ declared ∈ all, ∀ draft operation draft',
      lowerOperation n scope declared draft = .ok (operation, draft') → R draft draft')
    (run : lowerOperations n scope ids all draft = .ok (operations, draft')) :
    R draft draft' ∧ List.Forall₂ (fun declared operation => ∃ before after, R draft before ∧
      lowerOperation n scope declared before = .ok (operation, after) ∧ R after draft') all operations := by
  induction all generalizing ids operations draft with
  | nil =>
    obtain ⟨rfl, rfl⟩ := LowerOperation.pure_eq_ok.1 run
    exact ⟨composes.refl draft, .nil⟩
  | cons first rest ih =>
    simp only [lowerOperations, LowerOperation.bind_eq_ok] at run
    obtain ⟨operation, middle, one, others⟩ := run
    split at others
    · simp at others
    simp only [LowerOperation.bind_eq_ok, LowerOperation.pure_eq_ok] at others
    obtain ⟨later, _, others, rfl, rfl⟩ := others
    have head := step first List.mem_cons_self _ _ _ one
    obtain ⟨tail, each⟩ := ih (fun declared mem => step declared (List.mem_cons_of_mem first mem)) others
    refine ⟨composes.trans head tail, .cons ⟨draft, middle, composes.refl draft, one, tail⟩ ?_⟩
    exact each.imp fun declared operation ⟨before, after, start, run, finish⟩ =>
      ⟨before, after, composes.trans head start, run, finish⟩

theorem lowerOperation_ensures (ensured : TypesEnsure P T scope) {declared : Declared}
    {operation : Operation} {draft draft' : Draft} (kept : P draft)
    (run : lowerOperation n scope declared draft = .ok (operation, draft')) :
    draft ≤ draft' ∧ P draft' ∧ OperationTyped (T draft') operation := by
  obtain ⟨parameters, body, responses, a, b, one, two, three, -, same, same'⟩ := lowerOperation_run run
  obtain ⟨leA, kept, typed⟩ := lowerParameters_ensures ensured _ _ _ _ kept one
  have request : Ensures P (lowerRequest n scope (Text.capitalize declared.id) declared)
      fun draft parameters => ∀ parameter ∈ parameters, T draft parameter.type := by
    unfold lowerRequest
    cases declared.operation.requestBody with
    | none => exact Ensures.pure (by simp)
    | some body => exact lowerBody_ensures ensured body
  obtain ⟨leB, kept, typed'⟩ := request _ _ _ kept two
  have lasting : Lasting fun draft (response : Response) => ∀ type ∈ response.body, T draft type :=
    fun _ _ _ le all type mem => ensured.lasting le (all type mem)
  obtain ⟨leC, kept, answered⟩ :=
    Ensures.mapM lasting (fun entry _ => lowerResponse_ensures ensured entry) _ _ _ kept three
  refine ⟨le_trans leA (le_trans leB leC), kept, ?_, ?_⟩
  · intro parameter mem
    rw [same, List.mem_append] at mem
    rcases mem with mem | mem
    · exact ensured.lasting (le_trans leB leC) (typed parameter mem)
    · exact ensured.lasting leC (typed' parameter mem)
  · rw [same']
    exact answered

theorem lowerOperations_ensures (ensured : TypesEnsure P T scope) {ids : List String}
    {declared : List Declared} {operations : List Operation} {draft draft' : Draft} (kept : P draft)
    (run : lowerOperations n scope ids declared draft = .ok (operations, draft')) :
    draft ≤ draft' ∧ P draft' ∧ ∀ operation ∈ operations, OperationTyped (T draft') operation := by
  have composes : Composes fun draft draft' => P draft → draft ≤ draft' ∧ P draft' := by
    refine ⟨fun draft kept => ⟨le_refl draft, kept⟩, fun first second kept => ?_⟩
    obtain ⟨le, kept⟩ := first kept
    obtain ⟨le', kept⟩ := second kept
    exact ⟨le_trans le le', kept⟩
  obtain ⟨whole, each⟩ := runs_of_lowerOperations composes
    (fun _ _ _ _ _ one kept => (lowerOperation_ensures ensured kept one).imp_right And.left) run
  obtain ⟨le, last⟩ := whole kept
  refine ⟨le, last, fun operation mem => ?_⟩
  obtain ⟨_, -, before, after, start, one, finish⟩ := exists_of_forall₂_right each mem
  obtain ⟨-, kept, typed⟩ := lowerOperation_ensures ensured (start kept).2 one
  have le := (finish kept).1
  constructor
  · exact fun parameter mem => ensured.lasting le (typed.1 parameter mem)
  · exact fun response mem type mem' => ensured.lasting le (typed.2 response mem type mem')

end Operations

section Components

variable {components : List (String × Schema)} {begun : Call → Prop} {draft draft' : Draft} {n : Nat}

theorem isLowered_iff {name : String} :
    isLowered draft name = true ↔ ∃ model ∈ draft.models, model.name = name := by
  simp [isLowered]

theorem isLowered_of_le {name : String} (le : draft ≤ draft') (lowered : isLowered draft name = true) :
    isLowered draft' name = true := by
  rw [isLowered_iff] at lowered ⊢
  obtain ⟨model, mem, same⟩ := lowered
  exact ⟨model, Draft.mem_models_of_le le mem, same⟩

theorem isLowered_of_lowerComponent {scope : Scope} {key : String} {schema : Schema} {depth : Nat}
    (free : key ∉ scope.active) (kind : schema.kind ≠ .typeAlias)
    (run : (lowerComponent n scope key schema depth).work draft = some ((), draft')) :
    isLowered draft' (typeName key) = true := by
  cases n with
  | zero => cases run
  | succ n =>
    rcases lowerComponent_run run with ⟨lowered | active | expanded, rfl⟩ |
      ⟨-, -, -, model, middle, made, rfl⟩
    · exact lowered
    · exact absurd active free
    · exact absurd expanded kind
    · exact isLowered_iff.2 ⟨model, List.mem_cons_self, name_of_modelOf made⟩

theorem lowerComponents_run (closed : Closed components begun)
    (started : ∀ entry ∈ components, begun (.component entry.1 entry.2 0 []))
    (run : (lowerComponents n ⟨components, []⟩).work draft = some ((), draft')) :
    History components begun [] draft draft' ∧
      ∀ entry ∈ components, entry.2.kind ≠ .typeAlias → isLowered draft' (typeName entry.1) = true := by
  have step : ∀ entry ∈ components, ∀ draft draft',
      (lowerComponent n ⟨components, []⟩ entry.1 entry.2 0).work draft = some ((), draft') →
        History components begun [] draft draft' :=
    fun entry mem _ _ run => (history_of_run closed n).2.2.2 (started entry mem) run
  obtain ⟨history, each⟩ := forM_run History.composes step (work_lowerComponents ▸ run)
  refine ⟨history, fun entry mem kind => ?_⟩
  obtain ⟨before, after, _, lowered, rest⟩ := each entry mem
  exact isLowered_of_le rest.le (isLowered_of_lowerComponent (by simp) kind lowered)

def KeepsModels (name : String) (draft later : Draft) : Prop :=
  draft ≤ later ∧ ∀ model ∈ later.models, model.name = name → model ∈ draft.models

theorem History.keepsModels {active : List String} {key : String} {schema : Schema}
    (history : History components begun active draft draft') (listed : (key, schema) ∈ components)
    (reserved : Reserved components draft) (lowered : isLowered draft (typeName key) = true) :
    KeepsModels (typeName key) draft draft' := by
  have invariant : Invariant components begun fun _ later => KeepsModels (typeName key) draft later := by
    constructor
    · rintro active later name ⟨le, old⟩
      exact ⟨le_trans le (later.le_reserve name), old⟩
    · exact fun kept => kept
    · rintro active later model other ⟨le, old⟩
      refine ⟨le_trans le (later.le_push model), fun made mem named => ?_⟩
      rcases List.mem_cons.1 mem with rfl | mem
      · exact absurd named.symm (other _ listed)
      · exact old made mem named
    · rintro active before later other schema model n depth - - - absent run ⟨le, -⟩ ⟨le', old⟩
      refine ⟨le_trans le' (later.le_push model), fun made mem named => ?_⟩
      rcases List.mem_cons.1 mem with rfl | mem
      -- the model was there before, so the component is passed over
      · have again := isLowered_of_le le lowered
        rw [← named, name_of_modelOf run, absent] at again
        cases again
      · exact old made mem named
  exact history.keeps invariant reserved ⟨le_refl draft, fun _ mem _ => mem⟩

theorem KeepsModels.trans {name : String} {middle : Draft} (first : KeepsModels name draft middle)
    (second : KeepsModels name middle draft') : KeepsModels name draft draft' :=
  ⟨le_trans first.1 second.1, fun model mem named => first.2 model (second.2 model mem named) named⟩

theorem lowerOperations_keepsModels {key : String} {schema : Schema} {ids : List String}
    {declared : List Declared} {operations : List Operation} (listed : (key, schema) ∈ components)
    (reserved : Reserved components draft) (lowered : isLowered draft (typeName key) = true)
    (run : lowerOperations n ⟨components, []⟩ ids declared draft = .ok (operations, draft')) :
    KeepsModels (typeName key) draft draft' := by
  have keeps : ∀ {later later'}, History components (Listed components) [] later later' →
      KeepsModels (typeName key) draft later → KeepsModels (typeName key) draft later' :=
    fun history kept => kept.trans
      (history.keepsModels listed (reserved.mono kept.1) (isLowered_of_le kept.1 lowered))
  have ensured : TypesEnsure (KeepsModels (typeName key) draft) (fun _ _ => True) ⟨components, []⟩ := by
    constructor
    · exact fun _ _ _ _ _ => trivial
    · exact fun _ => trivial
    · intro n schema owner hint origin depth _ later type later' kept run
      have history := (history_of_run (closed_listed components) n).1 trivial run
      exact ⟨history.le, keeps history kept, trivial⟩
    · intro n key depth later found later' kept run
      have history := (history_of_run (closed_listed components) n).2.2.1 trivial run
      exact ⟨history.le, keeps history kept, fun _ _ _ _ => trivial⟩
  have start : KeepsModels (typeName key) draft draft := ⟨le_refl draft, fun _ mem _ => mem⟩
  exact (lowerOperations_ensures ensured start run).2.1

theorem reserved_start (doc : Document) : Reserved doc.components (Draft.start doc) :=
  fun _ mem => List.mem_map_of_mem mem

end Components

theorem exists_of_toOption {ε α : Type} {result : Except ε α} (ends : result.toOption.isSome = true) :
    ∃ a, result = .ok a := by
  cases result with
  | error error => cases ends
  | ok a => exact ⟨a, rfl⟩

theorem exists_of_toOption_map {ε α β : Type} {result : Except ε α} {f : α → β} {b : β}
    (seen : result.toOption.map f = some b) : ∃ a, result = .ok a ∧ f a = b := by
  cases result with
  | error error => cases seen
  | ok a => exact ⟨a, rfl, by simpa [Except.toOption] using seen⟩

theorem lower_run {doc : NormalDocument} {api : Api} (run : lower doc = .ok api) :
    ∃ operations middle draft,
      (lowerComponents (callBound doc.document) ⟨doc.document.components, []⟩).work
          (Draft.start doc.document) = some ((), middle) ∧
        lowerOperations (callBound doc.document) ⟨doc.document.components, []⟩ []
            (declaredOperations doc.document) middle = .ok (operations, draft) ∧
          api.models = draft.models.reverse ∧ api.operations = operations := by
  unfold lower lowerWithin at run
  cases whole : (lowerAll (callBound doc.document) doc.document).run (Draft.start doc.document) with
  | error error => simp [whole, Bind.bind, Except.bind] at run
  | ok result =>
    obtain ⟨operations, draft⟩ := result
    simp only [whole, Bind.bind, Except.bind, Pure.pure, Except.pure, Except.ok.injEq] at run
    have parts := whole
    simp only [StateT.run, lowerAll_eq, LowerOperation.bind_eq_ok, LowerOperation.ending_eq_ok] at parts
    obtain ⟨⟨⟩, middle, first, second⟩ := parts
    exact ⟨operations, middle, draft, first, second, by rw [← run], by rw [← run]⟩

/-- A document with these components and nothing else. -/
def declaring (components : List (String × Schema)) : Document where
  openapi := none
  info := none
  paths := []
  schemas := some components
  tags := []
  source := none

def reading (parameters : List OpenApi.Parameter) (responses : List (String × OpenApi.Response)) :
    OpenApi.PathItem where
  get := some
    { operationId := none
      summary := none
      description := none
      deprecated := false
      tags := []
      parameters := some parameters
      requestBody := none
      responses }
  post := none
  put := none
  patch := none
  delete := none
  parameters := none

def parameterAt (place name : String) (marker : Option Json.Value) : OpenApi.Parameter where
  name := name
  location := place
  required := false
  description := none
  schema := none
  marker := marker

end OpenApiCodegen.Lowering
