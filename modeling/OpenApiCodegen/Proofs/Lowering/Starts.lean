import OpenApiCodegen.Proofs.Lowering.DocumentRuns
import OpenApiCodegen.Proofs.Lowering.Termination

namespace OpenApiCodegen.Lowering

open Api
open OpenApi (Schema SchemaKind Document componentName)

inductive FormPart : Schema → Schema → Prop
  | self {schema : Schema} : schema.ref = none → FormPart schema schema
  | member {schema member part : Schema} :
      schema.ref = none → member ∈ schema.allOf.getD [] → FormPart member part → FormPart schema part

inductive AsksFor (declared : Declared) : Schema → Prop
  | parameter {parameter : OpenApi.Parameter} :
      parameter ∈ mergeParameters declared.shared (declared.operation.parameters.getD []) →
        (location? parameter.location).isSome → AsksFor declared (parameter.schema.getD .empty)
  | field {body : OpenApi.RequestBody} {form part field : Schema} :
      declared.operation.requestBody = some body → sentForm? body.content = some form →
        FormPart form part → field ∈ part.propertySchemas → AsksFor declared field
  | body {body : OpenApi.RequestBody} {media : String} {schema : Schema} :
      declared.operation.requestBody = some body → sentForm? body.content = none →
        pickPayload? body.content = some (media, some schema) → AsksFor declared schema
  | response {entry : String × OpenApi.Response} {media : String} {schema : Schema} :
      entry ∈ declared.operation.responses →
        pickPayload? entry.2.content = some (media, some schema) → AsksFor declared schema

def Declared.Distinct (declared : Declared) : Prop :=
  firstRepeated? [] declared.shared = none ∧
    firstRepeated? [] (declared.operation.parameters.getD []) = none

inductive Attempted : (ids : List String) → List Declared → Declared → Prop
  | here {ids : List String} {first : Declared} {rest : List Declared} :
      first.Distinct → Attempted ids (first :: rest) first
  | later {ids : List String} {first declared : Declared} {rest : List Declared} :
      first.Distinct → first.id ∉ ids → Attempted (first.id :: ids) rest declared →
        Attempted ids (first :: rest) declared

/-- The places that lowering a document starts with. -/
inductive Start (doc : Document) : Place → Prop
  | component {key : String} {schema : Schema} :
      (key, schema) ∈ doc.components → schema.kind ≠ .typeAlias → Start doc (.model schema.kind schema)
  | operation {declared : Declared} {schema : Schema} :
      Attempted [] (declaredOperations doc) declared → AsksFor declared schema →
        Start doc (.type schema 0)

section Schemas

variable {doc : Document} {declared : Declared}

theorem mem_of_mem_mergeParameters {shared own : List OpenApi.Parameter} {parameter : OpenApi.Parameter}
    (mem : parameter ∈ mergeParameters shared own) : parameter ∈ shared ++ own := by
  rw [mergeParameters_eq] at mem
  exact (mem_placeAll mem).resolve_left List.not_mem_nil

theorem mem_allSchemas_of_operation {path : String} {item : OpenApi.PathItem} {method : OpenApi.Method}
    {op : OpenApi.Operation} (listed : (path, item, method, op) ∈ doc.operations) {schema : Schema}
    (mem : schema ∈ op.schemas) : schema ∈ doc.allSchemas := by
  refine OpenApi.Document.mem_allSchemas_of_root ?_
  exact List.mem_append_right _ (List.mem_flatMap.2 ⟨_, listed, mem⟩)

theorem mem_schemas_of_pickPayload {content : OpenApi.Content} {media : String} {schema : Schema}
    (picked : pickPayload? content = some (media, some schema)) : schema ∈ content.schemas := by
  refine List.mem_filterMap.2 ⟨(media, some schema), ?_, rfl⟩
  rcases Option.or_eq_some_iff.1 picked with found | ⟨-, first⟩
  · exact List.mem_of_find?_eq_some found
  · exact List.mem_of_head? first

theorem FormPart.mem_allSchemas {form part : Schema} (inside : FormPart form part)
    (mem : form ∈ doc.allSchemas) : part ∈ doc.allSchemas := by
  induction inside with
  | self => exact mem
  | member _ listed _ ih =>
    refine ih (OpenApi.Document.children_subset_allSchemas mem ?_)
    simp [Schema.children, listed]

theorem declared_of_mem (listed : declared ∈ declaredOperations doc) :
    ∃ item, (declared.path, item) ∈ doc.paths ∧ declared.shared = item.parameters.getD [] ∧
      (declared.path, item, declared.method, declared.operation) ∈ doc.operations := by
  obtain ⟨⟨path, item, method, op⟩, mem, rfl⟩ := List.mem_map.1 listed
  obtain ⟨entry, inside, found⟩ := List.mem_flatMap.1 mem
  obtain ⟨_, _, same⟩ := List.mem_map.1 found
  cases same
  exact ⟨entry.2, inside, rfl, mem⟩

theorem sentForm_cases {content : OpenApi.Content} {form : Schema}
    (sent : sentForm? content = some form) : form = .empty ∨ form ∈ content.schemas := by
  unfold sentForm? at sent
  split at sent
  · rename_i media schema _ found
    cases schema with
    | none => exact .inl (Option.some.inj sent).symm
    | some schema =>
      obtain rfl : schema = form := Option.some.inj sent
      exact .inr (List.mem_filterMap.2 ⟨_, List.mem_of_find?_eq_some found, rfl⟩)
  · cases sent

theorem mem_schemas_of_body {op : OpenApi.Operation} {body : OpenApi.RequestBody} {schema : Schema}
    (sent : op.requestBody = some body) (mem : schema ∈ body.content.schemas) : schema ∈ op.schemas := by
  simp [OpenApi.Operation.schemas, sent, mem]

theorem AsksFor.mem_allSchemas {schema : Schema} (asks : AsksFor declared schema)
    (listed : declared ∈ declaredOperations doc) : schema ∈ doc.allSchemas := by
  obtain ⟨item, path, same, operation⟩ := declared_of_mem listed
  have empty : Schema.empty ∈ doc.allSchemas := List.mem_cons_self
  cases asks with
  | @parameter parameter mem _ =>
    cases written : parameter.schema with
    | none => exact empty
    | some schema =>
      rcases List.mem_append.1 (mem_of_mem_mergeParameters mem) with shared | own
      · rw [same] at shared
        refine OpenApi.Document.mem_allSchemas_of_root ?_
        refine List.mem_append_left _ (List.mem_append_right _ (List.mem_flatMap.2 ⟨_, path, ?_⟩))
        exact List.mem_filterMap.2 ⟨parameter, shared, written⟩
      · refine mem_allSchemas_of_operation operation ?_
        refine List.mem_append_left _ (List.mem_append_left _ ?_)
        exact List.mem_filterMap.2 ⟨parameter, own, written⟩
  | @field body form part field sent travels inside mem =>
    have whole : form ∈ doc.allSchemas := by
      rcases sentForm_cases travels with rfl | listed
      · exact empty
      · exact mem_allSchemas_of_operation operation (mem_schemas_of_body sent listed)
    refine OpenApi.Document.children_subset_allSchemas (inside.mem_allSchemas whole) ?_
    simp [Schema.children, mem]
  | body sent _ picked =>
    exact mem_allSchemas_of_operation operation
      (mem_schemas_of_body sent (mem_schemas_of_pickPayload picked))
  | response mem picked =>
    refine mem_allSchemas_of_operation operation (List.mem_append_right _ ?_)
    exact List.mem_flatMap.2 ⟨_, mem, mem_schemas_of_pickPayload picked⟩

theorem weight_le_of_sentForm {body : OpenApi.RequestBody} {form : Schema}
    (listed : declared ∈ declaredOperations doc) (sent : declared.operation.requestBody = some body)
    (travels : sentForm? body.content = some form) : form.weight ≤ documentWeight doc + 1 := by
  obtain ⟨item, path, same, operation⟩ := declared_of_mem listed
  rcases sentForm_cases travels with rfl | inside
  · have single : Schema.empty.weight = 1 := by rw [Schema.weight_eq]; rfl
    omega
  · have root : form ∈ doc.roots :=
      List.mem_append_right _ (List.mem_flatMap.2 ⟨_, operation, mem_schemas_of_body sent inside⟩)
    have light := le_total Schema.weight root
    rw [OpenApi.Document.total_roots] at light
    omega

end Schemas

section Parts

variable {scope : Scope} {n room depth : Nat} {owner : String} {declared : Declared}

theorem lowerParameters_ends {parameters : List OpenApi.Parameter}
    (types : ∀ parameter ∈ parameters, (location? parameter.location).isSome →
      ∀ owner hint origin, Ends (typeOf n scope (parameter.schema.getD .empty) owner hint origin 0)) :
    Ends (lowerParameters n scope owner parameters) := by
  refine (Ends.mapM fun parameter mem => ?_).bind fun _ => Ends.pure _
  cases travels : location? parameter.location with
  | none => exact Ends.pure _
  | some location =>
    exact ((types parameter mem (by simp [travels]) _ _ _).bind fun _ => Ends.pure _).map

theorem weight_lt_of_mem_allOf {schema member : Schema} (mem : member ∈ schema.allOf.getD []) :
    member.weight < schema.weight := by
  refine Schema.weight_lt_of_mem_children ?_
  simp [Schema.children, mem]

theorem formProperties_ends {form : Schema}
    (members : ∀ m, room < m → ∀ key depth, Ends (memberProperties m scope key depth).work)
    (types : ∀ m, room < m → ∀ part field, FormPart form part → field ∈ part.propertySchemas →
      ∀ owner hint, Ends (typeOf m scope field owner hint .inlineObject 0))
    (enough : room + form.weight < n) : Ends (formProperties n scope form owner depth).work := by
  induction n generalizing form depth with
  | zero => omega
  | succ n ih =>
    have positive : 0 < form.weight := by
      rw [Schema.weight_eq]
      omega
    rw [formProperties_succ]
    cases written : form.ref with
    | some ref => exact (members n (by omega) _ depth).map
    | none =>
      have parts : Ends ((form.allOf.getD []).mapM fun member =>
          (formProperties n scope member owner (depth + 1)).work) := by
        refine Ends.mapM fun member mem => ih ?_ ?_
        · intro m above part field inside mem'
          exact types m above part field (.member written mem inside) mem'
        · have lighter := weight_lt_of_mem_allOf mem
          omega
      refine parts.map.bind fun merged => ?_
      refine (lowerProperties_ends fun field mem owner hint => ?_).map
      exact types n (by omega) form field (.self written) mem owner hint

theorem bodyParameter_ends {body : OpenApi.RequestBody} {media : String} {schema : Option Schema}
    (types : ∀ schema' ∈ schema, ∀ owner hint origin, Ends (typeOf n scope schema' owner hint origin 0)) :
    Ends (bodyParameter n scope owner body media schema) := by
  cases schema with
  | none => exact Ends.pure _
  | some schema => exact (types schema rfl _ _ _).bind fun _ => Ends.pure _

theorem lowerRequest_ends
    (members : ∀ m, room < m → ∀ key depth, Ends (memberProperties m scope key depth).work)
    (types : ∀ m, room < m → ∀ schema, AsksFor declared schema → ∀ owner hint origin,
      Ends (typeOf m scope schema owner hint origin 0))
    (enough : ∀ body ∈ declared.operation.requestBody, ∀ form ∈ sentForm? body.content,
      room + form.weight < n) (above : room < n) : Ends (lowerRequest n scope owner declared) := by
  unfold lowerRequest
  cases sent : declared.operation.requestBody with
  | none => exact Ends.pure _
  | some body =>
    dsimp only
    rw [lowerBody_eq]
    cases travels : sentForm? body.content with
    | some form =>
      refine (formProperties_ends members ?_ (enough body sent form travels)).map
      intro m above part field inside mem owner hint
      exact types m above field (.field sent travels inside mem) owner hint .inlineObject
    | none =>
      rcases picked : pickPayload? body.content with _ | ⟨media, schema⟩
      · exact Ends.pure _
      · refine (bodyParameter_ends ?_).map
        rintro schema' ⟨⟩
        exact types n above schema' (.body sent travels picked)

theorem lowerResponse_ends {entry : String × OpenApi.Response}
    (types : ∀ media schema, pickPayload? entry.2.content = some (media, some schema) →
      ∀ owner hint origin, Ends (typeOf n scope schema owner hint origin 0)) :
    Ends (lowerResponse n scope owner entry) := by
  rw [lowerResponse_eq]
  refine Ends.map ?_
  unfold lowerPayload
  rcases picked : pickPayload? entry.2.content with _ | ⟨media, _ | schema⟩
  · exact Ends.pure _
  · exact Ends.pure _
  · exact (types media schema picked _ _ _).map

end Parts

section FailingParts

variable {scope : Scope} {n depth : Nat} {owner : String} {declared : Declared}

theorem lowerParameters_fails {parameters : List OpenApi.Parameter} {parameter : OpenApi.Parameter}
    (mem : parameter ∈ parameters) (travels : (location? parameter.location).isSome)
    (fails : ∀ owner hint origin, Fails (typeOf n scope (parameter.schema.getD .empty) owner hint origin 0)) :
    Fails (lowerParameters n scope owner parameters) := by
  obtain ⟨location, known⟩ := Option.isSome_iff_exists.1 travels
  refine (Fails.mapM mem ?_).bind
  rw [known]
  exact (fails _ _ _).bind.map

theorem formProperties_fails {form part field : Schema} (inside : FormPart form part)
    (mem : field ∈ part.propertySchemas)
    (fails : ∀ m owner hint, Fails (typeOf m scope field owner hint .inlineObject 0)) :
    Fails (formProperties n scope form owner depth).work := by
  induction inside generalizing n depth with
  | self written =>
    cases n with
    | zero => exact fun _ => rfl
    | succ n =>
      rw [formProperties_succ, written]
      exact Fails.bind_right fun merged => (lowerProperties_fails mem (fails n)).map
  | member written listed _ ih =>
    cases n with
    | zero => exact fun _ => rfl
    | succ n =>
      rw [formProperties_succ, written]
      exact (Fails.mapM listed (ih mem)).map.bind

theorem operation_fails (n : Nat) (owner : String) {schema : Schema} (asks : AsksFor declared schema)
    (fails : ∀ m owner hint origin, Fails (typeOf m scope schema owner hint origin 0)) :
    Fails (lowerParameters n scope owner
        (mergeParameters declared.shared (declared.operation.parameters.getD []))) ∨
      Fails (lowerRequest n scope owner declared) ∨
        Fails (declared.operation.responses.mapM (lowerResponse n scope owner)) := by
  cases asks with
  | parameter mem travels => exact .inl (lowerParameters_fails mem travels (fails n))
  | field sent travels inside mem =>
    right; left
    unfold lowerRequest
    rw [sent]
    dsimp only
    rw [lowerBody_eq, travels]
    exact (formProperties_fails inside mem fun m owner hint => fails m owner hint _).map
  | body sent travels picked =>
    right; left
    unfold lowerRequest
    rw [sent]
    dsimp only
    rw [lowerBody_eq, travels, picked]
    exact (fails n _ _ _).bind.map
  | response mem picked =>
    right; right
    refine Fails.mapM mem ?_
    rw [lowerResponse_eq]
    unfold lowerPayload
    rw [picked]
    exact (fails n _ _ _).map.map

end FailingParts

section KeepingParts

variable {R : Draft → Draft → Prop} {scope : Scope} {n depth : Nat} {owner : String} {declared : Declared}
  {draft draft' : Draft}

structure KeepsAsked (R : Draft → Draft → Prop) (scope : Scope) (declared : Declared) : Prop where
  composes : Composes R
  type : ∀ {schema}, AsksFor declared schema → ∀ n owner hint origin draft type draft',
    typeOf n scope schema owner hint origin 0 draft = some (type, draft') → R draft draft'
  member : ∀ n key depth draft found draft',
    (memberProperties n scope key depth).work draft = some (found, draft') → R draft draft'

theorem formProperties_keeps (composes : Composes R) {form : Schema} {properties : List Property}
    (members : ∀ n key depth draft found draft',
      (memberProperties n scope key depth).work draft = some (found, draft') → R draft draft')
    (types : ∀ part field, FormPart form part → field ∈ part.propertySchemas →
      ∀ n owner hint origin draft type draft',
        typeOf n scope field owner hint origin 0 draft = some (type, draft') → R draft draft')
    (run : (formProperties n scope form owner depth).work draft = some (properties, draft')) : R draft draft' := by
  induction n generalizing form depth properties draft draft' with
  | zero => cases run
  | succ n ih =>
    rw [formProperties_succ] at run
    cases written : form.ref with
    | some ref =>
      simp only [written, Lower.map_eq_some] at run
      obtain ⟨found, looked, -⟩ := run
      exact members _ _ _ _ _ _ looked
    | none =>
      simp only [written, Lower.bind_eq_some, Lower.map_eq_some] at run
      obtain ⟨_, middle, ⟨parts, gathered, -⟩, own, owned, -⟩ := run
      have first : R draft middle := by
        refine (mapM_run composes ?_ gathered).1
        intro member mem draft part draft' run
        exact ih (fun part field inside => types part field (.member written mem inside)) run
      have second : TypesKeep R (typeOf n scope) form.propertySchemas :=
        fun field mem => fun owner hint => types form field (.self written) mem n owner hint .inlineObject
      exact composes.trans first (lowerProperties_run composes second owned).1

theorem lowerRequest_keeps (kept : KeepsAsked R scope declared) {body : List Parameter}
    (run : lowerRequest n scope owner declared draft = some (body, draft')) : R draft draft' := by
  unfold lowerRequest at run
  cases sent : declared.operation.requestBody with
  | none =>
    rw [sent] at run
    exact (Lower.pure_eq_some.1 run).2 ▸ kept.composes.refl draft
  | some request =>
    simp only [sent, lowerBody_eq] at run
    cases travels : sentForm? request.content with
    | some form =>
      simp only [travels, Lower.map_eq_some] at run
      obtain ⟨properties, read, -⟩ := run
      exact formProperties_keeps kept.composes kept.member
        (fun part field inside mem => kept.type (.field sent travels inside mem)) read
    | none =>
      rcases picked : pickPayload? request.content with _ | ⟨media, schema⟩
      · simp only [travels, picked, Lower.pure_eq_some] at run
        exact run.2 ▸ kept.composes.refl draft
      · simp only [travels, picked, Lower.map_eq_some] at run
        obtain ⟨parameter, one, -⟩ := run
        cases schema with
        | none => exact (Lower.pure_eq_some.1 one).2 ▸ kept.composes.refl draft
        | some schema =>
          simp only [bodyParameter, Lower.bind_eq_some, Lower.pure_eq_some] at one
          obtain ⟨type, _, typed, -, rfl⟩ := one
          exact kept.type (.body sent travels picked) _ _ _ _ _ _ _ typed

theorem lowerResponses_keeps (kept : KeepsAsked R scope declared) {responses : List Response}
    (run : declared.operation.responses.mapM (lowerResponse n scope owner) draft =
      some (responses, draft')) : R draft draft' := by
  refine (mapM_run kept.composes ?_ run).1
  intro entry mem draft response draft' run
  rw [lowerResponse_eq, Lower.map_eq_some] at run
  obtain ⟨body, run, -⟩ := run
  unfold lowerPayload at run
  rcases picked : pickPayload? entry.2.content with _ | ⟨media, _ | schema⟩
  · rw [picked] at run
    exact (Lower.pure_eq_some.1 run).2 ▸ kept.composes.refl draft
  · rw [picked] at run
    exact (Lower.pure_eq_some.1 run).2 ▸ kept.composes.refl draft
  · simp only [picked, Lower.map_eq_some] at run
    obtain ⟨type, typed, -⟩ := run
    exact kept.type (.response mem picked) _ _ _ _ _ _ _ typed

theorem lowerOperation_keeps (kept : KeepsAsked R scope declared) {operation : Operation}
    (run : lowerOperation n scope declared draft = .ok (operation, draft')) : R draft draft' := by
  obtain ⟨parameters, body, responses, a, b, one, two, three, -⟩ := lowerOperation_run run
  have first := (lowerParameters_run kept.composes
    (fun parameter mem travels => kept.type (.parameter mem travels) n) one).1
  exact kept.composes.trans first
    (kept.composes.trans (lowerRequest_keeps kept two) (lowerResponses_keeps kept three))

theorem keepsAsked_of_runs {doc : Document} {begun : Call → Prop} {R : List String → Draft → Draft → Prop}
    (composes : Composes (R [])) (runs : ∀ n, RunsKeep doc.components begun R n)
    (types : ∀ schema ∈ doc.allSchemas, begun (.type schema 0 []))
    (members : ∀ key depth, begun (.member key depth []))
    (listed : declared ∈ declaredOperations doc) : KeepsAsked (R []) ⟨doc.components, []⟩ declared where
  composes := composes
  type asks n _ _ _ _ _ _ run := (runs n).1 (types _ (asks.mem_allSchemas listed)) run
  member n key depth _ _ _ run := (runs n).2.2.1 (members key depth) run

end KeepingParts

end OpenApiCodegen.Lowering
