import OpenApiCodegen.Proofs.Lowering.TypedModels
import OpenApiCodegen.Proofs.Lowering.WireKeys
import OpenApiCodegen.Proofs.Output.FieldNames

namespace OpenApiCodegen.Lowering

open Api
open OpenApi (Schema SchemaKind Document NormalDocument)

def Identified (properties : List Property) : Prop :=
  ∀ property ∈ properties, property.name = identifier property.wireName

def AllIdentified (draft : Draft) : Prop :=
  ∀ model ∈ draft.models, Identified model.properties

section Models

variable {scope : Scope} {n depth : Nat} {kind : SchemaKind} {schema member : Schema}
  {name owner key : String} {origin : Origin} {draft draft' later : Draft} {model : Model}
  {properties added : List Property}

theorem identified_nil : Identified [] := by
  simp [Identified]

theorem Identified.put (first : Identified properties) (second : Identified added) :
    Identified (putProperties properties added) :=
  fun property mem => (mem_putProperties mem).elim (first property) (second property)

theorem identified_of_lowerProperties
    (run : (lowerProperties scope.components (typeOf n scope) owner schema).work draft =
      some (properties, draft')) : Identified properties := by
  have typed := (lowerProperties_run composes_true (fun _ _ _ _ _ _ _ _ => trivial) run).2
  clear run
  generalize schema.properties.getD [] = entries, schema.required.getD [] = required at typed
  induction typed with
  | nil => exact identified_nil
  | cons head _ ih =>
    obtain ⟨_, _, _, -, -, -, rfl⟩ := head
    refine List.forall_mem_cons.2 ⟨?_, ih⟩
    simp only [propertyOf]

theorem identified_of_memberProperties {found : Option (String × List Property)}
    (run : (memberProperties n scope key depth).work draft = some (found, draft')) (le : draft' ≤ later)
    (all : AllIdentified later) : ∀ member ∈ found, Identified member.2 := by
  induction n generalizing key depth with
  | zero => cases run
  | succ n ih =>
    rcases memberProperties_run run with ⟨rfl, -, -⟩ | ⟨_, _, _, _, inner, _, run⟩ |
      ⟨target, -, -, -, -, rfl⟩
    · simp
    · exact ih run
    · rintro _ ⟨⟩
      cases present : draft'.model? (typeName key) with
      | none => exact identified_nil
      | some model =>
        exact all model (Draft.mem_models_of_le le (List.mem_of_find?_eq_some present))

theorem identified_of_contribution {result : Contribution} {merge : Merge}
    (run : contribution n scope name depth member draft = some (result, draft')) (le : draft' ≤ later)
    (all : AllIdentified later) (gathered : Identified merge.properties) :
    Identified (merge.take result).properties := by
  unfold contribution at run
  split at run
  · obtain ⟨rfl, -⟩ := Lower.pure_eq_some.1 run
    exact gathered
  cases written : member.ref with
  | some ref =>
    simp only [written, Lower.bind_eq_some] at run
    obtain ⟨found, middle, looked, rest⟩ := run
    cases found with
    | none =>
      obtain ⟨rfl, -⟩ := Lower.pure_eq_some.1 rest
      exact gathered
    | some found =>
      obtain ⟨rfl, rfl⟩ := Lower.pure_eq_some.1 rest
      exact gathered.put (identified_of_memberProperties looked le all found rfl)
  | none =>
    simp only [written, Lower.bind_eq_some, Lower.pure_eq_some, pushModel_eq_some] at run
    obtain ⟨memberName, start, -, model, middle, made, -, last, rfl, rfl, rfl⟩ := run
    exact gathered.put (all model (Draft.mem_models_of_le le List.mem_cons_self))

theorem identified_composed {merge : Merge} {own : List Property} {additional : Option DataType}
    (gathered : Identified merge.properties) (added : Identified own) :
    Identified (composed name schema origin merge own additional).properties := by
  intro property mem
  simp only [composed, dropPlaceholders, requireNames, List.map_map, List.mem_map] at mem
  obtain ⟨source, inside, rfl⟩ := mem
  exact gathered.put added source inside

theorem identified_of_modelOf (run : modelOf n scope kind name schema origin depth draft = some (model, draft'))
    (all : AllIdentified draft') : Identified model.properties := by
  cases kind with
  | enumeration =>
    obtain ⟨rfl, -⟩ := Lower.pure_eq_some.1 run
    exact identified_nil
  | union =>
    obtain ⟨properties, owned, rfl⟩ := unionModel_eq_some.1 run
    exact identified_of_lowerProperties owned
  | composition =>
    cases n with
    | zero => cases run
    | succ n =>
      obtain ⟨contributions, first, own, second, additional, gathered, owned, valued, rfl⟩ :=
        compositionModel_eq_some.1 run
      -- members are merged before the own properties are lowered, which changes nothing about models
      have leOwn := (lowerProperties_run composes_le (typesKeep_le _) owned).1
      have leValued := additionalType_keeps composes_le (typesKeep_le _) valued
      have merged := gathered_of_contributions (P := fun merge => Identified merge.properties) gathered
        (fun step le => identified_of_contribution step (le_trans le (le_trans leOwn leValued)) all)
        ⟨schema.description, [], []⟩ identified_nil
      exact identified_composed merged (identified_of_lowerProperties owned)
  | record =>
    obtain ⟨properties, _, _, owned, -, rfl⟩ := recordModel_eq_some.1 run
    exact identified_of_lowerProperties owned
  | typeAlias =>
    obtain ⟨properties, _, _, owned, -, rfl⟩ := recordModel_eq_some.1 run
    exact identified_of_lowerProperties owned
  | unsupported reason =>
    obtain ⟨rfl, -⟩ := Lower.pure_eq_some.1 run
    exact identified_nil

theorem AllIdentified.push (all : AllIdentified draft) (own : Identified model.properties) :
    AllIdentified (draft.push model) :=
  List.forall_mem_cons.2 ⟨own, all⟩

theorem identified_composes : Composes fun draft draft' => AllIdentified draft → AllIdentified draft' :=
  ⟨fun _ => id, fun first second all => second (first all)⟩

theorem identified_steps (components : List (String × Schema)) :
    Steps components (fun _ => True) fun _ draft draft' => AllIdentified draft → AllIdentified draft' where
  composes _ := identified_composes
  inline _ _ within run all := (within all).push (identified_of_modelOf run (within all))
  component _ _ _ _ within run all := (within all).push (identified_of_modelOf run (within all))

end Models

theorem identified_of_run (components : List (String × Schema)) (n : Nat) :
    RunsKeep components (fun _ => True) (fun _ draft draft' => AllIdentified draft → AllIdentified draft') n :=
  steps_of_run (closed_true components) (identified_steps components) n

section Operations

variable {components : List (String × Schema)} {n : Nat} {owner : String} {declared : Declared}
  {draft draft' : Draft}

theorem memberProperties_identify (n : Nat) (key : String) (depth : Nat) :
    Ensures AllIdentified (memberProperties n ⟨components, []⟩ key depth).work
      fun _ found => ∀ member ∈ found, Identified member.2 := by
  intro draft found draft' all run
  have kept := (identified_of_run components n).2.2.1 trivial run all
  exact ⟨memberProperties_le run, kept, identified_of_memberProperties run (le_refl _) kept⟩

theorem lowerProperties_identify (schema : Schema) :
    Ensures AllIdentified (lowerProperties components (typeOf n ⟨components, []⟩) owner schema).work
      fun _ properties => Identified properties := by
  intro draft properties draft' all run
  have types : TypesKeep (fun draft draft' => AllIdentified draft → AllIdentified draft')
      (typeOf n ⟨components, []⟩) schema.propertySchemas :=
    fun _ _ _ _ _ _ _ typed => (identified_of_run components n).1 trivial typed
  refine ⟨(lowerProperties_run composes_le (typesKeep_le _) run).1, ?_, ?_⟩
  · exact (lowerProperties_run identified_composes types run).1 all
  · change (lowerProperties (Scope.mk components []).components _ _ _).work _ = _ at run
    exact identified_of_lowerProperties run

theorem Identified.foldl {start : List Property} (first : Identified start) {parts : List (List Property)}
    (each : ∀ part ∈ parts, Identified part) : Identified (parts.foldl putProperties start) := by
  induction parts generalizing start with
  | nil => exact first
  | cons part rest ih =>
    have merged := first.put (each part List.mem_cons_self)
    exact ih merged fun other mem => each other (List.mem_cons_of_mem part mem)

theorem formProperties_identify (form : Schema) (depth : Nat) :
    Ensures AllIdentified (formProperties n ⟨components, []⟩ form owner depth).work
      fun _ properties => Identified properties := by
  induction n generalizing form depth with
  | zero =>
    intro draft properties draft' _ run
    cases run
  | succ n ih =>
    rw [formProperties_succ]
    cases form.ref with
    | some ref =>
      apply (memberProperties_identify n _ _).map
      intro draft found identified
      cases found with
      | none => exact identified_nil
      | some member => exact identified member rfl
    | none =>
      have lasting : Lasting fun (_ : Draft) (properties : List Property) => Identified properties :=
        fun _ _ _ _ identified => identified
      refine Ensures.bind (Q := fun _ properties => Identified properties) ?_ lasting fun merged => ?_
      · apply (Ensures.mapM lasting fun member _ => ih member (depth + 1)).map
        exact fun _ parts each => identified_nil.foldl each
      · apply (lowerProperties_identify form).map
        exact fun _ own identified first => first.put identified

/-- A parameter has the identifier of its name on the wire, unless it is a payload with the name of its
type, or none. -/
def Wired (parameter : Parameter) : Prop :=
  parameter.name = identifier parameter.wireName ∨
    parameter.location = .body ∧ ∃ word, parameter.name = identifier word

theorem wired_of_bodyParameter {body : OpenApi.RequestBody} {media : String} {schema : Option Schema}
    {scope : Scope} {parameter : Parameter}
    (run : bodyParameter n scope owner body media schema draft = some (parameter, draft')) :
    Wired parameter := by
  have word : "body" = identifier "body" := by rfl
  cases schema with
  | none =>
    obtain ⟨rfl, -⟩ := Lower.pure_eq_some.1 run
    exact .inl word
  | some schema =>
    simp only [bodyParameter, Lower.bind_eq_some, Lower.pure_eq_some] at run
    obtain ⟨_, _, -, rfl, -⟩ := run
    right
    refine ⟨rfl, ?_⟩
    dsimp only
    split
    · exact ⟨_, rfl⟩
    · exact ⟨"body", word⟩

theorem wired_of_lowerRequest {body : List Parameter} (all : AllIdentified draft)
    (run : lowerRequest n ⟨components, []⟩ owner declared draft = some (body, draft')) :
    ∀ parameter ∈ body, Wired parameter := by
  unfold lowerRequest at run
  cases sent : declared.operation.requestBody with
  | none =>
    rw [sent] at run
    obtain ⟨rfl, -⟩ := Lower.pure_eq_some.1 run
    simp
  | some request =>
    simp only [sent, lowerBody_eq] at run
    cases travels : sentForm? request.content with
    | some form =>
      simp only [travels, Lower.map_eq_some] at run
      obtain ⟨properties, read, rfl⟩ := run
      intro parameter mem
      obtain ⟨property, inside, rfl⟩ := List.mem_map.1 mem
      exact .inl ((formProperties_identify form 0 _ _ _ all read).2.2 property inside)
    | none =>
      rcases picked : pickPayload? request.content with _ | ⟨media, schema⟩
      · simp only [travels, picked, Lower.pure_eq_some] at run
        obtain ⟨rfl, -⟩ := run
        simp
      · simp only [travels, picked, Lower.map_eq_some] at run
        obtain ⟨parameter, made, rfl⟩ := run
        intro other mem
        rw [List.mem_singleton.1 mem]
        exact wired_of_bodyParameter made

theorem wired_of_loweredBetween {R : Draft → Draft → Prop} {scope : Scope}
    {sources : List OpenApi.Parameter} {lowered : List Parameter}
    (each : List.Forall₂ (LoweredBetween R n scope owner draft draft') sources lowered) :
    ∀ parameter ∈ lowered, Wired parameter := by
  induction each with
  | nil => simp
  | cons made _ ih =>
    have first : Wired _ := .inl (by rw [made.name, made.wireName])
    exact List.forall_mem_cons.2 ⟨first, ih⟩

theorem wired_of_lowerOperation {operation : Operation}
    (kept : KeepsAsked (fun draft draft' => AllIdentified draft → AllIdentified draft') ⟨components, []⟩ declared)
    (all : AllIdentified draft)
    (run : lowerOperation n ⟨components, []⟩ declared draft = .ok (operation, draft')) :
    ∀ parameter ∈ operation.parameters, Wired parameter := by
  obtain ⟨parameters, body, responses, a, b, one, two, -, -, same, -⟩ := lowerOperation_run run
  obtain ⟨first, each⟩ := lowerParameters_run kept.composes
    (fun parameter mem travels => kept.type (.parameter mem travels) n) one
  intro parameter mem
  rw [same] at mem
  rcases List.mem_append.1 mem with declared | sent
  · exact wired_of_loweredBetween each parameter declared
  · exact wired_of_lowerRequest (first all) two parameter sent

end Operations

/-- Identifiers of names on the wire name the properties of models and the parameters of operations. -/
structure NamedFromWire (api : Api) : Prop where
  properties : ∀ model ∈ api.models, Identified model.properties
  parameters : ∀ operation ∈ api.operations, ∀ parameter ∈ operation.parameters, Wired parameter

theorem namedFromWire_of_lower {doc : NormalDocument} {api : Api} (run : lower doc = .ok api) :
    NamedFromWire api := by
  obtain ⟨operations, middle, draft, components, rest, models, rfl⟩ := lower_run run
  have made : AllIdentified middle := by
    rw [work_lowerComponents] at components
    refine (forM_run identified_composes (fun entry mem draft draft' run => ?_) components).1 nofun
    exact (identified_of_run doc.document.components _).2.2.2 trivial run
  have kept : ∀ declared ∈ declaredOperations doc.document,
      KeepsAsked (fun draft draft' => AllIdentified draft → AllIdentified draft')
        ⟨doc.document.components, []⟩ declared :=
    fun _ listed => keepsAsked_of_runs identified_composes (identified_of_run doc.document.components)
      (fun _ _ => trivial) (fun _ _ => trivial) listed
  obtain ⟨all, each⟩ := runs_of_lowerOperations identified_composes
    (fun declared listed _ _ _ one => lowerOperation_keeps (kept declared listed) one) rest
  constructor
  · intro model mem
    rw [models, List.mem_reverse] at mem
    exact all made model mem
  · intro operation mem
    obtain ⟨declared, listed, before, after, start, one, -⟩ := exists_of_forall₂_right each mem
    exact wired_of_lowerOperation (kept declared listed) (start made) one

end OpenApiCodegen.Lowering
