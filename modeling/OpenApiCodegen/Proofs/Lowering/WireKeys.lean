import OpenApiCodegen.Proofs.Lowering.CallMeasure
import OpenApiCodegen.Proofs.Lowering.Inheritance
import OpenApiCodegen.Proofs.Lowering.ParameterKeys
import OpenApiCodegen.Proofs.Lowering.Starts
import OpenApiCodegen.Proofs.OpenApi.KeyedDocuments

namespace OpenApiCodegen.Lowering

open Api
open OpenApi (Schema SchemaKind Document NormalDocument componentName)

/-- The call is for a schema that lists no property twice. -/
def Call.Keyed : Call → Prop
  | .type schema _ _ => schema.Keyed
  | .model _ schema _ _ => schema.Keyed
  | .member _ _ _ => True
  | .component _ schema _ _ => schema.Keyed

def KeysApart (draft : Draft) : Prop :=
  ∀ model ∈ draft.models, (wireNames model.properties).Nodup

section Models

variable {components : List (String × Schema)} {scope : Scope} {n depth : Nat} {kind : SchemaKind}
  {schema : Schema} {name owner key : String} {origin : Origin} {draft draft' : Draft} {model : Model}

theorem closed_keyed (keyed : ∀ entry ∈ components, entry.2.Keyed) : Closed components Call.Keyed := by
  intro call call' begun calls
  cases calls with
  | onward planned =>
    rcases plan_onward planned with ⟨key, looked⟩ | inside
    · exact keyed _ (mem_of_lookup looked)
    · exact Schema.Keyed.child begun inside
  | made => exact begun
  | content mem =>
    rcases mem_children_of_contentsAs mem with inside | ⟨member, inside, deeper⟩
    · exact Schema.Keyed.child begun inside
    · exact (Schema.Keyed.child begun inside).child deeper
  | reference => trivial
  | hop => trivial
  | lower _ looked => exact keyed _ (mem_of_lookup looked)
  | entered => exact begun

theorem wireNames_nodup_of_modelOf (keyed : schema.Keyed)
    (run : modelOf n scope kind name schema origin depth draft = some (model, draft')) :
    (wireNames model.properties).Nodup := by
  cases kind with
  | enumeration =>
    obtain ⟨rfl, -⟩ := Lower.pure_eq_some.1 run
    exact List.nodup_nil
  | union =>
    obtain ⟨properties, owned, rfl⟩ := unionModel_eq_some.1 run
    rw [wireNames_of_lowerProperties owned]
    exact keyed.distinct
  | composition =>
    cases n with
    | zero => cases run
    | succ n =>
      obtain ⟨_, _, _, _, _, -, -, -, rfl⟩ := compositionModel_eq_some.1 run
      rw [wireNames_composed]
      exact firsts_nodup _
  | record =>
    rw [wireNames_of_recordModel run]
    exact keyed.distinct
  | typeAlias =>
    rw [wireNames_of_recordModel run]
    exact keyed.distinct
  | unsupported reason =>
    obtain ⟨rfl, -⟩ := Lower.pure_eq_some.1 run
    exact List.nodup_nil

theorem KeysApart.push (apart : KeysApart draft) (own : (wireNames model.properties).Nodup) :
    KeysApart (draft.push model) :=
  List.forall_mem_cons.2 ⟨own, apart⟩

theorem keysApart_composes : Composes fun draft draft' => KeysApart draft → KeysApart draft' :=
  ⟨fun _ => id, fun first second apart => second (first apart)⟩

theorem keyed_of_unnamed {active : List String} (unnamed : Unnamed Call.Keyed active kind schema depth) :
    schema.Keyed := by
  rcases unnamed with asked | ⟨whole, asked, inside⟩
  · exact asked
  · refine Schema.Keyed.child asked ?_
    have listed := List.mem_of_mem_filter inside
    simp [Schema.children, listed]

theorem keysApart_steps : Steps components Call.Keyed fun _ draft draft' =>
    KeysApart draft → KeysApart draft' where
  composes _ := keysApart_composes
  inline unnamed _ within run apart :=
    (within apart).push (wireNames_nodup_of_modelOf (keyed_of_unnamed unnamed) run)
  component called _ _ _ within run apart :=
    (within apart).push (wireNames_nodup_of_modelOf called run)

theorem keysApart_of_run (keyed : ∀ entry ∈ components, entry.2.Keyed) (n : Nat) :
    RunsKeep components Call.Keyed (fun _ draft draft' => KeysApart draft → KeysApart draft') n :=
  steps_of_run (closed_keyed keyed) keysApart_steps n

end Models

section Forms

variable {scope : Scope} {n depth : Nat} {form : Schema} {owner key : String} {draft draft' : Draft}

theorem nodup_of_memberProperties {found : Option (String × List Property)} (apart : KeysApart draft')
    (run : (memberProperties n scope key depth).work draft = some (found, draft')) :
    ∀ member ∈ found, (wireNames member.2).Nodup := by
  induction n generalizing key depth with
  | zero => cases run
  | succ n ih =>
    rcases memberProperties_run run with ⟨rfl, -, -⟩ | ⟨_, _, _, _, inner, _, run⟩ |
      ⟨target, -, -, -, -, rfl⟩
    · simp
    · exact ih run
    · rintro _ ⟨⟩
      cases present : draft'.model? (typeName key) with
      | none => exact List.nodup_nil
      | some model => exact apart model (List.mem_of_find?_eq_some present)

theorem wireNames_foldl_putProperties {properties : List Property} {names : List String}
    (start : wireNames properties = firsts names) (parts : List (List Property)) :
    wireNames (parts.foldl putProperties properties) = firsts (names ++ parts.flatMap wireNames) := by
  induction parts generalizing properties names with
  | nil => simpa using start
  | cons part rest ih =>
    rw [List.foldl_cons, List.flatMap_cons, ← List.append_assoc]
    exact ih (wireNames_putProperties start part)

theorem nodup_of_formProperties {properties : List Property} (apart : KeysApart draft')
    (run : (formProperties n scope form owner depth).work draft = some (properties, draft')) :
    (wireNames properties).Nodup := by
  cases n with
  | zero => cases run
  | succ n =>
    rw [formProperties_succ] at run
    cases written : form.ref with
    | some ref =>
      simp only [written, Lower.map_eq_some] at run
      obtain ⟨found, looked, rfl⟩ := run
      cases found with
      | none => exact List.nodup_nil
      | some member => exact nodup_of_memberProperties apart looked member rfl
    | none =>
      simp only [written, Lower.bind_eq_some, Lower.map_eq_some] at run
      obtain ⟨_, middle, ⟨parts, -, rfl⟩, own, -, rfl⟩ := run
      have start : wireNames [] = firsts [] := rfl
      have merged : wireNames (parts.foldl putProperties []) = firsts (parts.flatMap wireNames) :=
        wireNames_foldl_putProperties start parts
      rw [wireNames_putProperties merged]
      exact firsts_nodup _

end Forms

section Operations

variable {scope : Scope} {n : Nat} {owner : String} {declared : Declared} {draft draft' : Draft}

theorem nodup_of_lowerRequest {body : List Parameter} (apart : KeysApart draft')
    (run : lowerRequest n scope owner declared draft = some (body, draft')) :
    (body.map Parameter.key).Nodup := by
  unfold lowerRequest at run
  cases sent : declared.operation.requestBody with
  | none =>
    rw [sent] at run
    obtain ⟨rfl, -⟩ := Lower.pure_eq_some.1 run
    exact List.nodup_nil
  | some request =>
    simp only [sent, lowerBody_eq] at run
    cases travels : sentForm? request.content with
    | some form =>
      simp only [travels, Lower.map_eq_some] at run
      obtain ⟨properties, read, rfl⟩ := run
      have names := nodup_of_formProperties apart read
      rw [wireNames, List.Nodup, List.pairwise_map] at names
      rw [List.map_map, List.Nodup, List.pairwise_map]
      exact names.imp fun other same => other (Prod.mk.inj same).2
    | none =>
      rcases picked : pickPayload? request.content with _ | ⟨media, schema⟩
      · simp only [travels, picked, Lower.pure_eq_some] at run
        obtain ⟨rfl, -⟩ := run
        exact List.nodup_nil
      · simp only [travels, picked, Lower.map_eq_some] at run
        obtain ⟨parameter, -, rfl⟩ := run
        exact List.nodup_singleton _

theorem keys_nodup_of_lowerOperation {operation : Operation}
    (kept : KeepsAsked (fun draft draft' => KeysApart draft → KeysApart draft') scope declared)
    (apart : KeysApart draft) (run : lowerOperation n scope declared draft = .ok (operation, draft')) :
    (operation.parameters.map Parameter.key).Nodup := by
  obtain ⟨parameters, body, responses, a, b, one, two, -, -, same, -⟩ := lowerOperation_run run
  have first : KeysApart a := (lowerParameters_run kept.composes
    (fun parameter mem travels => kept.type (.parameter mem travels) n) one).1 apart
  have second : KeysApart b := lowerRequest_keeps kept two first
  rw [same, List.map_append, List.nodup_append]
  have keys := keys_of_lowerParameters one
  refine ⟨?_, nodup_of_lowerRequest second two, ?_⟩
  · rw [keys, keys_mergeParameters]
    exact List.Nodup.filterMap (fun _ _ _ => placedKey?_injective) (firsts_nodup _)
  · -- what is declared is no payload
    rintro key mem other inside rfl
    rw [keys] at mem
    obtain ⟨written, -, placed⟩ := List.mem_filterMap.1 mem
    obtain ⟨parameter, listed, same⟩ := List.mem_map.1 inside
    obtain ⟨location, known, rfl⟩ := Option.map_eq_some_iff.1 placed
    obtain ⟨rfl, -⟩ := Prod.mk.inj same
    have elsewhere := not_isPayload_of_location? known
    rw [isPayload_of_lowerRequest two parameter listed] at elsewhere
    cases elsewhere

end Operations

section Documents

/-- Names on the wire tell the properties of a model apart, and together with places the parameters of an
operation. -/
structure WireKeysApart (api : Api) : Prop where
  properties : ∀ model ∈ api.models, (model.properties.map (·.wireName)).Nodup
  parameters : ∀ operation ∈ api.operations, (operation.parameters.map Parameter.key).Nodup

theorem wireKeysApart_of_lower {doc : NormalDocument} {api : Api} (keyed : doc.document.Keyed)
    (run : lower doc = .ok api) : WireKeysApart api := by
  obtain ⟨operations, middle, draft, components, rest, models, rfl⟩ := lower_run run
  have components_keyed : ∀ entry ∈ doc.document.components, entry.2.Keyed :=
    fun entry mem => keyed.component mem
  have made : KeysApart middle := by
    rw [work_lowerComponents] at components
    refine (forM_run keysApart_composes (fun entry mem draft draft' run => ?_) components).1 nofun
    exact (keysApart_of_run components_keyed _).2.2.2 (components_keyed entry mem) run
  have kept : ∀ declared ∈ declaredOperations doc.document,
      KeepsAsked (fun draft draft' => KeysApart draft → KeysApart draft') ⟨doc.document.components, []⟩
        declared :=
    fun _ listed => keepsAsked_of_runs keysApart_composes (keysApart_of_run components_keyed)
      (fun _ mem => keyed.of_mem_allSchemas mem) (fun _ _ => trivial) listed
  obtain ⟨apart, each⟩ := runs_of_lowerOperations keysApart_composes
    (fun declared listed _ _ _ one => lowerOperation_keeps (kept declared listed) one) rest
  constructor
  · intro model mem
    rw [models, List.mem_reverse] at mem
    exact apart made model mem
  · intro operation mem
    obtain ⟨declared, listed, before, after, start, one, -⟩ := exists_of_forall₂_right each mem
    exact keys_nodup_of_lowerOperation (kept declared listed) (start made) one

/-- Tables of documents that are read have no key twice. From documents whose tables have none, all APIs
have their names on the wire apart. -/
theorem wireKeys_apart :
    (∀ {format : OpenApi.TextFormat} {text : String} {doc : Document},
      Document.read? format text = some doc → doc.Keyed) ∧
    ∀ {doc : Document} {api : Api}, doc.Keyed → lower (.of doc) = .ok api → WireKeysApart api :=
  ⟨OpenApi.keyed_of_read, fun keyed run => wireKeysApart_of_lower (OpenApi.keyed_normalize keyed) run⟩

/-- Dogs are registered with a form. A member of theirs is named again, and so is a parameter. -/
def registration : Document where
  openapi := none
  info := none
  paths := [("/dogs",
    { get := none
      post := some
        { operationId := none
          summary := none
          description := none
          deprecated := false
          tags := []
          parameters := some [parameterAt "query" "page" none]
          requestBody := some
            { required := true
              description := none
              content := [("multipart/form-data", some { ref := some "#/components/schemas/Dog" })] }
          responses := [] }
      put := none
      patch := none
      delete := none
      parameters := some [parameterAt "query" "page" none, parameterAt "header" "page" none] })]
  schemas := some
    [("Animal", { properties := some [("name", { typeNames := some (.single "string") })] }),
      ("Dog",
        { allOf := some
            [{ ref := some "#/components/schemas/Animal" },
              { properties := some [("name", { typeNames := some (.single "string") }), ("bark", {})] }] })]
  tags := []
  source := none

/-- A property that is written twice in a text is read once. -/
theorem registration_apart :
    (∃ doc, Document.read? .json ("\x7b\"components\":\x7b\"schemas\":\x7b\"Pet\":\x7b\"properties\":" ++
        "\x7b\"id\":\x7b\x7d,\"id\":\x7b\x7d\x7d\x7d\x7d\x7d\x7d") = some doc ∧
      doc.components.map (fun entry => propertyKeys entry.2) = [["id"]] ∧ doc.Keyed) ∧
    registration.Keyed ∧ ∃ api, lower (.of registration) = .ok api ∧
      api.models.map (fun model => wireNames model.properties) = [["name"], ["name", "bark"], ["name", "bark"]] ∧
      api.operations.map (fun operation => operation.parameters.map Parameter.key) =
        [[(.query, "page"), (.header, "page"), (.form, "name"), (.form, "bark")]] ∧
      WireKeysApart api := by
  have keyed : registration.Keyed := Document.keyed_of_allSchemas (by decide)
  have seen : (lower (.of registration)).toOption.map (fun api : Api =>
      (api.models.map fun model => wireNames model.properties,
        api.operations.map fun operation => operation.parameters.map Parameter.key)) =
      some ([["name"], ["name", "bark"], ["name", "bark"]],
        [[(.query, "page"), (.header, "page"), (.form, "name"), (.form, "bark")]]) := by
    rfl
  obtain ⟨api, run, seen⟩ := exists_of_toOption_map seen
  obtain ⟨models, operations⟩ := Prod.mk.inj seen
  refine ⟨?_, keyed, api, run, models, operations, wireKeys_apart.2 keyed run⟩
  have read : (Document.read? .json
      ("\x7b\"components\":\x7b\"schemas\":\x7b\"Pet\":\x7b\"properties\":" ++
        "\x7b\"id\":\x7b\x7d,\"id\":\x7b\x7d\x7d\x7d\x7d\x7d\x7d")).map
      (fun doc : Document => doc.components.map fun entry => propertyKeys entry.2) = some [["id"]] := by
    decide +kernel
  obtain ⟨doc, read, names⟩ := Option.map_eq_some_iff.1 read
  exact ⟨doc, read, names, wireKeys_apart.1 read⟩

end Documents

end OpenApiCodegen.Lowering
