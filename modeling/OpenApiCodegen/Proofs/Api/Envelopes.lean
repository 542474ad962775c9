import OpenApiCodegen.Api.ReturnType
import OpenApiCodegen.Proofs.Api.Lookup

namespace OpenApiCodegen.Api

variable {api : Api} {model envelope : Model} {id : Nat} {applied : Instance}

def siblings (api : Api) (model envelope : Model) : List Model :=
  (model.members.filter (· != envelope.name)).filterMap api.model?

theorem envelopeOf?_eq_some (found : envelopeOf? api model = some (id, envelope)) :
    api.models[id]? = some envelope ∧ envelope.isEnvelope = true ∧
      api.modelId? envelope.name = some id ∧ envelope.name ∈ model.members := by
  obtain ⟨other, listed, applies⟩ := List.exists_of_findSome?_eq_some found
  obtain ⟨part, at_, isEnvelope⟩ := Option.bind_eq_some_iff.1 applies
  split at isEnvelope
  · rename_i generic
    cases isEnvelope
    obtain ⟨name, member, last⟩ := List.mem_filterMap.1 listed
    rw [name_of_modelId? last at_]
    exact ⟨at_, generic, last, member⟩
  · cases isEnvelope

theorem instance?_eq_some : instance? api model = some applied ↔
    ∃ envelope, envelopeOf? api model = some (applied.id, envelope) ∧
      applied.envelope = envelope.name ∧
        envelope.placeholders.mapM (argument? envelope (siblings api model envelope)) =
          some applied.arguments := by
  obtain ⟨id, name, arguments⟩ := applied
  simp only [instance?, Option.bind_eq_bind, Option.bind_eq_some_iff, Option.some.injEq, Prod.exists,
    Instance.mk.injEq]
  constructor
  · rintro ⟨id, envelope, found, arguments, matched, rfl, rfl, rfl⟩
    exact ⟨envelope, found, rfl, matched⟩
  · rintro ⟨envelope, found, rfl, matched⟩
    exact ⟨id, envelope, found, arguments, matched, rfl, rfl, rfl⟩

theorem mem_siblings {sibling : Model} (mem : sibling ∈ siblings api model envelope) :
    sibling ∈ api.models ∧ sibling.name ∈ model.members := by
  obtain ⟨name, member, found⟩ := List.mem_filterMap.1 mem
  obtain ⟨id, last, at_⟩ := model?_eq_some found
  rw [name_of_modelId? last at_]
  exact ⟨List.mem_of_getElem? at_, List.mem_of_mem_filter member⟩

theorem siblingType?_eq_some {among : List Model} {wireName : String} {type : DataType}
    (found : siblingType? among wireName = some type) :
    ∃ sibling ∈ among, ∃ property ∈ sibling.properties,
      property.wireName = wireName ∧ property.placeholder = none ∧ property.type = type := by
  obtain ⟨sibling, mem, found⟩ := List.exists_of_findSome?_eq_some found
  obtain ⟨property, filtered, typed⟩ := Option.map_eq_some_iff.1 found
  obtain ⟨found, plain⟩ := Option.filter_eq_some_iff.1 filtered
  exact ⟨sibling, mem, property, List.mem_of_find?_eq_some found,
    by simpa using List.find?_some found, by simpa using plain, typed⟩

theorem mem_of_mapM {α β : Type} {f : α → Option β} {items : List α} {results : List β}
    (run : items.mapM f = some results) {b : β} (mem : b ∈ results) : ∃ a ∈ items, f a = some b := by
  induction items generalizing results with
  | nil =>
    cases run
    cases mem
  | cons a rest ih =>
    simp only [List.mapM_cons, Option.bind_eq_bind, Option.bind_eq_some_iff, Option.pure_def,
      Option.some.injEq] at run
    obtain ⟨first, here, others, later, rfl⟩ := run
    rcases List.mem_cons.1 mem with rfl | mem
    · exact ⟨a, List.mem_cons_self, here⟩
    · obtain ⟨other, inside, found⟩ := ih later mem
      exact ⟨other, List.mem_cons_of_mem a inside, found⟩

theorem argument_typed (found : instance? api model = some applied) {argument : DataType}
    (mem : argument ∈ applied.arguments) :
    ∃ sibling ∈ api.models, sibling.name ∈ model.members ∧ argument ∈ sibling.types := by
  obtain ⟨envelope, -, -, matched⟩ := instance?_eq_some.1 found
  obtain ⟨parameter, -, given⟩ := mem_of_mapM matched mem
  obtain ⟨placeholder, -, typed⟩ := List.exists_of_findSome?_eq_some given
  obtain ⟨sibling, among, property, inside, -, -, rfl⟩ := siblingType?_eq_some typed
  obtain ⟨known, member⟩ := mem_siblings among
  exact ⟨sibling, known, member, List.mem_append_left _ (List.mem_map_of_mem inside)⟩

def answered? (api : Api) (operation : Operation) : Option (Model × Instance) :=
  match operation.successBody? with
  | some (.model name) =>
    (api.model? name).bind fun model => (instance? api model).map fun applied => (model, applied)
  | _ => none

theorem returnType_eq (api : Api) (operation : Operation) :
    returnType api operation =
      match answered? api operation with
      | some (_, applied) => .envelope applied
      | none => (operation.successBody?.map ReturnType.data).getD .nothing := by
  unfold returnType answered?
  cases operation.successBody? with
  | none => rfl
  | some body =>
    cases body with
    | model name =>
      cases found : api.model? name with
      | none => simp [bodyInstance?, found]
      | some model =>
        cases applies : instance? api model with
        | none => simp [bodyInstance?, found, applies]
        | some applied => simp [bodyInstance?, found, applies]
    | _ => rfl

theorem answered?_eq_some {operation : Operation}
    (found : answered? api operation = some (model, applied)) :
    model ∈ api.models ∧ instance? api model = some applied := by
  unfold answered? at found
  split at found
  · obtain ⟨body, known, applies⟩ := Option.bind_eq_some_iff.1 found
    obtain ⟨_, run, same⟩ := Option.map_eq_some_iff.1 applies
    cases same
    obtain ⟨id, -, at_⟩ := model?_eq_some known
    exact ⟨List.mem_of_getElem? at_, run⟩
  · cases found

theorem successBody_mem {operation : Operation} {body : DataType}
    (success : operation.successBody? = some body) :
    ∃ response ∈ operation.responses, response.body = some body := by
  obtain ⟨response, found, carries⟩ := Option.bind_eq_some_iff.1 success
  exact ⟨response, List.mem_of_find?_eq_some found, carries⟩

end OpenApiCodegen.Api
