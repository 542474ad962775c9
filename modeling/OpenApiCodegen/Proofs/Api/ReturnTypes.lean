import OpenApiCodegen.Proofs.Api.Envelopes
import OpenApiCodegen.Proofs.List.Firsts
import OpenApiCodegen.Proofs.List.Search

namespace OpenApiCodegen.Api

def Operation.SucceedsWith (operation : Operation) (body? : Option DataType) : Prop :=
  ∃ response, IsFirst (fun other : Response => other.statusClass = .success) operation.responses
    response ∧ response.body = body?

def Model.IsGeneric (model : Model) : Prop :=
  model.shape = .record ∧ ∃ property ∈ model.properties, ∃ parameter,
    property.placeholder = some parameter

/-- The property with the wire name stands for no type parameter and has the type. Of several
properties with one wire name a model has the first. -/
def Model.Declares (model : Model) (wireName : String) (type : DataType) : Prop :=
  ∃ property, IsFirst (fun other : Property => other.wireName = wireName) model.properties property ∧
    property.placeholder = none ∧ property.type = type

section Matching

variable (api : Api) (model envelope : Model)

def Applies (id : Nat) : Prop :=
  ∃ member, IsFirst (fun name => ∃ part, api.model? name = some part ∧ part.IsGeneric)
    model.members member ∧ api.modelId? member = some id ∧ api.models[id]? = some envelope

def Gives (wireName member : String) (type : DataType) : Prop :=
  member ≠ envelope.name ∧
    ∃ sibling, api.model? member = some sibling ∧ sibling.Declares wireName type

def Fills (parameter : String) (property : Property) : Prop :=
  property.placeholder = some parameter ∧
    ∃ member ∈ model.members, ∃ type, Gives api envelope property.wireName member type

def FillsFirst (parameter : String) (type : DataType) : Prop :=
  ∃ property, IsFirst (Fills api model envelope parameter) envelope.properties property ∧
    ∃ member, IsFirst (fun name => ∃ type, Gives api envelope property.wireName name type)
      model.members member ∧ Gives api envelope property.wireName member type

structure AppliesFully (id : Nat) : Prop where
  applies : Applies api model envelope id
  filled : ∀ parameter ∈ envelope.placeholders, ∃ property ∈ envelope.properties,
    Fills api model envelope parameter property

end Matching

section Searches

variable {api : Api} {model envelope : Model} {id : Nat} {operation : Operation} {type : DataType}
  {wireName parameter member : String}

theorem successBody?_eq_some {body : DataType} :
    operation.successBody? = some body ↔ operation.SucceedsWith (some body) := by
  unfold Operation.successBody? Operation.SucceedsWith
  simp only [Option.bind_eq_some_iff, find?_eq_some_iff, decide_eq_true_eq]

theorem successBody?_eq_none : operation.successBody? = none ↔
    (∀ response ∈ operation.responses, response.statusClass ≠ .success) ∨
      operation.SucceedsWith none := by
  unfold Operation.successBody? Operation.SucceedsWith
  cases found : operation.responses.find? (·.statusClass = .success) with
  | none =>
    have absent : ∀ response ∈ operation.responses, response.statusClass ≠ .success := by
      simpa using found
    exact ⟨fun _ => .inl absent, fun _ => rfl⟩
  | some response =>
    have first := find?_eq_some_iff.1 found
    simp only [decide_eq_true_eq] at first
    rw [Option.bind_some]
    constructor
    · exact fun bare => .inr ⟨response, first, bare⟩
    · rintro (absent | ⟨other, first', bare⟩)
      · exact absurd first.holds (absent response first.mem)
      · have same : some response = some other := by
          rw [← found]
          exact find?_eq_some_iff.2 (by simpa using first')
        exact Option.some.inj same ▸ bare

theorem mem_placeholders :
    parameter ∈ model.placeholders ↔
      ∃ property ∈ model.properties, property.placeholder = some parameter := by
  rw [Model.placeholders, mem_firsts, List.mem_filterMap]

theorem isEnvelope_iff : model.isEnvelope = true ↔ model.IsGeneric := by
  have shape : model.isRecord = true ↔ model.shape = .record := by
    unfold Model.isRecord
    cases model.shape <;> simp
  have parameters : (!model.placeholders.isEmpty) = true ↔
      ∃ property ∈ model.properties, ∃ parameter, property.placeholder = some parameter := by
    rw [Bool.not_eq_true', List.isEmpty_eq_false_iff_exists_mem]
    simp only [mem_placeholders]
    exact ⟨fun ⟨parameter, property, mem, stands⟩ => ⟨property, mem, parameter, stands⟩,
      fun ⟨property, mem, parameter, stands⟩ => ⟨parameter, property, mem, stands⟩⟩
  unfold Model.isEnvelope Model.IsGeneric
  rw [Bool.and_eq_true, shape, parameters]

theorem envelopeOf?_eq_some_iff :
    envelopeOf? api model = some (id, envelope) ↔ Applies api model envelope id := by
  have generic : ∀ {name : String} {id : Nat} {part : Model},
      ((api.modelId? name).bind fun id => (api.models[id]?).bind fun part : Model =>
        if part.isEnvelope then some (id, part) else none) = some (id, part) ↔
      api.modelId? name = some id ∧ api.models[id]? = some part ∧ part.IsGeneric := by
    intro name id part
    simp only [Option.bind_eq_some_iff, Option.ite_none_right_eq_some, isEnvelope_iff,
      Option.some.injEq, Prod.mk.injEq]
    constructor
    · rintro ⟨_, last, _, at_, generic, rfl, rfl⟩
      exact ⟨last, at_, generic⟩
    · rintro ⟨last, at_, generic⟩
      exact ⟨id, last, part, at_, generic, rfl, rfl⟩
  have known : ∀ name, (∃ id part, api.modelId? name = some id ∧ api.models[id]? = some part ∧
      part.IsGeneric) ↔ ∃ part, api.model? name = some part ∧ part.IsGeneric := by
    intro name
    simp only [Api.model?, Option.bind_eq_some_iff]
    exact ⟨fun ⟨id, part, last, at_, generic⟩ => ⟨part, ⟨id, last, at_⟩, generic⟩,
      fun ⟨part, ⟨id, last, at_⟩, generic⟩ => ⟨id, part, last, at_, generic⟩⟩
  unfold envelopeOf? Applies
  rw [findSome?_filterMap, findSome?_eq_some_iff]
  simp only [Prod.exists, generic, known]
  constructor
  · rintro ⟨member, first, last, at_, -⟩
    exact ⟨member, first, last, at_⟩
  · rintro ⟨member, first, last, at_⟩
    obtain ⟨id', part, last', at', generic⟩ := (known member).2 first.holds
    rw [last, Option.some_inj] at last'
    rw [← last', at_, Option.some_inj] at at'
    exact ⟨member, first, last, at_, at' ▸ generic⟩

def given? (api : Api) (envelope : Model) (wireName name : String) : Option DataType :=
  if name = envelope.name then none
  else (api.model? name).bind fun sibling =>
    ((sibling.property? wireName).filter (·.placeholder.isNone)).map (·.type)

theorem given?_eq_some :
    given? api envelope wireName member = some type ↔ Gives api envelope wireName member type := by
  have declares : ∀ sibling : Model,
      ((sibling.property? wireName).filter (·.placeholder.isNone)).map (·.type) = some type ↔
        sibling.Declares wireName type := by
    intro sibling
    unfold Model.Declares
    simp only [Option.map_eq_some_iff, Option.filter_eq_some_iff, Model.property?, find?_eq_some_iff,
      decide_eq_true_eq, Option.isNone_iff_eq_none, and_assoc]
  unfold given? Gives
  simp only [Option.ite_none_left_eq_some, Option.bind_eq_some_iff, declares, ne_eq]

theorem siblingType?_siblings : siblingType? (siblings api model envelope) wireName =
    model.members.findSome? (given? api envelope wireName) := by
  rw [siblingType?, siblings, findSome?_filterMap, findSome?_filter]
  congr 1
  funext name
  by_cases same : name = envelope.name <;> simp [given?, same]

theorem siblingType?_eq_some_iff :
    siblingType? (siblings api model envelope) wireName = some type ↔
      ∃ member, IsFirst (fun name => ∃ type, Gives api envelope wireName name type) model.members
        member ∧ Gives api envelope wireName member type := by
  rw [siblingType?_siblings, findSome?_eq_some_iff]
  simp only [given?_eq_some]

theorem exists_siblingType? :
    (∃ type, siblingType? (siblings api model envelope) wireName = some type) ↔
      ∃ member ∈ model.members, ∃ type, Gives api envelope wireName member type := by
  rw [siblingType?_siblings, exists_findSome?]
  simp only [given?_eq_some]

theorem argument?_eq_some_iff :
    argument? envelope (siblings api model envelope) parameter = some type ↔
      FillsFirst api model envelope parameter type := by
  have fills : ∀ property : Property, (∃ type, (if property.placeholder = some parameter then
      siblingType? (siblings api model envelope) property.wireName else none) = some type) ↔
        Fills api model envelope parameter property := by
    intro property
    simp only [Option.ite_none_right_eq_some, exists_and_left, exists_siblingType?]
    rfl
  unfold argument? FillsFirst
  rw [findSome?_filter, findSome?_eq_some_iff]
  simp only [decide_eq_true_eq, fills]
  simp only [Option.ite_none_right_eq_some, siblingType?_eq_some_iff]
  constructor
  · rintro ⟨property, first, -, found⟩
    exact ⟨property, first, found⟩
  · rintro ⟨property, first, found⟩
    exact ⟨property, first, first.holds.1, found⟩

theorem exists_argument? :
    (∃ type, argument? envelope (siblings api model envelope) parameter = some type) ↔
      ∃ property ∈ envelope.properties, Fills api model envelope parameter property := by
  unfold argument? Fills
  rw [exists_findSome?]
  simp only [List.mem_filter, decide_eq_true_eq, exists_siblingType?, and_assoc]

end Searches

section Application

variable {api : Api} {model envelope : Model} {id : Nat}

/-- The type parameters of an envelope, each once, and a type for each of them. -/
structure Instantiates (api : Api) (model envelope : Model) (parameters : List String)
    (arguments : List DataType) : Prop where
  signature : envelope.signature? = some parameters
  distinct : parameters.Nodup
  all : ∀ parameter, parameter ∈ parameters ↔
    ∃ property ∈ envelope.properties, property.placeholder = some parameter
  arguments : List.Forall₂ (FillsFirst api model envelope) parameters arguments

theorem AppliesFully.instance? (fully : AppliesFully api model envelope id) :
    ∃ parameters arguments, Instantiates api model envelope parameters arguments ∧
      instance? api model = some ⟨id, envelope.name, arguments⟩ := by
  have first := envelopeOf?_eq_some_iff.2 fully.applies
  obtain ⟨-, generic, -, -⟩ := envelopeOf?_eq_some first
  have each : ∀ parameter ∈ envelope.placeholders, ∃ type,
      argument? envelope (siblings api model envelope) parameter = some type :=
    fun parameter mem => exists_argument?.2 (fully.filled parameter mem)
  obtain ⟨arguments, matched⟩ := exists_mapM.2 each
  refine ⟨envelope.placeholders, arguments, ⟨?_, firsts_nodup _, fun _ => mem_placeholders, ?_⟩,
    instance?_eq_some.2 ⟨envelope, first, rfl, matched⟩⟩
  · rw [Model.signature?, if_pos generic]
  · exact (mapM_eq_some_iff.1 matched).imp fun parameter type => argument?_eq_some_iff.1

theorem exists_instance? :
    (∃ applied, instance? api model = some applied) ↔
      ∃ envelope id, AppliesFully api model envelope id := by
  constructor
  · rintro ⟨applied, found⟩
    obtain ⟨envelope, first, -, matched⟩ := instance?_eq_some.1 found
    have each := exists_mapM.1 ⟨applied.arguments, matched⟩
    exact ⟨envelope, applied.id, envelopeOf?_eq_some_iff.1 first,
      fun parameter mem => exists_argument?.1 (each parameter mem)⟩
  · rintro ⟨envelope, id, fully⟩
    obtain ⟨parameters, arguments, -, found⟩ := fully.instance?
    exact ⟨_, found⟩

end Application

/-- What an operation answers. Nothing without a success or if the first success has no body; the
envelope that a composition applies, if all of its parameters are filled; and else the body. -/
structure AnswersBody (api : Api) (operation : Operation) : Prop where
  nothing : (∀ response ∈ operation.responses, response.statusClass ≠ .success) ∨
    operation.SucceedsWith none → returnType api operation = .nothing
  envelope : ∀ name model envelope id, operation.SucceedsWith (some (.model name)) →
    api.model? name = some model → AppliesFully api model envelope id →
      ∃ parameters arguments, Instantiates api model envelope parameters arguments ∧
        returnType api operation = .envelope ⟨id, envelope.name, arguments⟩
  data : ∀ body, operation.SucceedsWith (some body) →
    (∀ name model envelope id, body = .model name → api.model? name = some model →
      ¬ AppliesFully api model envelope id) →
    returnType api operation = .data body

theorem answersBody (api : Api) (operation : Operation) : AnswersBody api operation where
  nothing silent := by
    rw [returnType, successBody?_eq_none.2 silent]
  envelope name model envelope id success known fully := by
    obtain ⟨parameters, arguments, instantiates, found⟩ := fully.instance?
    refine ⟨parameters, arguments, instantiates, ?_⟩
    rw [returnType, successBody?_eq_some.2 success]
    simp only [bodyInstance?, known, Option.bind_some, found]
  data body success unapplied := by
    have none : bodyInstance? api body = none := by
      refine Option.eq_none_iff_forall_ne_some.2 fun applied applies => ?_
      unfold bodyInstance? at applies
      split at applies
      · rename_i name
        obtain ⟨model, known, found⟩ := Option.bind_eq_some_iff.1 applies
        obtain ⟨envelope, id, fully⟩ := exists_instance?.1 ⟨applied, found⟩
        exact unapplied name model envelope id rfl known fully
      · cases applies
    rw [returnType, successBody?_eq_some.2 success]
    simp only [none]

end OpenApiCodegen.Api
