import OpenApiCodegen.Proofs.Generation.Declarations
import OpenApiCodegen.Proofs.Lowering.MemberIdentifiers
import OpenApiCodegen.Proofs.MobileClient.ModelFiles
import OpenApiCodegen.Proofs.Output.CodeText

namespace OpenApiCodegen

open Api (Model Operation Parameter Property Discriminator)
open Lowering (identifier wireNames Identified)
open Output (CodeUnit)

/-- Members that are declared together, and the code that declares them. -/
structure MemberList where
  names : List String
  code : List Code

namespace Server

def Record.memberList (record : Record) : MemberList :=
  ⟨record.fields.map (·.name), record.code⟩

def Declaration.memberLists : Declaration → List MemberList
  | record declared => [declared.memberList]
  | enumeration declared => [declared.wrapper.memberList]
  | union declared => [declared.wrapper.memberList]

end Server

namespace MobileClient

def RecordClass.factory (declared : RecordClass) : Factory :=
  ⟨declared.name, declared.parameters, "_" ++ declared.name⟩

def Factory.memberList (factory : Factory) : MemberList :=
  ⟨factory.parameters.map (·.name), factory.code⟩

def Method.memberList (method : Method) : MemberList :=
  ⟨(method.positional ++ method.named).map (·.name), method.code⟩

def Declaration.memberLists : Declaration → List MemberList
  | record declared => [declared.factory.memberList]
  | envelope declared => [⟨declared.fields.map (·.name), declared.code⟩]
  | enumeration _ => []
  | union declared => declared.factories.map Factory.memberList

end MobileClient

namespace WebClient

def Interface.memberList (declared : Interface) : MemberList :=
  ⟨declared.members.map (·.name), declared.code⟩

def Declaration.memberLists : Declaration → List MemberList
  | interface declared => [declared.memberList]
  | _ => []

end WebClient

def Api.recordsIn (api : Api) (model : Model) : List Model :=
  match model.shape with
  | .enumeration _ => []
  | .union discriminator => (api.ownVariants discriminator).map (·.2)
  | .record => [model]
  | .unsupported _ => [model]

namespace Target

def codeIndent : Target → String
  | mobileClient => MobileClient.indent
  | server => Server.indent
  | webClient => WebClient.indent

def modelLists (target : Target) (api : Api) (model : Model) : List MemberList :=
  match target with
  | mobileClient => (MobileClient.modelDeclaration api model).memberLists
  | server => (Server.modelDeclarations api model).flatMap (·.memberLists)
  | webClient => (WebClient.modelDeclarations api model).flatMap (·.memberLists)

/-- What is declared for the parameters of an operation. -/
def operationLists (target : Target) (api : Api) (operation : Operation) : List MemberList :=
  match target with
  | mobileClient => [(MobileClient.clientMethod api operation).memberList]
  | server =>
    if Server.hasParameters operation then [(Server.parametersStruct api operation).memberList] else []
  | webClient => (WebClient.request api operation).parameters.toList.map WebClient.Interface.memberList

def writtenModels (target : Target) (api : Api) (model : Model) : List Model :=
  match target with
  | mobileClient => MobileClient.writtenModels api model
  | server => api.recordsIn model
  | webClient => api.recordsIn model

/-- The parameters that callers give or handlers read; an interceptor adds the global ones for the clients. -/
def sent : Target → Operation → List Parameter
  | mobileClient => (·.locals)
  | server => (·.parameters)
  | webClient => (·.locals)

/-- The member for a property with a name on the wire. The web client keeps that name. -/
def memberName : Target → String → String
  | mobileClient, wireName => MobileClient.fieldName (identifier wireName)
  | server, wireName => Server.fieldName (identifier wireName)
  | webClient, wireName => wireName

def memberNames (target : Target) (model : Model) : List String :=
  (wireNames model.properties).map target.memberName

end Target

def PropertiesApart (target : Target) (model : Model) : Prop :=
  ∀ a ∈ wireNames model.properties, ∀ b ∈ wireNames model.properties,
    target.memberName a = target.memberName b → a = b

def ParametersApart (target : Target) (parameters : List Parameter) : Prop :=
  ∀ a ∈ parameters, ∀ b ∈ parameters,
    fieldSpelling target a.name = fieldSpelling target b.name → a.key = b.key

instance (target : Target) (model : Model) : Decidable (PropertiesApart target model) :=
  inferInstanceAs (Decidable (∀ a ∈ wireNames model.properties, _))

instance (target : Target) (parameters : List Parameter) : Decidable (ParametersApart target parameters) :=
  inferInstanceAs (Decidable (∀ a ∈ parameters, _))

/-- The lists are those for the properties of some models, and others whose names are distinct. -/
structure Spells (target : Target) (written : List Model) (lists : List MemberList) : Prop where
  list : ∀ list ∈ lists, list.names.Nodup ∨ ∃ model ∈ written, list.names = target.memberNames model
  model : ∀ model ∈ written, ∃ list ∈ lists, list.names = target.memberNames model

section Distinctness

variable {target : Target} {model : Model} {written : List Model} {lists : List MemberList}
  {parameters : List Parameter}

theorem nodup_memberNames_iff (keys : (wireNames model.properties).Nodup) :
    (target.memberNames model).Nodup ↔ PropertiesApart target model :=
  List.nodup_map_iff_inj_on keys

theorem Spells.distinct_iff (spells : Spells target written lists)
    (keys : ∀ model ∈ written, (wireNames model.properties).Nodup) :
    (∀ list ∈ lists, list.names.Nodup) ↔ ∀ model ∈ written, PropertiesApart target model := by
  constructor
  · intro distinct model mem
    obtain ⟨list, listed, same⟩ := spells.model model mem
    rw [← nodup_memberNames_iff (keys model mem), ← same]
    exact distinct list listed
  · intro apart list listed
    rcases spells.list list listed with distinct | ⟨model, mem, same⟩
    · exact distinct
    · rw [same, nodup_memberNames_iff (keys model mem)]
      exact apart model mem

theorem nodup_fields_iff (keys : (parameters.map Parameter.key).Nodup) :
    (parameters.map fun parameter => fieldSpelling target parameter.name).Nodup ↔
      ParametersApart target parameters := by
  rw [List.nodup_map_iff_inj_on keys.of_map]
  constructor
  · intro injective a memA b memB same
    rw [injective a memA b memB same]
  · intro apart a memA b memB same
    exact List.inj_on_of_nodup_map keys memA memB (apart a memA b memB same)

end Distinctness

section Names

variable {api : Api} {model : Model}

theorem memberNames_eq {target : Target} {name : Property → String} (identified : Identified model.properties)
    (spelled : ∀ property, property.name = identifier property.wireName →
      name property = target.memberName property.wireName) :
    model.properties.map name = target.memberNames model := by
  rw [Target.memberNames, wireNames, List.map_map]
  exact List.map_congr_left fun property mem => spelled property (identified property mem)

theorem Server.memberNames_struct (parameters : List String) (identified : Identified model.properties) :
    (recordStruct api model parameters).memberList.names = Target.server.memberNames model := by
  rw [Record.memberList, recordStruct, List.map_map]
  refine memberNames_eq identified fun property named => ?_
  simp [recordField, named, Target.memberName]

theorem MobileClient.memberNames_factory (identified : Identified model.properties) :
    (model.properties.map (factoryParameter api)).map (·.name) = Target.mobileClient.memberNames model := by
  rw [List.map_map]
  refine memberNames_eq identified fun property named => ?_
  simp [factoryParameter, named, Target.memberName]

theorem MobileClient.memberNames_envelope (identified : Identified model.properties) :
    (model.properties.map (envelopeField api)).map (·.name) = Target.mobileClient.memberNames model := by
  rw [List.map_map]
  refine memberNames_eq identified fun property named => ?_
  simp [envelopeField, named, Target.memberName]

theorem WebClient.memberNames_interface (api : Api) (model : Model) :
    (recordInterface api model).memberList.names = Target.webClient.memberNames model := by
  simp [Interface.memberList, recordInterface, recordMember, Target.memberNames, wireNames, Target.memberName]

end Names

section Models

variable {api : Api} {model : Model} {target : Target}

theorem Server.nodup_unionWrapper (model : Model) (discriminator : Discriminator) :
    (unionType model discriminator).wrapper.memberList.names.Nodup := by
  have names : (unionType model discriminator).wrapper.memberList.names = discriminator.variants := by
    simp [Record.memberList, UnionType.wrapper, unionType, Function.comp_def]
  rw [names]
  exact firsts_nodup _

theorem Server.spells_modelLists
    (identified : ∀ written ∈ api.recordsIn model, Identified written.properties) :
    Spells .server (api.recordsIn model) (Target.server.modelLists api model) := by
  -- in all shapes the structs for records stand first, and what wraps a value behind them
  have structs : ∀ parameters fixed, Target.server.modelLists api model =
      (api.recordsIn model).map (fun written => (recordStruct api written parameters).memberList) ++ fixed →
      (∀ list ∈ fixed, list.names.Nodup) →
        Spells .server (api.recordsIn model) (Target.server.modelLists api model) := by
    intro parameters fixed same distinct
    rw [same]
    constructor
    · intro list mem
      rcases List.mem_append.1 mem with struct | other
      · obtain ⟨written, inside, rfl⟩ := List.mem_map.1 struct
        exact .inr ⟨written, inside, memberNames_struct parameters (identified written inside)⟩
      · exact .inl (distinct list other)
    · intro written inside
      refine ⟨_, List.mem_append_left _ (List.mem_map_of_mem inside), ?_⟩
      exact memberNames_struct parameters (identified written inside)
  cases shape : model.shape with
  | enumeration enumeration =>
    refine structs [] [(enumType api model enumeration).wrapper.memberList] ?_ ?_
    · simp [Target.modelLists, modelDeclarations, Api.recordsIn, shape, Declaration.memberLists]
    · simp [Record.memberList, EnumType.wrapper]
  | union discriminator =>
    refine structs [] [(unionType model discriminator).wrapper.memberList] ?_ ?_
    · simp [Target.modelLists, modelDeclarations, Api.recordsIn, shape, ownVariants_eq, Declaration.memberLists,
        List.flatMap_map, Function.comp_def, ← List.map_eq_flatMap]
    · simpa using nodup_unionWrapper model discriminator
  | record =>
    refine structs (model.signature?.getD []) [] ?_ (by simp)
    simp [Target.modelLists, modelDeclarations, Api.recordsIn, shape, Declaration.memberLists]
  | unsupported reason =>
    refine structs [] [] ?_ (by simp)
    simp [Target.modelLists, modelDeclarations, Api.recordsIn, shape, Declaration.memberLists]

theorem WebClient.modelLists_eq (api : Api) (model : Model) : Target.webClient.modelLists api model =
    (api.recordsIn model).map fun written => (recordInterface api written).memberList := by
  cases shape : model.shape with
  | enumeration enumeration =>
    by_cases flags : enumeration.base = .boolean
    · simp [Target.modelLists, modelDeclarations, Api.recordsIn, shape, enumDeclaration, flags, aliasOf,
        Declaration.memberLists]
    · simp [Target.modelLists, modelDeclarations, Api.recordsIn, shape, enumDeclaration, flags,
        Declaration.memberLists]
  | union discriminator =>
    simp [Target.modelLists, modelDeclarations, Api.recordsIn, shape, unionDeclarations, ownVariants_eq, aliasOf,
      Declaration.memberLists, List.flatMap_map, Function.comp_def, ← List.map_eq_flatMap]
  | record => simp [Target.modelLists, modelDeclarations, Api.recordsIn, shape, Declaration.memberLists]
  | unsupported reason =>
    simp [Target.modelLists, modelDeclarations, Api.recordsIn, shape, Declaration.memberLists]

theorem WebClient.spells_modelLists (api : Api) (model : Model) :
    Spells .webClient (api.recordsIn model) (Target.webClient.modelLists api model) := by
  rw [modelLists_eq]
  constructor
  · intro list mem
    obtain ⟨written, inside, rfl⟩ := List.mem_map.1 mem
    exact .inr ⟨written, inside, memberNames_interface api written⟩
  · intro written inside
    exact ⟨_, List.mem_map_of_mem inside, memberNames_interface api written⟩

theorem MobileClient.spells_record (identified : Identified model.properties) :
    Spells .mobileClient [model] (recordDeclaration api model).memberLists := by
  have single : ∃ list, (recordDeclaration api model).memberLists = [list] ∧
      list.names = Target.mobileClient.memberNames model := by
    unfold recordDeclaration
    split
    · exact ⟨_, rfl, memberNames_envelope identified⟩
    · exact ⟨_, rfl, memberNames_factory identified⟩
  obtain ⟨list, same, names⟩ := single
  rw [same]
  constructor
  · simp [names]
  · simp [names]

theorem MobileClient.spells_union {discriminator : Discriminator}
    (identified : ∀ written ∈ variantModels api discriminator, Identified written.properties) :
    Spells .mobileClient (variantModels api discriminator)
      ((unionClass api model discriminator).factories.map Factory.memberList) := by
  have factory : ∀ {variant : String} {written : Model}, variant ∈ discriminator.variants →
      api.model? variant = some written → (variantFactory api model.name variant).memberList.names =
        Target.mobileClient.memberNames written := by
    intro variant written listed found
    have inside : written ∈ variantModels api discriminator := List.mem_filterMap.2 ⟨variant, listed, found⟩
    rw [← memberNames_factory (identified written inside), Factory.memberList, variantFactory, found]
    rfl
  constructor
  · intro list mem
    rw [unionClass, List.map_map] at mem
    obtain ⟨variant, listed, rfl⟩ := List.mem_map.1 mem
    cases found : api.model? variant with
    | none => exact .inl (by simp [Factory.memberList, variantFactory, found])
    | some written => exact .inr ⟨written, List.mem_filterMap.2 ⟨variant, listed, found⟩, factory listed found⟩
  · intro written inside
    obtain ⟨variant, listed, found⟩ := List.mem_filterMap.1 inside
    refine ⟨_, ?_, factory listed found⟩
    rw [unionClass, List.map_map]
    exact List.mem_map_of_mem listed

theorem MobileClient.spells_modelLists
    (identified : ∀ written ∈ writtenModels api model, Identified written.properties) :
    Spells .mobileClient (writtenModels api model) (Target.mobileClient.modelLists api model) := by
  unfold writtenModels at identified ⊢
  unfold Target.modelLists modelDeclaration
  cases shape : model.shape with
  | enumeration enumeration => constructor <;> simp [Declaration.memberLists]
  | union discriminator =>
    rw [shape] at identified
    exact spells_union identified
  | record =>
    rw [shape] at identified
    exact spells_record (identified model (List.mem_singleton_self model))
  | unsupported reason =>
    rw [shape] at identified
    exact spells_record (identified model (List.mem_singleton_self model))

theorem spells_modelLists
    (identified : ∀ written ∈ target.writtenModels api model, Identified written.properties) :
    Spells target (target.writtenModels api model) (target.modelLists api model) := by
  cases target with
  | mobileClient => exact MobileClient.spells_modelLists identified
  | server => exact Server.spells_modelLists identified
  | webClient => exact WebClient.spells_modelLists api model

theorem Api.mem_models_of_recordsIn {written : Model} (mem : model ∈ api.models)
    (inside : written ∈ api.recordsIn model) : written ∈ api.models := by
  unfold recordsIn at inside
  split at inside
  · cases inside
  · obtain ⟨⟨id, variant⟩, own, rfl⟩ := List.mem_map.1 inside
    exact List.mem_of_getElem? (mem_ownVariants.1 own).2.2
  · rw [List.mem_singleton.1 inside]
    exact mem
  · rw [List.mem_singleton.1 inside]
    exact mem

theorem Target.mem_models_of_written {written : Model} (mem : model ∈ api.models)
    (inside : written ∈ target.writtenModels api model) : written ∈ api.models := by
  cases target with
  | mobileClient => exact MobileClient.mem_models_of_written mem inside
  | server => exact Api.mem_models_of_recordsIn mem inside
  | webClient => exact Api.mem_models_of_recordsIn mem inside

end Models

section Texts

variable {api : Api} {model : Model} {operation : Operation} {target : Target} {list : MemberList}
  {config : Config} {source : Source}

theorem Server.mem_code {declaration : Declaration} (mem : list ∈ declaration.memberLists) :
    list.code ∈ declaration.code := by
  cases declaration with
  | record declared =>
    rw [List.mem_singleton.1 mem]
    exact List.mem_singleton_self _
  | enumeration declared =>
    rw [List.mem_singleton.1 mem]
    exact List.mem_cons_self
  | union declared =>
    rw [List.mem_singleton.1 mem]
    exact List.mem_cons_self

theorem MobileClient.within_class {part : List Code} {members : List (List Code)} (mem : part ∈ members)
    (mark : Annotation) (heading : String) : Code.Within part (classCode mark heading members) :=
  ((Code.Within.of_mem_spaced mem).block _ _).cons _

theorem MobileClient.within_code {declaration : Declaration} (mem : list ∈ declaration.memberLists) :
    Code.Within list.code declaration.code := by
  cases declaration with
  | record declared =>
    rw [List.mem_singleton.1 mem]
    exact (within_class List.mem_cons_self _ _).behind _
  | envelope declared =>
    rw [List.mem_singleton.1 mem]
    exact .whole
  | enumeration declared => cases mem
  | union declared =>
    obtain ⟨factory, listed, rfl⟩ := List.mem_map.1 mem
    have member : factory.code ∈ declared.factories.map Factory.code ++ [declared.readerCode] :=
      List.mem_append_left _ (List.mem_map_of_mem listed)
    exact (within_class member _ _).behind _

theorem WebClient.code_eq {declaration : Declaration} (mem : list ∈ declaration.memberLists) :
    list.code = declaration.code := by
  cases declaration with
  | interface declared =>
    rw [List.mem_singleton.1 mem]
    rfl
  | _ => cases mem

theorem printed_modelUnit (mem : list ∈ target.modelLists api model) (config : Config) :
    Code.Printed target.codeIndent list.code (target.modelUnit config api model).code := by
  cases target with
  | mobileClient =>
    have code : Code.Within list.code (Code.spaced [(MobileClient.modelDeclaration api model).code]) :=
      MobileClient.within_code mem
    exact code.rendered
  | server =>
    obtain ⟨declaration, declared, mem⟩ := List.mem_flatMap.1 mem
    have piece := List.mem_flatMap.2 ⟨declaration, declared, Server.mem_code mem⟩
    exact (Code.Within.of_mem_spaced piece).rendered
  | webClient =>
    obtain ⟨declaration, declared, mem⟩ := List.mem_flatMap.1 mem
    rw [WebClient.code_eq mem]
    exact (Code.Within.of_mem_spaced (List.mem_map_of_mem declared)).rendered

theorem printed_operationUnit (mem : list ∈ target.operationLists source.api operation) (config : Config) :
    Code.Printed target.codeIndent list.code (target.operationUnit config source operation).code := by
  cases target with
  | mobileClient =>
    rw [List.mem_singleton.1 mem]
    have code : Code.Within (MobileClient.clientMethod source.api operation).code
        (Code.spaced [[.nested (MobileClient.clientMethod source.api operation).code]]) := .nested .whole
    exact code.rendered
  | server =>
    unfold Target.operationLists at mem
    dsimp only at mem
    split at mem
    · rename_i some
      rw [List.mem_singleton.1 mem]
      have piece : (Server.parametersStruct source.api operation).code ∈ Server.operationCode source.api
          (Server.checkedDocument? config.server source.document).isSome operation := by
        simp [Server.operationCode, some]
      exact (Code.Within.of_mem_spaced piece).rendered
    · cases mem
  | webClient =>
    obtain ⟨declared, given, rfl⟩ := List.mem_map.1 mem
    have piece := List.mem_append_left [(WebClient.request source.api operation).functionCode
      config.web.axiosInstance] (List.mem_map_of_mem given (f := WebClient.Interface.code))
    exact (Code.Within.of_mem_spaced piece).rendered

end Texts

section Operations

variable {api : Api} {operation : Operation} {target : Target} {list : MemberList}

theorem names_perm_of_operationLists (mem : list ∈ target.operationLists api operation) :
    list.names.Perm ((target.sent operation).map fun parameter => fieldSpelling target parameter.name) := by
  cases target with
  | mobileClient =>
    rw [List.mem_singleton.1 mem]
    have parts := (List.filter_append_perm MobileClient.isPositional operation.locals).map
      fun parameter => MobileClient.fieldName parameter.name
    have names : (MobileClient.clientMethod api operation).memberList.names =
        (operation.locals.filter MobileClient.isPositional ++
          operation.locals.filter fun parameter => !MobileClient.isPositional parameter).map
            fun parameter => MobileClient.fieldName parameter.name := by
      simp [MobileClient.Method.memberList, MobileClient.clientMethod, MobileClient.methodParameter,
        Function.comp_def]
    rw [names]
    exact parts
  | server =>
    unfold Target.operationLists at mem
    dsimp only at mem
    split at mem
    · rw [List.mem_singleton.1 mem]
      have names : (Server.parametersStruct api operation).memberList.names =
          operation.parameters.map fun parameter => Server.fieldName parameter.name := by
        simp [Server.Record.memberList, Server.parametersStruct, Server.parameterField, Function.comp_def]
      rw [names]
      exact .refl _
    · cases mem
  | webClient =>
    obtain ⟨declared, given, rfl⟩ := List.mem_map.1 mem
    unfold WebClient.request at given
    dsimp only at given
    split at given
    · cases given
    · rw [List.mem_singleton.1 given]
      have names : (WebClient.parametersInterface api operation).memberList.names =
          operation.locals.map fun parameter => Text.afterLetter parameter.name := by
        simp [WebClient.Interface.memberList, WebClient.parametersInterface, WebClient.parameterMember,
          WebClient.parameterField, Function.comp_def]
      rw [names]
      exact .refl _

theorem operationLists_ne_nil (some : target.sent operation ≠ []) :
    target.operationLists api operation ≠ [] := by
  cases target with
  | mobileClient => simp [Target.operationLists]
  | server =>
    have has : operation.parameters.isEmpty = false := by simpa [Target.sent] using some
    simp [Target.operationLists, Server.hasParameters, has]
  | webClient =>
    have has : operation.locals.isEmpty = false := by simpa [Target.sent] using some
    simp [Target.operationLists, WebClient.request, has]

theorem operationLists_distinct_iff (keys : (operation.parameters.map Parameter.key).Nodup) :
    (∀ list ∈ target.operationLists api operation, list.names.Nodup) ↔
      ParametersApart target (target.sent operation) := by
  have part : ((target.sent operation).map Parameter.key).Nodup := by
    cases target with
    | server => exact keys
    | _ => exact keys.sublist (List.filter_sublist.map _)
  rw [← nodup_fields_iff part]
  constructor
  · intro distinct
    -- the server and the web client declare nothing where nothing is sent
    by_cases some : target.sent operation = []
    · simp [some]
    · have listed : target.operationLists api operation ≠ [] := operationLists_ne_nil some
      obtain ⟨list, mem⟩ := List.exists_mem_of_ne_nil _ listed
      exact (names_perm_of_operationLists mem).nodup_iff.1 (distinct list mem)
  · intro distinct list mem
    exact (names_perm_of_operationLists mem).nodup_iff.2 distinct

end Operations

end OpenApiCodegen
