import OpenApiCodegen.Proofs.Generation.Declarations
import OpenApiCodegen.Proofs.WebClient.DeclarationTexts

namespace OpenApiCodegen.WebClient

open Api (DataType Property Model Discriminator)
open Output (CodeUnit joinPath relativePath header)

mutual

def TypeExpr.names : TypeExpr → List String
  | named name => [name]
  | array item => item.names
  | table value => value.names
  | either types => namesOfAll types
  | applied name arguments => name :: namesOfAll arguments
  | _ => []

def TypeExpr.namesOfAll : List TypeExpr → List String
  | [] => []
  | type :: rest => type.names ++ namesOfAll rest

end

/-- The names in types of a declaration, without the parameters that it binds. -/
def Declaration.typeNames : Declaration → List String
  | interface declared =>
    (declared.members.flatMap (·.type.names) ++ (declared.index.map TypeExpr.names).getD []).filter
      (!declared.parameters.contains ·)
  | typeAlias declared => declared.type.names
  | enumeration _ => []
  | decoder declared => declared.union :: declared.arms.map (·.2)

def Declaration.type? : Declaration → Option String
  | interface declared => some declared.name
  | typeAlias declared => some declared.name
  | enumeration declared => some declared.name
  | decoder _ => none

def importedModels (api : Api) (unit : CodeUnit) : List String :=
  (unit.imports.filter api.unitNames.contains).names

def importText (name : String) : String :=
  "import type \x7b " ++ name ++ " \x7d from \"./" ++ modelModule name ++ "\";\n"

def decodeErrorText (config : WebConfig) (model : Model) : String :=
  if model.isUnion then
    "import \x7b DecodeError \x7d from \"" ++ relativePath config.modelDir config.apiDir ++ "/client\";\n"
  else ""

def Provides (config : WebConfig) (api : Api) (code : GeneratedCode) (model : Model) (unit : CodeUnit)
    (name : String) : Prop :=
  (∃ declaration ∈ modelDeclarations api model, declaration.type? = some name) ∨
    name ∈ importedModels api unit ∧ ∃ other ∈ code.models, other.2.name = name ∧
      other.2.path = joinPath config.modelDir (modelModule name ++ ".ts")

/-- The unit of a model has a file with its declarations, which provides all models in types of what
is written out and all variants that components have become. Its types name nothing else but the type
of binary data. -/
structure SelfContained (components : List (String × OpenApi.Schema)) (config : WebConfig) (api : Api)
    (code : GeneratedCode) (model : Model) (unit : CodeUnit) : Prop where
  file : ∃ texts gap, List.Forall₂ Declaration.Spelled (modelDeclarations api model) texts ∧
    (gap = "" ∨ gap = "\n") ∧
      ⟨unit.path, header ++ String.join ((importedModels api unit).map importText) ++
        decodeErrorText config model ++ gap ++ String.intercalate "\n" (texts.map linesText)⟩ ∈
        code.artifacts
  place : unit.path = joinPath config.modelDir (modelModule model.name ++ ".ts")
  types : ∀ written ∈ api.writtenModels model, ∀ type ∈ written.types, ∀ name ∈ type.models,
    Provides config api code model unit name
  branches : ∀ discriminator ∈ model.discriminator?, ∀ name ∈ discriminator.variants,
    (∃ entry ∈ Lowering.modelled components, Lowering.typeName entry.1 = name) →
      Provides config api code model unit name
  names : ∀ declaration ∈ modelDeclarations api model, ∀ name ∈ declaration.typeNames,
    name = model.name ∨
      (∃ written ∈ api.writtenModels model, name ∈ written.types.flatMap DataType.models) ∨
        (∃ discriminator ∈ model.discriminator?, name ∈ discriminator.variants) ∨ name = "Blob"

section Names

variable {api : Api} {model : Model} {name : String}

@[simp] theorem mem_namesOfAll {types : List TypeExpr} :
    name ∈ TypeExpr.namesOfAll types ↔ ∃ type ∈ types, name ∈ type.names := by
  induction types with
  | nil => simp [TypeExpr.namesOfAll]
  | cons _ rest ih => simp [TypeExpr.namesOfAll, ih]

theorem names_typeExpr {type : DataType} (mem : name ∈ (typeExpr api type).names) :
    name ∈ type.models ∨ name = "Blob" := by
  induction type with
  | binary => exact .inr (by simpa [typeExpr, TypeExpr.names] using mem)
  | array item ih => exact ih mem
  | map value ih => exact ih mem
  | model referred =>
    left
    unfold typeExpr modelType at mem
    split at mem <;> simpa [TypeExpr.names, DataType.models] using mem
  | _ => simp [typeExpr, TypeExpr.names] at mem

theorem names_orNullIf (nullable : Bool) (type : TypeExpr) :
    (orNullIf nullable type).names = type.names := by
  cases nullable <;> simp [orNullIf, TypeExpr.orNull, TypeExpr.names, TypeExpr.namesOfAll]

theorem names_propertyType {property : Property} (mem : property ∈ model.properties)
    (named : name ∈ (propertyType api model.isEnvelope property).names) :
    name ∈ model.signature?.getD [] ∨ name ∈ property.type.models ∨ name = "Blob" := by
  unfold propertyType at named
  split at named
  · rename_i parameter written isEnvelope
    obtain rfl : name = parameter := by simpa [TypeExpr.names] using named
    left
    rw [Model.signature?, if_pos isEnvelope]
    exact mem_firsts.2 (List.mem_filterMap.2 ⟨property, mem, written⟩)
  · exact .inr (names_typeExpr named)

theorem names_recordInterface
    (mem : name ∈ (Declaration.interface (recordInterface api model)).typeNames) :
    name ∈ model.types.flatMap DataType.models ∨ name = "Blob" := by
  simp only [Declaration.typeNames, recordInterface, List.mem_filter, List.mem_append, List.mem_flatMap,
    List.mem_map, Bool.not_eq_true', List.contains_eq_mem, decide_eq_false_iff_not] at mem
  obtain ⟨⟨_, ⟨property, inside, rfl⟩, named⟩ | named, free⟩ := mem
  · rw [recordMember, names_orNullIf] at named
    rcases names_propertyType inside named with bound | named | named
    · exact absurd bound free
    · exact .inl (List.mem_flatMap.2
        ⟨property.type, List.mem_append_left _ (List.mem_map_of_mem inside), named⟩)
    · exact .inr named
  · unfold indexType at named
    cases additional : model.additional with
    | none => simp [additional] at named
    | some type =>
      simp only [additional, Option.map_some, Option.getD_some] at named
      split at named
      · refine (names_typeExpr named).imp_left fun named => List.mem_flatMap.2 ⟨type, ?_, named⟩
        simp [Model.types, additional]
      · simp [TypeExpr.names] at named

theorem names_enumDeclaration (enumeration : Api.Enumeration) :
    (enumDeclaration model enumeration).typeNames = [] := by
  unfold enumDeclaration
  split
  · refine List.eq_nil_iff_forall_not_mem.2 fun name mem => ?_
    simp only [aliasOf, Declaration.typeNames, TypeExpr.names, mem_namesOfAll, List.mem_filterMap] at mem
    obtain ⟨type, ⟨literal, -, flag⟩, named⟩ := mem
    unfold flagType? at flag
    split at flag <;> cases flag
    simp [TypeExpr.names] at named
  · rfl

theorem mem_modelDeclarations {declaration : Declaration}
    (mem : declaration ∈ modelDeclarations api model) :
    (∃ written ∈ api.writtenModels model, declaration = .interface (recordInterface api written)) ∨
      (∃ enumeration, declaration = enumDeclaration model enumeration) ∨
        ∃ discriminator ∈ model.discriminator?,
          declaration = aliasOf model (.either (discriminator.variants.map .named)) ∨
            declaration = .decoder (decoder model discriminator) := by
  unfold modelDeclarations at mem
  cases shape : model.shape with
  | enumeration enumeration =>
    rw [shape] at mem
    exact .inr (.inl ⟨enumeration, List.mem_singleton.1 mem⟩)
  | union discriminator =>
    have found : model.discriminator? = some discriminator := by simp [Model.discriminator?, shape]
    simp only [shape, unionDeclarations, ownVariants_eq, List.map_map, List.mem_append, List.mem_map,
      Function.comp_apply, List.mem_cons, List.not_mem_nil, or_false] at mem
    rcases mem with ⟨⟨id, variant⟩, inside, rfl⟩ | written
    · refine .inl ⟨variant, Api.mem_writtenModels.2 (.inr ⟨id, ?_⟩), rfl⟩
      simpa [Api.variantsIn, found] using inside
    · exact .inr (.inr ⟨discriminator, found, written⟩)
  | record =>
    rw [shape] at mem
    exact .inl ⟨model, Api.mem_writtenModels.2 (.inl rfl), List.mem_singleton.1 mem⟩
  | unsupported reason =>
    rw [shape] at mem
    exact .inl ⟨model, Api.mem_writtenModels.2 (.inl rfl), List.mem_singleton.1 mem⟩

theorem names_modelDeclarations {declaration : Declaration}
    (mem : declaration ∈ modelDeclarations api model) (named : name ∈ declaration.typeNames) :
    name = model.name ∨
      (∃ written ∈ api.writtenModels model, name ∈ written.types.flatMap DataType.models) ∨
        (∃ discriminator ∈ model.discriminator?, name ∈ discriminator.variants) ∨ name = "Blob" := by
  rcases mem_modelDeclarations mem with ⟨written, inside, rfl⟩ | ⟨enumeration, rfl⟩ |
    ⟨discriminator, found, rfl | rfl⟩
  · rcases names_recordInterface named with named | named
    · exact .inr (.inl ⟨written, inside, named⟩)
    · exact .inr (.inr (.inr named))
  · simp [names_enumDeclaration] at named
  · refine .inr (.inr (.inl ⟨discriminator, found, ?_⟩))
    simpa [aliasOf, Declaration.typeNames, TypeExpr.names] using named
  · rcases List.mem_cons.1 named with named | arm
    · exact .inl named
    · exact .inr (.inr (.inl ⟨discriminator, found, mem_firsts.2 arm⟩))

theorem declares_written {written : Model} (inside : written ∈ api.writtenModels model) :
    ∃ declaration ∈ modelDeclarations api model, declaration.type? = some written.name := by
  rcases Api.mem_writtenModels.1 inside with rfl | ⟨id, variant⟩
  · unfold modelDeclarations
    cases written.shape with
    | enumeration enumeration =>
      refine ⟨_, List.mem_singleton_self _, ?_⟩
      unfold enumDeclaration
      split <;> rfl
    | union discriminator => exact ⟨_, List.mem_append_right _ List.mem_cons_self, rfl⟩
    | record => exact ⟨_, List.mem_singleton_self _, rfl⟩
    | unsupported reason => exact ⟨_, List.mem_singleton_self _, rfl⟩
  · obtain ⟨discriminator, found, -⟩ := Api.mem_variantsIn.1 variant
    have shape := Api.discriminator?_eq_some.1 found
    refine ⟨.interface (recordInterface api written), ?_, rfl⟩
    simp only [modelDeclarations, shape, unionDeclarations, ownVariants_eq, List.map_map]
    refine List.mem_append_left _ (List.mem_map.2 ⟨(id, written), ?_, rfl⟩)
    simpa [Api.variantsIn, found] using variant

theorem modelImports_eq (api : Api) (model : Model) :
    modelImports api model = (((api.variantsIn model).map (·.2)).foldl
      (fun imports variant => (imports.erase variant.name).union variant.imports)
        model.imports).erase model.name := by
  unfold modelImports Api.variantsIn
  cases model.discriminator? <;> simp [ownVariants_eq]

theorem mem_imports_foldl {variants : List Model} {start : NameSet}
    (absent : ∀ variant ∈ variants, variant.name ≠ name)
    (imported : name ∈ start ∨ ∃ variant ∈ variants, name ∈ variant.imports) :
    name ∈ variants.foldl
      (fun imports variant => (imports.erase variant.name).union variant.imports) start := by
  induction variants generalizing start with
  | nil => simpa using imported
  | cons first rest ih =>
    simp only [List.forall_mem_cons] at absent
    refine ih absent.2 ?_
    simp only [NameSet.mem_union, NameSet.mem_erase]
    rcases imported with before | ⟨variant, mem, here⟩
    · exact .inl (.inr ⟨before, absent.1.symm⟩)
    · rcases List.mem_cons.1 mem with rfl | mem
      · exact .inl (.inl here)
      · exact .inr ⟨variant, mem, here⟩

/-- Imports of the models that are written out stay, unless they are of models declared here. -/
theorem mem_modelImports {written : Model} (inside : written ∈ api.writtenModels model)
    (imported : name ∈ written.imports)
    (absent : ∀ other ∈ api.writtenModels model, other.name ≠ name) :
    name ∈ modelImports api model := by
  have apart := absent model (Api.mem_writtenModels.2 (.inl rfl))
  have variants : ∀ variant ∈ (api.variantsIn model).map (·.2), variant.name ≠ name :=
    fun variant mem => absent variant (List.mem_cons_of_mem _ mem)
  rw [modelImports_eq, NameSet.mem_erase]
  refine ⟨mem_imports_foldl variants ?_, apart.symm⟩
  rcases List.mem_cons.1 inside with rfl | variant
  · exact .inl imported
  · exact .inr ⟨written, variant, imported⟩

end Names

theorem render_append (code other : List Code) :
    Code.render indent (code ++ other) = Code.render indent code ++ Code.render indent other :=
  Code.textOfAll_append 0 code other

theorem render_line (line : String) : Code.render indent [.line line] = line ++ "\n" := by
  simp [Code.render, Code.textOfAll, Code.text, Code.indentation]

theorem render_importCode (typesOnly : Bool) (names : List String) (source : String) :
    Code.render indent [importCode typesOnly names source] =
      (if typesOnly then "import type \x7b " else "import \x7b ") ++ String.intercalate ", " names ++
        " \x7d from \"" ++ source ++ "\";\n" := by
  have ends : "\";" ++ "\n" = "\";\n" := rfl
  rw [importCode, render_line]
  cases typesOnly <;> simp only [commaSeparated, String.append_assoc, ends] <;> rfl

theorem render_imports (names : List String) :
    Code.render indent (names.map fun name => importCode true [name] ("./" ++ modelModule name)) =
      String.join (names.map importText) := by
  induction names with
  | nil => rfl
  | cons name rest ih =>
    have start : " \x7d from \"./" = " \x7d from \"" ++ "./" := rfl
    rw [List.map_cons, ← List.singleton_append, render_append, ih, List.map_cons, String.join_cons,
      render_importCode, String.intercalate_singleton, if_pos rfl]
    unfold importText
    rw [start]
    simp only [String.append_assoc]

theorem modelFile_eq (config : WebConfig) (api : Api) (model : Model) :
    ∃ gap, (gap = "" ∨ gap = "\n") ∧
      modelFile config api.unitNames (modelUnit config api model) =
        ⟨(modelUnit config api model).path,
          header ++ String.join ((importedModels api (modelUnit config api model)).map importText) ++
            decodeErrorText config model ++ gap ++ render (modelDeclarations api model)⟩ := by
  have helpers : Code.render indent (if (modelRequires model).names.isEmpty then []
      else [importCode false (modelRequires model).names
        (relativePath config.modelDir config.apiDir ++ "/" ++ clientModule)]) =
          decodeErrorText config model := by
    unfold modelRequires decodeErrorText
    cases model.isUnion with
    | false => rfl
    | true =>
      have names : (NameSet.ofList ["DecodeError"]).names = ["DecodeError"] := rfl
      have start : "import \x7b DecodeError \x7d from \"" = "import \x7b " ++ "DecodeError" ++ " \x7d from \"" :=
        rfl
      have ends : "/client\";\n" = "/" ++ (clientModule ++ "\";\n") := rfl
      rw [if_pos rfl, if_pos rfl, names, if_neg (by simp), render_importCode, String.intercalate_singleton,
        if_neg (by simp), start, ends]
      simp only [String.append_assoc]
  have gap : ∀ imports requires : NameSet,
      Code.render indent (if imports.names.isEmpty && requires.names.isEmpty then [] else [Code.blank]) = "" ∨
      Code.render indent (if imports.names.isEmpty && requires.names.isEmpty then [] else [Code.blank]) =
        "\n" := by
    intro imports requires
    split
    · exact .inl rfl
    · exact .inr rfl
  refine ⟨_, gap (modelUnit config api model).imports (modelUnit config api model).requires, ?_⟩
  unfold modelFile
  dsimp only
  rw [render_append, render_append, render_imports, ← helpers]
  simp only [String.append_assoc]
  rfl

theorem path_modelUnit (config : WebConfig) (api : Api) (model : Model) :
    (modelUnit config api model).path = joinPath config.modelDir (modelModule model.name ++ ".ts") := by
  simp only [modelUnit, sourceFile]

section Files

variable {doc : OpenApi.Document} {source : Source} {config : Config} {code : GeneratedCode}
  {model : Model} {id : Nat} {name : String}

theorem provides_of_import (generated : Generated .webClient config source code) {written : Model}
    (inside : written ∈ source.api.writtenModels model) (imported : name ∈ written.imports)
    (unit : (∀ other ∈ source.api.writtenModels model, other.name ≠ name) →
      ∃ entry ∈ source.api.unitModels, entry.2.name = name) :
    Provides config.web source.api code model (modelUnit config.web source.api model) name := by
  by_cases declared : ∃ other ∈ source.api.writtenModels model, other.name = name
  · obtain ⟨other, mem, rfl⟩ := declared
    exact .inl (declares_written mem)
  · have absent : ∀ other ∈ source.api.writtenModels model, other.name ≠ name :=
      fun other mem same => declared ⟨other, mem, same⟩
    obtain ⟨⟨other, found⟩, listed, named⟩ := unit absent
    dsimp only at named
    subst named
    have unit : (other, modelUnit config.web source.api found) ∈ code.models :=
      generated.mem_models.2 ⟨found, listed, rfl⟩
    refine .inr ⟨?_, _, unit, rfl, path_modelUnit config.web source.api found⟩
    refine NameSet.mem_filter.2 ⟨mem_modelImports inside imported absent, ?_⟩
    exact List.contains_iff_mem.2 (List.mem_map_of_mem listed)

/-- Every file of a model is self-contained. -/
theorem selfContained_of_generate (lowered : Source.of doc = .ok source)
    (run : generate .webClient config source = .ok code) {entry : Nat × CodeUnit}
    (mem : entry ∈ code.models) :
    ∃ model, (entry.1, model) ∈ source.api.unitModels ∧ entry.2.name = model.name ∧
      SelfContained (OpenApi.NormalDocument.of doc).document.components config.web source.api code model
        entry.2 := by
  have generated := generated_of_generate run
  have sound := sound_of_source lowered
  obtain ⟨id, unit⟩ := entry
  obtain ⟨model, listed, rfl⟩ := generated.mem_models.1 mem
  have at_ := (Api.mem_unitModels.1 listed).1
  have here := List.mem_of_getElem? at_
  have self : model ∈ source.api.writtenModels model := Api.mem_writtenModels.2 (.inl rfl)
  refine ⟨model, listed, rfl, ?_, path_modelUnit config.web source.api model, ?_, ?_, fun declaration inside name named =>
    names_modelDeclarations inside named⟩
  · obtain ⟨gap, blank, same⟩ := modelFile_eq config.web source.api model
    obtain ⟨texts, spelled, text⟩ := exists_render (modelDeclarations source.api model)
    have file := modelFile_mem generated mem
    dsimp only [Target.modelUnit] at file ⊢
    rw [same, text] at file
    exact ⟨texts, gap, spelled, blank, file⟩
  · intro written inside type typed name named
    by_cases own : name = written.name
    · exact .inl (own ▸ declares_written inside)
    · exact provides_of_import generated inside (Model.mem_imports_of_type typed named own) fun _ =>
        sound.unit_of_type (Api.mem_models_of_written here inside) typed named own
  · rintro discriminator found name mapped ⟨component, modelled, rfl⟩
    by_cases own : Lowering.typeName component.1 = model.name
    · exact .inl (own ▸ declares_written self)
    · have isUnion := Api.isUnion_of_discriminator? found
      have member := sound.variants model here discriminator found mapped
      refine provides_of_import generated self (Model.mem_imports_of_member isUnion member own) ?_
      intro absent
      obtain ⟨id', variant, last, at', named, unit⟩ :=
        sound.exists_unit (Lowering.exposes_component (lower_of_source lowered) modelled)
      refine ⟨(id', variant), unit (Bool.eq_false_iff.2 fun only => ?_), named⟩
      -- a variant for the union alone is written out here
      refine absent variant (Api.mem_writtenModels.2 (.inr ⟨id', ?_⟩)) named
      exact Api.mem_variantsIn.2 ⟨discriminator, found, named ▸ mapped, only, at'⟩

end Files

/-- A shelter with pets. Cats are pets only, dogs are also the enemies of cats. -/
def shelter : OpenApi.Document where
  openapi := none
  info := none
  paths := []
  schemas := some
    [("Shelter",
        { properties := some
            [("pets",
              { typeNames := some (.single "array")
                items := some { ref := some "#/components/schemas/Pet" } })] }),
      ("Pet",
        { oneOf := some [{ ref := some "#/components/schemas/Cat" },
            { ref := some "#/components/schemas/Dog" }]
          discriminator := some ⟨"kind", some [("cat", "#/components/schemas/Cat"),
            ("dog", "#/components/schemas/Dog")]⟩ }),
      ("Cat", { properties := some [("enemy", { ref := some "#/components/schemas/Dog" })] }),
      ("Dog", { properties := some [("home", { ref := some "#/components/schemas/Shelter" })] })]
  tags := []
  source := none

theorem shelter_selfContained :
    ∃ source code, Source.of shelter = .ok source ∧ generate .webClient {} source = .ok code ∧
      source.api.unitNames = ["Shelter", "Pet", "Dog"] ∧
        ∀ entry ∈ code.models, ∃ model, (entry.1, model) ∈ source.api.unitModels ∧
          entry.2.name = model.name ∧
            SelfContained (OpenApi.NormalDocument.of shelter).document.components {} source.api code
              model entry.2 := by
  have seen : (Source.of shelter).toOption.map (fun source =>
      (fullySupported source.api, source.api.unitNames)) = some (true, ["Shelter", "Pet", "Dog"]) := by
    rfl
  obtain ⟨source, lowered, seen⟩ := Lowering.exists_of_toOption_map seen
  obtain ⟨supported, names⟩ := Prod.mk.inj seen
  obtain ⟨code, run⟩ := exists_generated .webClient {} supported
  exact ⟨source, code, lowered, run, names, fun entry mem => selfContained_of_generate lowered run mem⟩

end OpenApiCodegen.WebClient
