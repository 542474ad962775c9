import OpenApiCodegen.Proofs.Generation.Units
import OpenApiCodegen.Proofs.MobileClient.DeclarationTexts

namespace OpenApiCodegen.MobileClient

open Api (DataType Property Model Discriminator)
open Output (CodeUnit Artifact joinPath relativePath header)

mutual

def DartType.names : DartType → List String
  | plain name arguments => name :: namesOfAll arguments
  | nullable type => type.names

def DartType.namesOfAll : List DartType → List String
  | [] => []
  | type :: rest => type.names ++ namesOfAll rest

end

/-- The names in types of a class, without the parameters that it binds. -/
def Declaration.typeNames : Declaration → List String
  | record declared => declared.parameters.flatMap (·.type.names)
  | envelope declared =>
    (declared.fields.flatMap (·.type.names)).filter (!declared.parameters.contains ·)
  | enumeration declared => declared.encoded.names
  | union declared => (declared.factories.flatMap (·.parameters)).flatMap (·.type.names)

def Declaration.name : Declaration → String
  | record declared => declared.name
  | envelope declared => declared.name
  | enumeration declared => declared.name
  | union declared => declared.name

def platformTypes : List String :=
  ["String", "int", "double", "bool", "DateTime", "MultipartFile", "dynamic", "List", "Map"]

def writtenModels (api : Api) (model : Model) : List Model :=
  match model.shape with
  | .enumeration _ => []
  | .union discriminator => variantModels api discriminator
  | .record => [model]
  | .unsupported _ => [model]

def propertyModels (model : Model) : List String :=
  model.properties.flatMap (·.type.models)

def importedModels (api : Api) (unit : CodeUnit) : List String :=
  unit.imports.names.filter api.unitNames.contains

def importText (file : String) : String :=
  "import '" ++ file ++ "';\n"

def partText (name suffix : String) : String :=
  "part '" ++ fileStem name ++ "." ++ suffix ++ ".dart';\n"

def Declaration.packages : Declaration → List String
  | record declared => (if declared.readsJson then [] else ["package:dio/dio.dart"]) ++
      ["package:freezed_annotation/freezed_annotation.dart"]
  | envelope _ => ["package:json_annotation/json_annotation.dart"]
  | enumeration _ => ["package:json_annotation/json_annotation.dart"]
  | union _ => ["package:freezed_annotation/freezed_annotation.dart"]

def Declaration.suffixes : Declaration → List String
  | record declared => "freezed" :: if declared.readsJson then ["g"] else []
  | envelope _ => ["g"]
  | enumeration _ => ["g"]
  | union _ => ["freezed", "g"]

def decodeErrorText (config : MobileConfig) : Declaration → String
  | .union _ => importText (relativePath config.modelDir config.apiDir ++ "/decode_error.dart")
  | _ => ""

def Provides (config : MobileConfig) (api : Api) (code : GeneratedCode) (model : Model)
    (unit : CodeUnit) (name : String) : Prop :=
  (modelDeclaration api model).name = name ∨
    name ∈ importedModels api unit ∧ ∃ other ∈ code.models, other.2.name = name ∧
      other.2.path = joinPath config.modelDir (sourceFile name)

/-- The unit of a model has a file with its class, whose types name the models in properties that are
written out and types of the platform. -/
structure WritesOut (config : MobileConfig) (api : Api) (code : GeneratedCode) (model : Model)
    (unit : CodeUnit) : Prop where
  file : ∃ gap text, (gap = "" ∨ gap = "\n") ∧ (modelDeclaration api model).Spelled text ∧
    ⟨unit.path, header ++ String.join ((modelDeclaration api model).packages.map importText) ++ gap ++
        String.join ((importedModels api unit).map fun name => importText (sourceFile name)) ++
          decodeErrorText config (modelDeclaration api model) ++ "\n" ++
            String.join ((modelDeclaration api model).suffixes.map (partText model.name)) ++ "\n" ++ text⟩ ∈
      code.artifacts
  names : ∀ name ∈ (modelDeclaration api model).typeNames,
    (∃ written ∈ writtenModels api model, name ∈ propertyModels written) ∨ name ∈ platformTypes

def SelfContained (config : MobileConfig) (api : Api) (code : GeneratedCode) (model : Model)
    (unit : CodeUnit) : Prop :=
  ∀ written ∈ writtenModels api model, ∀ name ∈ propertyModels written,
    Provides config api code model unit name

/-- A variant that has properties of its own type is the union, or another variant imports it and it has
a file. -/
def SelfReferencesImported (api : Api) (model : Model) : Prop :=
  ∀ discriminator ∈ model.discriminator?, ∀ variant ∈ variantModels api discriminator,
    variant.name ∈ propertyModels variant → variant.name = model.name ∨
      (∃ other ∈ variantModels api discriminator, variant.name ∈ other.imports.names) ∧
        variant.name ∈ api.unitNames

instance (api : Api) (model : Model) : Decidable (SelfReferencesImported api model) :=
  inferInstanceAs (Decidable (∀ discriminator ∈ model.discriminator?, _))

section Names

variable {api : Api} {model : Model} {name : String}

@[simp] theorem mem_namesOfAll {types : List DartType} :
    name ∈ DartType.namesOfAll types ↔ ∃ type ∈ types, name ∈ type.names := by
  induction types with
  | nil => simp [DartType.namesOfAll]
  | cons _ rest ih => simp [DartType.namesOfAll, ih]

@[simp] theorem names_orNull (type : DartType) : type.orNull.names = type.names := by
  cases type with
  | plain name arguments =>
    simp only [DartType.orNull]
    split <;> simp [DartType.names]
  | nullable type => rfl

theorem names_named (name : String) : (DartType.named name).names = [name] := by
  simp [DartType.named, DartType.names, DartType.namesOfAll]

theorem names_dartType {type : DataType} (mem : name ∈ (dartType api type).names) :
    name ∈ type.models ∨ name ∈ platformTypes := by
  induction type with
  | array item ih =>
    rcases List.mem_cons.1 mem with rfl | mem
    · exact .inr (by decide)
    · exact ih (by simpa using mem)
  | map value ih =>
    simp only [dartType, DartType.names, List.mem_cons, mem_namesOfAll, List.not_mem_nil, or_false,
      exists_eq_or_imp, exists_eq_left, names_named] at mem
    rcases mem with rfl | rfl | mem
    · exact .inr (by decide)
    · exact .inr (by decide)
    · exact ih mem
  | model referred =>
    have named : name = referred → name ∈ (DataType.model referred).models := by
      simp [DataType.models]
    unfold dartType modelType at mem
    split at mem
    · simp only [DartType.names, List.mem_cons, mem_namesOfAll, List.mem_map] at mem
      rcases mem with same | ⟨_, ⟨parameter, -, rfl⟩, mem⟩
      · exact .inl (named same)
      · rw [DartType.dynamic, names_named, List.mem_singleton] at mem
        exact .inr (by rw [mem]; decide)
    · exact .inl (named (by simpa [names_named] using mem))
  | _ =>
    right
    simp only [dartType, DartType.dynamic, names_named, List.mem_singleton] at mem
    rw [mem]
    decide

theorem names_factoryParameter (property : Property) :
    (factoryParameter api property).type.names = (dartType api property.type).names := by
  simp only [factoryParameter]
  split <;> simp

theorem names_factoryParameters {written : Model}
    (mem : name ∈ (written.properties.map (factoryParameter api)).flatMap (·.type.names)) :
    name ∈ propertyModels written ∨ name ∈ platformTypes := by
  obtain ⟨_, parameter, named⟩ := List.mem_flatMap.1 mem
  obtain ⟨property, inside, rfl⟩ := List.mem_map.1 parameter
  rw [names_factoryParameter] at named
  exact (names_dartType named).imp_left fun named => List.mem_flatMap.2 ⟨property, inside, named⟩

theorem names_envelopeClass {parameters : List String} (signature : model.signature? = some parameters)
    (mem : name ∈ (Declaration.envelope (envelopeClass api model parameters)).typeNames) :
    name ∈ propertyModels model ∨ name ∈ platformTypes := by
  simp only [Declaration.typeNames, envelopeClass, List.mem_filter, List.mem_flatMap, List.mem_map,
    Bool.not_eq_true', List.contains_eq_mem, decide_eq_false_iff_not] at mem
  obtain ⟨⟨_, ⟨property, inside, rfl⟩, named⟩, free⟩ := mem
  cases written : property.placeholder with
  | some parameter =>
    have same : name = parameter := by
      simp only [envelopeField, written] at named
      split at named <;> simpa [names_named] using named
    refine absurd ?_ free
    unfold Model.signature? at signature
    split at signature
    · cases signature
      exact mem_firsts.2 (List.mem_filterMap.2 ⟨property, inside, same ▸ written⟩)
    · cases signature
  | none =>
    have typed : name ∈ (dartType api property.type).names := by
      simp only [envelopeField, written] at named
      split at named <;> simpa using named
    exact (names_dartType typed).imp_left fun named => List.mem_flatMap.2 ⟨property, inside, named⟩

theorem names_recordDeclaration (mem : name ∈ (recordDeclaration api model).typeNames) :
    name ∈ propertyModels model ∨ name ∈ platformTypes := by
  unfold recordDeclaration at mem
  split at mem
  · rename_i parameters signature
    exact names_envelopeClass signature mem
  · exact names_factoryParameters mem

theorem names_modelDeclaration (mem : name ∈ (modelDeclaration api model).typeNames) :
    (∃ written ∈ writtenModels api model, name ∈ propertyModels written) ∨ name ∈ platformTypes := by
  unfold modelDeclaration at mem
  unfold writtenModels
  cases shape : model.shape with
  | enumeration enumeration =>
    rw [shape] at mem
    right
    simp only [Declaration.typeNames, enumerationOf] at mem
    unfold encodedType at mem
    split at mem <;> rw [names_named, List.mem_singleton] at mem <;> rw [mem] <;> decide
  | union discriminator =>
    simp only [shape, Declaration.typeNames, unionClass, List.flatMap_map] at mem
    obtain ⟨parameter, factories, named⟩ := List.mem_flatMap.1 mem
    obtain ⟨variant, mapped, inside⟩ := List.mem_flatMap.1 factories
    simp only [variantFactory] at inside
    cases found : api.model? variant with
    | none => simp [found] at inside
    | some written =>
      rw [found] at inside
      refine (names_factoryParameters (List.mem_flatMap.2 ⟨parameter, inside, named⟩)).imp_left ?_
      exact fun named => ⟨written, List.mem_filterMap.2 ⟨variant, mapped, found⟩, named⟩
  | record =>
    rw [shape] at mem
    exact (names_recordDeclaration mem).imp_left fun named => ⟨model, List.mem_singleton_self _, named⟩
  | unsupported reason =>
    rw [shape] at mem
    exact (names_recordDeclaration mem).imp_left fun named => ⟨model, List.mem_singleton_self _, named⟩

theorem name_modelDeclaration (api : Api) (model : Model) :
    (modelDeclaration api model).name = model.name := by
  have record : (recordDeclaration api model).name = model.name := by
    unfold recordDeclaration
    split <;> rfl
  unfold modelDeclaration
  split
  · rfl
  · rfl
  · exact record
  · exact record

end Names

section Imports

variable {api : Api} {model written : Model} {name : String}

theorem mem_writtenModels :
    written ∈ writtenModels api model → (∃ discriminator ∈ model.discriminator?,
      written ∈ variantModels api discriminator) ∨ written = model := by
  unfold writtenModels Model.discriminator?
  intro mem
  cases shape : model.shape with
  | union discriminator => exact .inl ⟨discriminator, rfl, by simpa [shape] using mem⟩
  | enumeration enumeration => simp [shape] at mem
  | record => exact .inr (by simpa [shape] using mem)
  | unsupported reason => exact .inr (by simpa [shape] using mem)

theorem writtenModels_of_discriminator? {discriminator : Discriminator}
    (found : model.discriminator? = some discriminator) :
    writtenModels api model = variantModels api discriminator := by
  rw [writtenModels, Api.discriminator?_eq_some.1 found]

theorem exists_type_of_property (named : name ∈ propertyModels model) :
    ∃ type ∈ model.types, name ∈ type.models := by
  obtain ⟨property, inside, named⟩ := List.mem_flatMap.1 named
  exact ⟨property.type, List.mem_append_left _ (List.mem_map_of_mem inside), named⟩

theorem mem_models_of_variant {discriminator : Discriminator}
    (mem : written ∈ variantModels api discriminator) : written ∈ api.models := by
  obtain ⟨variant, -, found⟩ := List.mem_filterMap.1 mem
  obtain ⟨id, -, at_⟩ := Api.model?_eq_some found
  exact List.mem_of_getElem? at_

theorem mem_models_of_written (here : model ∈ api.models) (mem : written ∈ writtenModels api model) :
    written ∈ api.models := by
  rcases mem_writtenModels mem with ⟨discriminator, -, variant⟩ | rfl
  · exact mem_models_of_variant variant
  · exact here

theorem mem_modelImports :
    name ∈ modelImports api model ↔
      (∃ written ∈ writtenModels api model, name ∈ written.imports) ∧ name ≠ model.name := by
  unfold modelImports writtenModels
  rw [NameSet.mem_erase]
  refine and_congr_left fun _ => ?_
  cases model.shape with
  | union discriminator => simp [← NameSet.mem_def]
  | _ => simp

end Imports

section Files

variable {doc : OpenApi.Document} {source : Source} {config : Config} {code : GeneratedCode}
  {model written : Model} {name : String}

theorem packages_eq (declaration : Declaration) :
    declaration.requires.names.filter isPackage = declaration.packages := by
  cases declaration with
  | record declared =>
    have each : ∀ readsJson : Bool, (NameSet.ofList [freezedPackage, freezedPart,
        if readsJson then jsonPart else dioPackage]).names.filter isPackage =
        (if readsJson then [] else ["package:dio/dio.dart"]) ++
          ["package:freezed_annotation/freezed_annotation.dart"] := by
      intro readsJson
      cases readsJson <;> rfl
    exact each declared.readsJson
  | _ => rfl

theorem suffixes_eq (declaration : Declaration) : declaration.suffixes =
    (if declaration.requires.contains freezedPart then ["freezed"] else []) ++
      if declaration.requires.contains jsonPart then ["g"] else [] := by
  cases declaration with
  | record declared =>
    have each : ∀ readsJson : Bool,
        let requires := NameSet.ofList [freezedPackage, freezedPart, if readsJson then jsonPart else dioPackage]
        ("freezed" :: if readsJson then ["g"] else []) =
          (if requires.contains freezedPart then ["freezed"] else []) ++
            if requires.contains jsonPart then ["g"] else [] := by
      intro readsJson
      cases readsJson <;> rfl
    exact each declared.readsJson
  | _ => rfl

theorem decodeErrorText_eq (config : MobileConfig) (declaration : Declaration) :
    decodeErrorText config declaration = if declaration.requires.contains decodeError then
      importText (relativePath config.modelDir config.apiDir ++ "/" ++ decodeErrorFile) else "" := by
  have file : relativePath config.modelDir config.apiDir ++ "/" ++ decodeErrorFile =
      relativePath config.modelDir config.apiDir ++ "/decode_error.dart" := String.append_assoc
  rw [file]
  cases declaration with
  | record declared =>
    have each : ∀ readsJson : Bool, (NameSet.ofList [freezedPackage, freezedPart,
        if readsJson then jsonPart else dioPackage]).contains decodeError = false := by
      intro readsJson
      cases readsJson <;> rfl
    exact (if_neg (by rw [Declaration.requires, each]; decide)).symm
  | _ => rfl

theorem render_lines {α : Type} (line : α → String) (items : List α) :
    Code.render indent (items.map fun item => .line (line item)) = String.join (items.map (line · ++ "\n")) := by
  have spells := Code.spells_map indent line items 0
  simpa [Code.render, Code.indentation, linesText, Function.comp_def] using spells

theorem render_imports (files : List String) :
    Code.render indent (files.map importLine) = String.join (files.map importText) := by
  have text : importText = fun file => "import '" ++ file ++ "';" ++ "\n" := by
    funext file
    have ends : "';" ++ "\n" = "';\n" := rfl
    rw [String.append_assoc, ends, importText]
  rw [text]
  exact render_lines _ files

theorem partLines_eq (unit : CodeUnit) : partLines unit =
    ((if unit.requires.contains freezedPart then ["freezed"] else []) ++
      if unit.requires.contains jsonPart then ["g"] else []).map fun suffix =>
        .line ("part '" ++ fileStem unit.name ++ "." ++ suffix ++ ".dart';") := by
  unfold partLines
  dsimp only
  split <;> split <;> rfl

theorem render_parts (name : String) (suffixes : List String) :
    Code.render indent (suffixes.map fun suffix => .line ("part '" ++ fileStem name ++ "." ++ suffix ++ ".dart';")) =
      String.join (suffixes.map (partText name)) := by
  have text : partText name = fun suffix => "part '" ++ fileStem name ++ "." ++ suffix ++ ".dart';" ++ "\n" := by
    funext suffix
    have ends : ".dart';" ++ "\n" = ".dart';\n" := rfl
    rw [String.append_assoc, ends, partText]
  rw [text]
  exact render_lines _ suffixes

theorem render_importLines (packages others : List String) (some : packages ≠ []) :
    ∃ gap, (gap = "" ∨ gap = "\n") ∧
      render ([packages.map importLine, others.map importLine].filter fun lines => !lines.isEmpty) =
        String.join (packages.map importText) ++ gap ++ String.join (others.map importText) := by
  rw [← render_imports, ← render_imports]
  cases packages with
  | nil => exact absurd rfl some
  | cons first packages =>
    cases others with
    | nil => exact ⟨"", .inl rfl, by simp [render, Code.spaced, Code.render, Code.textOfAll]⟩
    | cons other others =>
      refine ⟨"\n", .inr rfl, ?_⟩
      rw [String.append_assoc]
      exact Code.textOfAll_append 0 ((first :: packages).map importLine) (.blank :: (other :: others).map importLine)

theorem modelFile_eq (config : MobileConfig) (api : Api) {unit : CodeUnit} {declaration : Declaration}
    (requires : unit.requires = declaration.requires) : ∃ gap, (gap = "" ∨ gap = "\n") ∧
      modelFile config api.unitNames unit = ⟨unit.path,
        header ++ String.join (declaration.packages.map importText) ++ gap ++
          String.join ((importedModels api unit).map fun name => importText (sourceFile name)) ++
            decodeErrorText config declaration ++ "\n" ++
              String.join (declaration.suffixes.map (partText unit.name)) ++ "\n" ++ unit.code⟩ := by
  let errors := if declaration.requires.contains decodeError then
    [relativePath config.modelDir config.apiDir ++ "/" ++ decodeErrorFile] else []
  have some : declaration.packages ≠ [] := by
    cases declaration <;> simp [Declaration.packages]
  have some' : declaration.suffixes ≠ [] := by
    cases declaration <;> simp [Declaration.suffixes]
  have head : importLines config api.unitNames unit = [declaration.packages.map importLine,
      ((importedModels api unit).map sourceFile ++ errors).map importLine] := by
    unfold importLines
    rw [requires, packages_eq]
    rfl
  have others : String.join (((importedModels api unit).map sourceFile ++ errors).map importText) =
      String.join ((importedModels api unit).map fun name => importText (sourceFile name)) ++
        decodeErrorText config declaration := by
    have thrown : String.join (errors.map importText) = decodeErrorText config declaration := by
      rw [decodeErrorText_eq]
      by_cases throws : declaration.requires.contains decodeError <;> simp [errors, throws]
    rw [List.map_append, String.join_append, thrown, List.map_map]
    rfl
  have parts : Code.render indent ((if (partLines unit).isEmpty then [] else .blank :: partLines unit) ++ [.blank]) =
      "\n" ++ String.join (declaration.suffixes.map (partText unit.name)) ++ "\n" := by
    rw [partLines_eq, requires, ← suffixes_eq, if_neg (by simpa using some'), ← render_parts]
    exact Code.textOfAll_append 0 (.blank :: _) [.blank]
  obtain ⟨gap, isGap, imports⟩ := render_importLines _
    ((importedModels api unit).map sourceFile ++ errors) some
  refine ⟨gap, isGap, ?_⟩
  unfold modelFile
  dsimp only
  rw [head, imports, others, parts]
  simp only [String.append_assoc]

theorem provides_iff (generated : Generated .mobileClient config source code) :
    Provides config.mobile source.api code model (modelUnit config.mobile source.api model) name ↔
      name = model.name ∨ (∃ written ∈ writtenModels source.api model, name ∈ written.imports) ∧
        name ∈ source.api.unitNames := by
  unfold Provides
  rw [name_modelDeclaration]
  constructor
  · rintro (rfl | ⟨imported, -⟩)
    · exact .inl rfl
    · obtain ⟨inside, emitted⟩ := List.mem_filter.1 imported
      exact .inr ⟨(mem_modelImports.1 inside).1, List.contains_iff_mem.1 emitted⟩
  · rintro (rfl | ⟨imported, emitted⟩)
    · exact .inl rfl
    by_cases own : name = model.name
    · exact .inl own.symm
    obtain ⟨⟨id, other⟩, listed, named⟩ := List.mem_map.1 emitted
    dsimp only at named
    subst named
    have imports := mem_modelImports.2 ⟨imported, own⟩
    have unit : (id, modelUnit config.mobile source.api other) ∈ code.models :=
      generated.mem_models.2 ⟨other, listed, rfl⟩
    have path : (modelUnit config.mobile source.api other).path =
        joinPath config.mobile.modelDir (sourceFile other.name) := by
      simp only [modelUnit]
    exact .inr ⟨List.mem_filter.2 ⟨imports, List.contains_iff_mem.2 emitted⟩, _, unit, rfl, path⟩

theorem SelfContained.references (generated : Generated .mobileClient config source code)
    (contained : SelfContained config.mobile source.api code model
      (modelUnit config.mobile source.api model)) :
    SelfReferencesImported source.api model := by
  intro discriminator found variant inside self
  rw [← writtenModels_of_discriminator? found] at inside ⊢
  exact (provides_iff generated).1 (contained variant inside _ self)

theorem selfContained_of_references (sound : source.api.Sound)
    (generated : Generated .mobileClient config source code) (here : model ∈ source.api.models)
    (references : SelfReferencesImported source.api model) :
    SelfContained config.mobile source.api code model (modelUnit config.mobile source.api model) := by
  intro written inside name named
  refine (provides_iff generated).2 ?_
  -- a model is not among its own imports, all other models in its types are
  by_cases own : name = written.name
  · subst own
    rcases mem_writtenModels inside with ⟨discriminator, found, variant⟩ | rfl
    · rw [writtenModels_of_discriminator? found]
      exact references discriminator found written variant named
    · exact .inl rfl
  · obtain ⟨type, typed, named⟩ := exists_type_of_property named
    have mem := mem_models_of_written here inside
    obtain ⟨other, listed, same⟩ := sound.unit_of_type mem typed named own
    exact .inr ⟨⟨written, inside, Model.mem_imports_of_type typed named own⟩,
      List.mem_map.2 ⟨other, listed, same⟩⟩

/-- A file is self-contained exactly if every variant of a union that refers to itself is imported. -/
theorem selfContained_iff (lowered : Source.of doc = .ok source)
    (run : generate .mobileClient config source = .ok code) {entry : Nat × CodeUnit}
    (mem : entry ∈ code.models) :
    ∃ model, (entry.1, model) ∈ source.api.unitModels ∧ entry.2.name = model.name ∧
      WritesOut config.mobile source.api code model entry.2 ∧
        (SelfContained config.mobile source.api code model entry.2 ↔
          SelfReferencesImported source.api model) := by
  have generated := generated_of_generate run
  obtain ⟨id, unit⟩ := entry
  obtain ⟨model, listed, rfl⟩ := generated.mem_models.1 mem
  have here := List.mem_of_getElem? (Api.mem_unitModels.1 listed).1
  refine ⟨model, listed, rfl, ⟨?_, fun name named => names_modelDeclaration named⟩,
    SelfContained.references generated,
    selfContained_of_references (sound_of_source lowered) generated here⟩
  have requires : (modelUnit config.mobile source.api model).requires =
      (modelDeclaration source.api model).requires := rfl
  obtain ⟨gap, isGap, same⟩ := modelFile_eq config.mobile source.api requires
  obtain ⟨text, spelled, written⟩ := exists_text (modelDeclaration source.api model)
  have file := modelFile_mem generated mem
  have code : (modelUnit config.mobile source.api model).code = text := written
  dsimp only [Target.modelUnit] at file ⊢
  rw [same, code] at file
  exact ⟨gap, text, isGap, spelled, file⟩

end Files

/-- An owner and their pets: cats, which have a mother, and dogs, with what is known of dogs. -/
def household (dog : List (String × OpenApi.Schema)) : OpenApi.Document where
  openapi := none
  info := none
  paths := []
  schemas := some
    [("Owner", { properties := some [("cat", { ref := some "#/components/schemas/Cat" })] }),
      ("Pet",
        { oneOf := some [{ ref := some "#/components/schemas/Cat" },
            { ref := some "#/components/schemas/Dog" }]
          discriminator := some ⟨"kind", some [("cat", "#/components/schemas/Cat"),
            ("dog", "#/components/schemas/Dog")]⟩ }),
      ("Cat", { properties := some [("mother", { ref := some "#/components/schemas/Cat" })] }),
      ("Dog", { properties := some dog })]
  tags := []
  source := none

/-- The mother of a cat is a cat, but the file of pets does not import cats. -/
theorem household_cat_missing :
    ∃ source code id model, Source.of (household []) = .ok source ∧
      generate .mobileClient {} source = .ok code ∧ (id, model) ∈ source.api.unitModels ∧
        model.name = "Pet" ∧ source.api.unitNames = ["Owner", "Pet", "Cat"] ∧
          "Cat" ∈ (modelDeclaration source.api model).typeNames ∧
            importedModels source.api (modelUnit {} source.api model) = [] ∧
              ¬ SelfContained {} source.api code model (modelUnit {} source.api model) := by
  have seen : (Source.of (household [])).toOption.map (fun source =>
      (fullySupported source.api, source.api.unitNames, (source.api.unitModels[1]?).map fun unit =>
        (unit.2.name, importedModels source.api (modelUnit {} source.api unit.2),
          decide ("Cat" ∈ (modelDeclaration source.api unit.2).typeNames ∧
            ¬ SelfReferencesImported source.api unit.2)))) =
      some (true, ["Owner", "Pet", "Cat"], some ("Pet", [], true)) := by
    rfl
  obtain ⟨source, lowered, seen⟩ := Lowering.exists_of_toOption_map seen
  simp only [Prod.mk.injEq, Option.map_eq_some_iff, decide_eq_true_eq] at seen
  obtain ⟨supported, names, ⟨id, model⟩, at_, named, imported, written, missing⟩ := seen
  obtain ⟨code, run⟩ := exists_generated .mobileClient {} supported
  have generated := generated_of_generate run
  exact ⟨source, code, id, model, lowered, run, List.mem_of_getElem? at_, named, names, written,
    imported, fun contained => missing (contained.references generated)⟩

/-- A dog that has a cat for a rival imports cats for all pets. -/
theorem household_selfContained :
    ∃ source code,
      Source.of (household [("rival", { ref := some "#/components/schemas/Cat" })]) = .ok source ∧
        generate .mobileClient {} source = .ok code ∧
          source.api.unitNames = ["Owner", "Pet", "Cat"] ∧
            ∀ entry ∈ code.models, ∃ model, (entry.1, model) ∈ source.api.unitModels ∧
              entry.2.name = model.name ∧ SelfContained {} source.api code model entry.2 := by
  have seen : (Source.of (household
      [("rival", { ref := some "#/components/schemas/Cat" })])).toOption.map (fun source =>
        (fullySupported source.api, source.api.unitNames, source.api.unitModels.all fun unit =>
          decide (SelfReferencesImported source.api unit.2))) =
      some (true, ["Owner", "Pet", "Cat"], true) := by
    rfl
  obtain ⟨source, lowered, seen⟩ := Lowering.exists_of_toOption_map seen
  simp only [Prod.mk.injEq, List.all_eq_true, decide_eq_true_eq] at seen
  obtain ⟨supported, names, references⟩ := seen
  obtain ⟨code, run⟩ := exists_generated .mobileClient {} supported
  refine ⟨source, code, lowered, run, names, fun entry mem => ?_⟩
  obtain ⟨model, listed, named, -, contained⟩ := selfContained_iff lowered run mem
  exact ⟨model, listed, named, contained.2 (references _ listed)⟩

end OpenApiCodegen.MobileClient
