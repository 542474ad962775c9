import OpenApiCodegen.Proofs.Generation.Placements
import OpenApiCodegen.Proofs.Generation.Units
import OpenApiCodegen.Proofs.Server.DeclarationTexts
import OpenApiCodegen.Proofs.WebClient.DeclarationTexts

namespace OpenApiCodegen

open Api (Model Placement Discriminator)
open Output (CodeUnit Artifact)

/-- What a target writes for a model: the declarations of its shape, and that of a record that stands in
the unit of a union. -/
structure Writing (δ : Type) where
  enumeration : Model → Api.Enumeration → δ
  union : Model → Discriminator → List δ
  own : Model → δ
  variant : Model → δ
  variant_ne_enumeration : ∀ model shape, variant model ≠ enumeration model shape
  variant_ne_union : ∀ model discriminator, [variant model] ≠ union model discriminator

namespace Writing

variable {δ : Type} (writing : Writing δ)

def declarations (model : Model) : List δ :=
  match model.shape with
  | .enumeration enumeration => [writing.enumeration model enumeration]
  | .union discriminator => writing.union model discriminator
  | .record => [writing.own model]
  | .unsupported _ => [writing.variant model]

def declarationsAt (place : Placement) : List δ :=
  if place.asVariant then [writing.variant place.model] else writing.declarations place.model

/-- The declarations show a model in its shape. -/
inductive Shows (model : Model) : List δ → Prop
  | enumeration {enumeration : Api.Enumeration} : model.shape = .enumeration enumeration →
      Shows model [writing.enumeration model enumeration]
  | union {discriminator : Discriminator} : model.shape = .union discriminator →
      Shows model (writing.union model discriminator)
  | own : model.shape = .record → Shows model [writing.own model]
  | variant : model.shape = .record → Shows model [writing.variant model]

def DeclaresModels (api : Api) : Prop :=
  api.DeclaresAll fun place => writing.Shows place.model (writing.declarationsAt place)

variable {writing} {api : Api} {place : Placement}

/-- If unions are written with the variants that are theirs in front, units are written place by place. -/
theorem eq_flatMap_placementsOf {declare : Model → List δ} {variants : Discriminator → List Model}
    (own : ∀ discriminator, variants discriminator = (api.ownVariants discriminator).map (·.2))
    (unions : ∀ {model discriminator}, model.shape = .union discriminator →
      declare model = (variants discriminator).map writing.variant ++ writing.declarations model)
    (others : ∀ {model}, model.discriminator? = none → declare model = writing.declarations model)
    (unit : Nat × Model) : declare unit.2 = (api.placementsOf unit).flatMap writing.declarationsAt := by
  have single : ∀ place, place.asVariant = true → writing.declarationsAt place = [writing.variant place.model] :=
    fun _ variant => if_pos variant
  rw [api.flatMap_placementsOf unit writing.variant single, Api.variantsIn]
  cases found : unit.2.discriminator? with
  | none => exact others found
  | some discriminator =>
    rw [unions (Api.discriminator?_eq_some.1 found), own]
    rfl

theorem shows_own (supported : unsupported? place.model = none) (own : place.asVariant = false) :
    writing.Shows place.model (writing.declarationsAt place) := by
  rw [declarationsAt, own]
  cases shape : place.model.shape with
  | record => simpa [declarations, shape] using Shows.own shape
  | enumeration enumeration => simpa [declarations, shape] using Shows.enumeration shape
  | union discriminator => simpa [declarations, shape] using Shows.union shape
  | unsupported reason => simp [unsupported?, shape] at supported

theorem shows_variant (variant : place.asVariant = true) :
    writing.Shows place.model (writing.declarationsAt place) ↔ place.model.isRecord = true := by
  rw [declarationsAt, if_pos variant]
  constructor
  · intro shows
    generalize written : [writing.variant place.model] = declarations at shows
    cases shows with
    | enumeration shape => exact absurd (List.cons.inj written).1 (writing.variant_ne_enumeration _ _)
    | union shape => exact absurd written (writing.variant_ne_union _ _)
    | own shape => simp [Model.isRecord, shape]
    | variant shape => simp [Model.isRecord, shape]
  · intro record
    refine .variant ?_
    unfold Model.isRecord at record
    split at record
    · assumption
    · cases record

theorem declaresModels_iff (writing : Writing δ) (sound : api.Sound)
    (supported : ∀ place ∈ api.placements, unsupported? place.model = none) :
    writing.DeclaresModels api ↔ api.Placeable :=
  Api.declaresAll_iff sound (fun place mem => shows_own (supported place mem)) fun _ _ => shows_variant

end Writing

namespace WebClient

/-- A union has a decoder. -/
def writing (api : Api) : Writing Declaration where
  enumeration := enumDeclaration
  union model discriminator :=
    [aliasOf model (.either (discriminator.variants.map .named)), .decoder (decoder model discriminator)]
  own model := .interface (recordInterface api model)
  variant model := .interface (recordInterface api model)
  variant_ne_enumeration model shape same := by
    unfold enumDeclaration at same
    split at same <;> cases same
  variant_ne_union model discriminator same := by cases same

theorem ownVariants_eq (api : Api) (discriminator : Discriminator) :
    ownVariants api discriminator = (api.ownVariants discriminator).map (·.2) := by
  unfold ownVariants Api.ownVariants Api.ownVariant?
  rw [List.map_filterMap]
  congr 1
  funext variant
  cases api.modelId? variant with
  | none => rfl
  | some id =>
    by_cases only : Api.isUnionOnly api id <;> simp [only, Function.comp_def]

theorem modelDeclarations_eq (api : Api) (unit : Nat × Model) :
    modelDeclarations api unit.2 = (api.placementsOf unit).flatMap (writing api).declarationsAt := by
  refine Writing.eq_flatMap_placementsOf (ownVariants_eq api) ?_ ?_ unit
  · intro model discriminator shape
    simp only [modelDeclarations, Writing.declarations, shape]
    rfl
  · intro model none
    cases shape : model.shape with
    | union discriminator => simp [Model.discriminator?, shape] at none
    | _ => simp only [modelDeclarations, Writing.declarations, shape]; rfl

end WebClient

namespace Server

/-- The struct of an envelope in its own unit has type parameters, that of a variant has the types that
stand for them. -/
def writing (api : Api) : Writing Declaration where
  enumeration model enumeration := .enumeration (enumType api model enumeration)
  union model discriminator := [.union (unionType model discriminator)]
  own model := .record (recordStruct api model (model.signature?.getD []))
  variant model := .record (recordStruct api model [])
  variant_ne_enumeration model shape same := by cases same
  variant_ne_union model discriminator same := by cases same

theorem ownVariants_eq (api : Api) (discriminator : Discriminator) :
    ownVariants api discriminator = (api.ownVariants discriminator).map (·.2) := by
  have ids : (Api.branches api discriminator).filterMap (·.variantId) =
      (discriminator.mapping.map (·.2)).filterMap api.modelId? := by
    simp [Api.branches, List.filterMap_map]
  have injective : ∀ {name name' : String} {id : Nat}, api.modelId? name = some id →
      api.modelId? name' = some id → name = name' := by
    intro name name' id found found'
    obtain ⟨model, at_, named⟩ := Api.modelId?_eq_some found
    exact named.symm.trans (Api.name_of_modelId? found' at_)
  -- repeated positions are dropped here, and repeated names there
  unfold ownVariants Api.ownVariants Api.ownVariant?
  dsimp only
  rw [ids, firsts_filterMap _ injective, ← Discriminator.variants, List.filter_filterMap,
    List.filterMap_filterMap, List.map_filterMap]
  congr 1
  funext variant
  cases api.modelId? variant with
  | none => rfl
  | some id =>
    by_cases only : Api.isUnionOnly api id <;> simp [only, Option.filter_some, Function.comp_def]

theorem modelDeclarations_eq (api : Api) (unit : Nat × Model) :
    modelDeclarations api unit.2 = (api.placementsOf unit).flatMap (writing api).declarationsAt := by
  refine Writing.eq_flatMap_placementsOf (ownVariants_eq api) ?_ ?_ unit
  · intro model discriminator shape
    simp only [modelDeclarations, Writing.declarations, shape]
    rfl
  · intro model none
    cases shape : model.shape with
    | union discriminator => simp [Model.discriminator?, shape] at none
    | _ => simp only [modelDeclarations, Writing.declarations, shape]; rfl

end Server

/-- The units of the models consist of the declarations for the places in them, with a blank line between
any two. Each has a file that ends with its code, and what the other files say is known. -/
structure UnitsDeclare {δ : Type} (writing : Writing δ) (Spelled : δ → List (List String) → Prop)
    (file : CodeUnit → Artifact) (others : List Artifact) (api : Api) (code : GeneratedCode) : Prop where
  units : List.Forall₂ (fun unit entry => entry.1 = unit.1 ∧ ∃ pieces,
      List.Forall₂ Spelled ((api.placementsOf unit).flatMap writing.declarationsAt) pieces ∧
        entry.2.code = String.intercalate "\n" (pieces.flatten.map linesText)) api.unitModels code.models
  files : code.artifacts = code.models.map (fun entry => file entry.2) ++ others
  ends : ∀ unit, ∃ head, file unit = ⟨unit.path, head ++ unit.code⟩

section Sources

variable {doc : OpenApi.Document} {source : Source} {config : Config} {web server : GeneratedCode}

/-- The list of the models, the requests and what these share. -/
def WebClient.otherFiles (config : Config) (api : Api) (code : GeneratedCode) : List Artifact :=
  [indexFile config.web (code.models.map (·.2)),
      requestsFile config.web api.unitNames (code.operations.map (·.2))] ++
    code.shared.map sharedFile

def Server.otherFiles (config : Config) (code : GeneratedCode) : List Artifact :=
  (if code.operations.isEmpty then []
    else [handlersFileOf config.server (code.operations.map (·.2))]) ++ code.shared.map sharedFile

theorem WebClient.unitsDeclare (generated : Generated .webClient config source web) :
    UnitsDeclare (writing source.api) (fun declaration pieces => ∃ lines, declaration.Spelled lines ∧ pieces = [lines])
      (modelFile config.web source.api.unitNames) (otherFiles config source.api web) source.api web := by
  refine ⟨?_, ?_, fun unit => ⟨_, rfl⟩⟩
  · rw [generated.models, List.forall₂_map_right_iff]
    refine List.forall₂_same.2 fun unit _ => ⟨rfl, ?_⟩
    obtain ⟨texts, spelled, written⟩ := exists_render (modelDeclarations source.api unit.2)
    refine ⟨texts.map ([·]), ?_, ?_⟩
    · rw [← modelDeclarations_eq, List.forall₂_map_right_iff]
      exact spelled.imp fun _ lines spelled => ⟨lines, spelled, rfl⟩
    · rw [← List.flatMap_def, List.flatMap_singleton']
      exact written
  · rw [generated.artifacts, Target.files, files, generated.names, List.map_map, List.append_assoc]
    rfl

theorem Server.unitsDeclare (generated : Generated .server config source server) :
    UnitsDeclare (writing source.api) Declaration.Spelled (modelFile config.server) (otherFiles config server)
      source.api server := by
  refine ⟨?_, ?_, fun unit => ⟨_, rfl⟩⟩
  · rw [generated.models, List.forall₂_map_right_iff]
    refine List.forall₂_same.2 fun unit _ => ⟨rfl, ?_⟩
    rw [← modelDeclarations_eq]
    exact exists_render (modelDeclarations source.api unit.2)
  · rw [generated.artifacts, Target.files, files, List.map_map, List.append_assoc, List.isEmpty_map]
    rfl

/-- Both targets declare all models once and in their shapes exactly if the models are placeable. -/
theorem declaresModels_of_generate (lowered : Source.of doc = .ok source)
    (webRun : generate .webClient config source = .ok web)
    (serverRun : generate .server config source = .ok server) :
    (UnitsDeclare (WebClient.writing source.api)
          (fun declaration pieces => ∃ lines, declaration.Spelled lines ∧ pieces = [lines])
          (WebClient.modelFile config.web source.api.unitNames)
          (WebClient.otherFiles config source.api web) source.api web ∧
        ((WebClient.writing source.api).DeclaresModels source.api ↔ source.api.Placeable)) ∧
      UnitsDeclare (Server.writing source.api) Server.Declaration.Spelled (Server.modelFile config.server)
          (Server.otherFiles config server) source.api server ∧
        ((Server.writing source.api).DeclaresModels source.api ↔ source.api.Placeable) := by
  have sound := sound_of_source lowered
  have webGenerated := generated_of_generate webRun
  have serverGenerated := generated_of_generate serverRun
  have supported : ∀ place ∈ source.api.placements, unsupported? place.model = none :=
    fun place mem => webGenerated.supported _
      (List.mem_of_getElem? (Api.getElem?_of_mem_placements mem))
  exact ⟨⟨WebClient.unitsDeclare webGenerated, Writing.declaresModels_iff _ sound supported⟩,
    Server.unitsDeclare serverGenerated, Writing.declaresModels_iff _ sound supported⟩

end Sources

/-- A union of cats and dogs, with the values of its discriminator that are given. -/
def petShop (mapping : List (String × String)) : OpenApi.Document where
  openapi := none
  info := none
  paths := []
  schemas := some
    [("Pet",
        { oneOf := some [{ ref := some "#/components/schemas/Cat" },
            { ref := some "#/components/schemas/Dog" }]
          discriminator := some ⟨"kind", some mapping⟩ }),
      ("Cat", { properties := some [("kind", { typeNames := some (.single "string") })] }),
      ("Dog", { properties := some [("kind", { typeNames := some (.single "string") })] })]
  tags := []
  source := none

/-- No value of the discriminator stands for a dog: it has neither a unit nor a place in the union. -/
theorem petShop_dog_undeclared :
    ∃ source web server, Source.of (petShop [("cat", "#/components/schemas/Cat")]) = .ok source ∧
      generate .webClient {} source = .ok web ∧ generate .server {} source = .ok server ∧
        source.api.models.map (fun model => (model.name, model.origin)) =
            [("Pet", .component), ("Cat", .component), ("Dog", .component)] ∧
          source.api.placements.map (·.model.name) = ["Cat", "Pet"] ∧
            ¬ (WebClient.writing source.api).DeclaresModels source.api ∧
              ¬ (Server.writing source.api).DeclaresModels source.api := by
  have seen : (Source.of (petShop [("cat", "#/components/schemas/Cat")])).toOption.map (fun source =>
      (fullySupported source.api, source.api.models.map (fun model => (model.name, model.origin)),
        source.api.placements.map (·.model.name))) =
      some (true, [("Pet", .component), ("Cat", .component), ("Dog", .component)], ["Cat", "Pet"]) := by
    rfl
  obtain ⟨source, lowered, seen⟩ := Lowering.exists_of_toOption_map seen
  simp only [Prod.mk.injEq] at seen
  obtain ⟨supported, models, places⟩ := seen
  obtain ⟨web, webRun⟩ := exists_generated .webClient {} supported
  obtain ⟨server, serverRun⟩ := exists_generated .server {} supported
  have undeclared : ∀ shows, ¬ source.api.DeclaresAll shows := by
    intro shows all
    have dog : ("Dog", Api.Origin.component) ∈
        source.api.models.map fun model => (model.name, model.origin) := by
      simp [models]
    obtain ⟨model, mem, same⟩ := List.mem_map.1 dog
    obtain ⟨named, origin⟩ := Prod.mk.inj same
    obtain ⟨id, at_⟩ := List.mem_iff_getElem?.1 mem
    have place := all.exists_place at_ (by simp [origin])
    simp [places, named] at place
  exact ⟨source, web, server, lowered, webRun, serverRun, models, places, undeclared _, undeclared _⟩

theorem petShop_declaresModels :
    ∃ source web server, Source.of (petShop [("cat", "#/components/schemas/Cat"),
        ("dog", "#/components/schemas/Dog")]) = .ok source ∧
      generate .webClient {} source = .ok web ∧ generate .server {} source = .ok server ∧
        (WebClient.writing source.api).DeclaresModels source.api ∧
          (Server.writing source.api).DeclaresModels source.api := by
  have seen : (Source.of (petShop [("cat", "#/components/schemas/Cat"),
      ("dog", "#/components/schemas/Dog")])).toOption.map (fun source =>
        (fullySupported source.api, decide source.api.Placeable)) = some (true, true) := by
    rfl
  obtain ⟨source, lowered, seen⟩ := Lowering.exists_of_toOption_map seen
  obtain ⟨supported, placeable⟩ := Prod.mk.inj seen
  have placeable := of_decide_eq_true placeable
  obtain ⟨web, webRun⟩ := exists_generated .webClient {} supported
  obtain ⟨server, serverRun⟩ := exists_generated .server {} supported
  have declares := declaresModels_of_generate lowered webRun serverRun
  exact ⟨source, web, server, lowered, webRun, serverRun, declares.1.2.2 placeable,
    declares.2.2.2 placeable⟩

end OpenApiCodegen
