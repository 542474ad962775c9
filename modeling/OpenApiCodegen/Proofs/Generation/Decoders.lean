import OpenApiCodegen.Proofs.Generation.Declarations
import OpenApiCodegen.Proofs.Output.CodeText
import OpenApiCodegen.Proofs.Text.Literals

namespace OpenApiCodegen

open Api (Model Discriminator)
open Output (CodeUnit Artifact)
open Text (Quoting dropStart?)

def between? (start finish line : String) : Option String := do
  let rest ← dropStart? start.toList line.toList
  let middle ← dropStart? finish.toList.reverse rest.reverse
  some (String.ofList middle.reverse)

theorem between?_append (start middle finish : String) :
    between? start finish (start ++ middle ++ finish) = some middle := by
  simp [between?, Text.dropStart?_append]

/-- The arms of a switch, each with the variant for its value, and the union that the arm for all other
values reports. -/
structure Switch where
  arms : List (String × String)
  reported : String

/-- How a target writes a switch, and where: in the decoder of a union that is told by a property. -/
structure Dialect where
  indent : String
  quoting : Quoting
  variant? : (union : String) → (body : List Code) → Option String
  reported? : (body : List Code) → Option String
  decoder : (union property : String) → (switch : List Code) → List Code

namespace Dialect

def caseLine (dialect : Dialect) (value : String) : String :=
  "case " ++ dialect.quoting.literal value ++ ":"

def defaultLine : String := "default:"

def value? (dialect : Dialect) (line : String) : Option String := do
  let rest ← dropStart? "case ".toList line.toList
  let (value, rest) ← dialect.quoting.read? rest
  if rest = ":".toList then some value else none

/-- Arms come in pairs of a line and a body; the last one, and no other, is for all other values. -/
def readSwitch? (dialect : Dialect) (union : String) : List Code → Option Switch
  | .line line :: .nested body :: rest =>
    if line = defaultLine ∧ rest = [] then
      (dialect.reported? body).map fun reported => ⟨[], reported⟩
    else do
      let value ← dialect.value? line
      let variant ← dialect.variant? union body
      let switch ← readSwitch? dialect union rest
      some { switch with arms := (value, variant) :: switch.arms }
  | _ => none

def labels (switch : List Code) : List String :=
  switch.filterMap fun
    | .line line => some line
    | _ => none

structure Writes (dialect : Dialect) (union : String) (arm : String × String → List Code)
    (otherwise : List Code) : Prop where
  arms : ∀ value variant, ∃ body, arm (value, variant) = [.line (dialect.caseLine value), .nested body] ∧
    dialect.variant? union body = some variant
  last : ∃ body, otherwise = [.line defaultLine, .nested body] ∧ dialect.reported? body = some union

section Reading

variable {dialect : Dialect} {union : String} {arm : String × String → List Code}
  {otherwise : List Code}

theorem value?_caseLine (dialect : Dialect) (value : String) :
    dialect.value? (dialect.caseLine value) = some value := by
  simp only [value?, caseLine, String.toList_append, List.append_assoc, Text.dropStart?_append,
    Text.Quoting.read?_literal, Option.bind_eq_bind, Option.bind_some, if_pos]

theorem caseLine_injective (dialect : Dialect) : Function.Injective dialect.caseLine := by
  intro value value' same
  have read := dialect.value?_caseLine value
  rw [same, value?_caseLine] at read
  exact (Option.some.inj read).symm

theorem caseLine_ne_defaultLine (dialect : Dialect) (value : String) :
    dialect.caseLine value ≠ defaultLine := by
  intro same
  have read := dialect.value?_caseLine value
  have unread : dialect.value? defaultLine = none := rfl
  rw [same, unread] at read
  cases read

theorem Writes.readSwitch? (writes : dialect.Writes union arm otherwise)
    (mapping : List (String × String)) :
    dialect.readSwitch? union (mapping.flatMap arm ++ otherwise) = some ⟨mapping, union⟩ := by
  induction mapping with
  | nil =>
    obtain ⟨body, rfl, reported⟩ := writes.last
    simp [Dialect.readSwitch?, reported]
  | cons entry mapping ih =>
    obtain ⟨value, variant⟩ := entry
    obtain ⟨body, written, selected⟩ := writes.arms value variant
    have other : ¬ (dialect.caseLine value = defaultLine ∧ mapping.flatMap arm ++ otherwise = []) :=
      fun same => dialect.caseLine_ne_defaultLine value same.1
    rw [List.flatMap_cons, written, List.append_assoc, List.cons_append, List.cons_append,
      List.nil_append, Dialect.readSwitch?, if_neg other, value?_caseLine, selected, ih]
    rfl

theorem Writes.labels (writes : dialect.Writes union arm otherwise)
    (mapping : List (String × String)) : labels (mapping.flatMap arm ++ otherwise) =
      mapping.map (fun entry => dialect.caseLine entry.1) ++ [defaultLine] := by
  induction mapping with
  | nil =>
    obtain ⟨body, rfl, -⟩ := writes.last
    rfl
  | cons entry mapping ih =>
    obtain ⟨value, variant⟩ := entry
    obtain ⟨body, written, -⟩ := writes.arms value variant
    rw [List.flatMap_cons, written, List.append_assoc]
    exact congrArg (dialect.caseLine value :: ·) ih

theorem Writes.labels_nodup (writes : dialect.Writes union arm otherwise)
    {mapping : List (String × String)} (distinct : (mapping.map (·.1)).Nodup) :
    (Dialect.labels (mapping.flatMap arm ++ otherwise)).Nodup := by
  have lines : (mapping.map fun entry => dialect.caseLine entry.1).Nodup := by
    have mapped := distinct.map dialect.caseLine_injective
    rwa [List.map_map] at mapped
  rw [writes.labels, ← List.concat_eq_append]
  refine List.Nodup.concat (fun mem => ?_) lines
  obtain ⟨entry, -, same⟩ := List.mem_map.1 mem
  exact dialect.caseLine_ne_defaultLine entry.1 same

end Reading

end Dialect

namespace WebClient

def dialect : Dialect where
  indent := indent
  quoting := Text.doubleQuotes
  variant? _ := fun
    | [.line line] => between? "return value as " ";" line
    | _ => none
  reported? := fun
    | [.line line] => do
      let text ← between? "throw DecodeError.unrecognizedVariant(" ", String(discriminator));" line
      let (union, rest) ← Text.doubleQuotes.read? text.toList
      if rest = [] then some union else none
    | _ => none
  decoder union property switch :=
    [.block s!"export function decode{union}(value: unknown): {union}"
      [.line ("const discriminator = typeof value === \"object\" && value !== null ? " ++
          ("(value as Record<string, unknown>)[" ++ quoted property ++ "]") ++ " : undefined;"),
        .block "switch (discriminator)" switch]]

theorem writes_arms (union : String) :
    dialect.Writes union
      (fun (value, variant) =>
        [.line s!"case {quoted value}:", .nested [.line s!"return value as {variant};"]])
      [.line "default:",
        .nested
          [.line s!"throw DecodeError.unrecognizedVariant({quoted union}, String(discriminator));"]] where
  arms value variant := by
    refine ⟨[.line s!"return value as {variant};"], ?_, between?_append _ _ _⟩
    simp only [Dialect.caseLine, quoted_eq]
    rfl
  last := by
    refine ⟨_, rfl, ?_⟩
    have argument : between? "throw DecodeError.unrecognizedVariant(" ", String(discriminator));"
        s!"throw DecodeError.unrecognizedVariant({quoted union}, String(discriminator));" =
          some (quoted union) :=
      between?_append _ _ _
    have read := Text.doubleQuotes.read?_literal union []
    rw [List.append_nil, ← quoted_eq] at read
    simp only [dialect, argument, Option.bind_eq_bind, Option.bind_some, read, if_pos]

theorem decoder_printed (config : Config) (api : Api) {model : Model} {discriminator : Discriminator}
    (shape : model.shape = .union discriminator) :
    ∃ arm otherwise, dialect.Writes model.name arm otherwise ∧
      Code.Printed indent (dialect.decoder model.name discriminator.property
        (discriminator.mapping.flatMap arm ++ otherwise)) (modelUnit config.web api model).code := by
  have declared : Declaration.decoder (decoder model discriminator) ∈ modelDeclarations api model := by
    simp [modelDeclarations, shape, unionDeclarations]
  refine ⟨_, _, writes_arms model.name, ?_⟩
  have inDeclaration : Code.Within _ (Declaration.decoder (decoder model discriminator)).code :=
    Code.Within.whole.behind _
  exact (inDeclaration.trans (.of_mem_spaced (List.mem_map_of_mem declared))).rendered

end WebClient

namespace MobileClient

def dialect : Dialect where
  indent := indent
  quoting := Text.singleQuotes
  variant? union := fun
    | [.line line] => between? ("return " ++ union) ".fromJson(json);" line
    | _ => none
  reported? := fun
    | [.line line] =>
      between? "throw DecodeError.unrecognizedVariant(model: '" "', value: '$discriminator');" line
    | _ => none
  decoder union property switch :=
    [.block (fromJson union ++ ")")
      [.line s!"final discriminator = json[{quoted property}];",
        .block "switch (discriminator)" switch]]

theorem writes_arms (union : String) :
    dialect.Writes union
      (fun (value, variant) =>
        [.line s!"case {quoted value}:",
          .nested [.line s!"return {union}{variant}.fromJson(json);"]])
      [.line "default:",
        .nested
          [.line ("throw DecodeError.unrecognizedVariant(" ++
            s!"model: '{union}', value: '$discriminator');")]] where
  arms value variant := by
    have selected : between? ("return " ++ union) ".fromJson(json);"
        s!"return {union}{variant}.fromJson(json);" = some variant :=
      between?_append _ _ _
    refine ⟨[.line s!"return {union}{variant}.fromJson(json);"], ?_, selected⟩
    simp only [Dialect.caseLine, quoted_eq]
    rfl
  last := by
    have line : "throw DecodeError.unrecognizedVariant(" ++
        s!"model: '{union}', value: '$discriminator');" =
          "throw DecodeError.unrecognizedVariant(model: '" ++ union ++
            "', value: '$discriminator');" := by
      refine String.toList_inj.1 ?_
      simp [toString]
    refine ⟨_, rfl, ?_⟩
    rw [line]
    exact between?_append _ _ _

theorem decoder_printed (config : Config) (api : Api) {model : Model} {discriminator : Discriminator}
    (shape : model.shape = .union discriminator) :
    ∃ arm otherwise, dialect.Writes model.name arm otherwise ∧
      Code.Printed indent (dialect.decoder model.name discriminator.property
        (discriminator.mapping.flatMap arm ++ otherwise)) (modelUnit config.mobile api model).code := by
  let declared := unionClass api model discriminator
  have unit : (modelUnit config.mobile api model).code = render [declared.code] := by
    simp only [modelUnit, modelDeclaration, shape]
    rfl
  refine ⟨_, _, writes_arms model.name, ?_⟩
  have inMembers : Code.Within declared.readerCode
      (Code.spaced (declared.factories.map Factory.code ++ [declared.readerCode])) :=
    .of_mem_spaced (by simp)
  have inClass : Code.Within declared.readerCode declared.code :=
    ((inMembers.block _ _).cons _).behind _
  rw [unit]
  exact (inClass.trans (.of_mem_spaced List.mem_cons_self)).rendered

end MobileClient

namespace Server

def dialect : Dialect where
  indent := indent
  quoting := Text.doubleQuotes
  variant? _ := fun
    | [.line assigned, .line returned] => do
      let variant ← between? "return json.Unmarshal(data, u." ")" returned
      if assigned = "u." ++ variant ++ " = &" ++ variant ++ "\x7b\x7d" then some variant else none
    | _ => none
  reported? := fun
    | [.line line] => between? "return newUnrecognizedVariant(\"" "\", head.Discriminator)" line
    | _ => none
  decoder union property switch :=
    method s!"u *{union}" "UnmarshalJSON" [("data", "[]byte")] ["error"]
      ([.block "var head struct" [.line ("Discriminator string `json:" ++ quoted property ++ "`")],
        .block "if err := json.Unmarshal(data, &head); err != nil" [.line "return err"],
        .line "switch head.Discriminator \x7b"] ++ switch ++ [.line "\x7d"])

theorem writes_arms (union : String) :
    dialect.Writes union UnionType.armCode
      [.line "default:",
        .nested [.line s!"return newUnrecognizedVariant(\"{union}\", head.Discriminator)"]] where
  arms value variant := by
    have selected : between? "return json.Unmarshal(data, u." ")"
        s!"return json.Unmarshal(data, u.{variant})" = some variant :=
      between?_append _ _ _
    refine ⟨[.line ("u." ++ variant ++ " = &" ++ variant ++ "\x7b\x7d"),
      .line s!"return json.Unmarshal(data, u.{variant})"], ?_, ?_⟩
    · simp only [Dialect.caseLine, UnionType.armCode, quoted_eq]
      rfl
    · simp only [dialect, selected, Option.bind_eq_bind, Option.bind_some, if_pos]
  last := ⟨_, rfl, between?_append _ _ _⟩

theorem decoder_printed (config : Config) (api : Api) {model : Model} {discriminator : Discriminator}
    (shape : model.shape = .union discriminator) :
    ∃ arm otherwise, dialect.Writes model.name arm otherwise ∧
      Code.Printed indent (dialect.decoder model.name discriminator.property
        (discriminator.mapping.flatMap arm ++ otherwise)) (modelUnit config.server api model).code := by
  let declared := unionType model discriminator
  have mem : Declaration.union declared ∈ modelDeclarations api model := by
    simp [modelDeclarations, shape, declared]
  have reader : dialect.decoder model.name discriminator.property (discriminator.mapping.flatMap
      UnionType.armCode ++ [.line "default:", .nested
        [.line s!"return newUnrecognizedVariant(\"{model.name}\", head.Discriminator)"]]) =
      method s!"u *{model.name}" "UnmarshalJSON" [("data", "[]byte")] ["error"]
        declared.unmarshalBody := by
    simp only [dialect, UnionType.unmarshalBody, List.append_assoc]
    rfl
  have last : method s!"u *{model.name}" "UnmarshalJSON" [("data", "[]byte")] ["error"]
      declared.unmarshalBody ∈ declared.code :=
    List.mem_cons_of_mem _ (List.mem_cons_of_mem _ List.mem_cons_self)
  refine ⟨_, _, writes_arms model.name, ?_⟩
  rw [reader]
  exact (Code.Within.of_mem_spaced (List.mem_flatMap.2 ⟨_, mem, last⟩)).rendered

end Server

namespace Target

def dialect : Target → Dialect
  | mobileClient => MobileClient.dialect
  | server => Server.dialect
  | webClient => WebClient.dialect

theorem decoder_printed (target : Target) (config : Config) (api : Api) {model : Model}
    {discriminator : Discriminator} (shape : model.shape = .union discriminator) :
    ∃ arm otherwise, target.dialect.Writes model.name arm otherwise ∧
      Code.Printed target.dialect.indent (target.dialect.decoder model.name discriminator.property
        (discriminator.mapping.flatMap arm ++ otherwise)) (target.modelUnit config api model).code := by
  cases target with
  | mobileClient => exact MobileClient.decoder_printed config api shape
  | server => exact Server.decoder_printed config api shape
  | webClient => exact WebClient.decoder_printed config api shape

end Target

/-- Mappings are tables: they have one variant for each value. -/
def Api.MappingsDistinct (api : Api) : Prop :=
  ∀ model ∈ api.models, ∀ discriminator ∈ model.discriminator?,
    (discriminator.mapping.map (·.1)).Nodup

instance (api : Api) : Decidable api.MappingsDistinct :=
  inferInstanceAs (Decidable (∀ model ∈ api.models, ∀ discriminator ∈ model.discriminator?,
    (discriminator.mapping.map (·.1)).Nodup))

/-- The unit of a union and its file have a decoder with the switch. Its arms are the mapping of the
discriminator, no two lines in it are the same, and for other values it reports the union. -/
structure DecodedBy (target : Target) (code : GeneratedCode) (union : Model)
    (discriminator : Discriminator) (unit : CodeUnit) (switch : List Code) : Prop where
  printed : Code.Printed target.dialect.indent
    (target.dialect.decoder union.name discriminator.property switch) unit.code
  file : ∃ file ∈ code.artifacts, file.path = unit.path ∧ Code.Printed target.dialect.indent
    (target.dialect.decoder union.name discriminator.property switch) file.contents
  arms : target.dialect.readSwitch? union.name switch = some ⟨discriminator.mapping, union.name⟩
  labels : (Dialect.labels switch).Nodup

section Unions

variable {config : Config} {source : Source} {id : Nat} {union : Model} {discriminator : Discriminator}

theorem decodedBy_of_generated {target : Target} {code : GeneratedCode}
    (generated : Generated target config source code) (distinct : source.api.MappingsDistinct)
    (unit : (id, union) ∈ source.api.unitModels)
    (isUnion : union.discriminator? = some discriminator) :
    ∃ unit switch, (id, unit) ∈ code.models ∧ DecodedBy target code union discriminator unit switch := by
  have shape := Api.discriminator?_eq_some.1 isUnion
  have known := List.mem_of_getElem? (Api.mem_unitModels.1 unit).1
  have emitted := generated.mem_models.2 ⟨union, unit, rfl⟩
  obtain ⟨arm, otherwise, writes, printed⟩ := target.decoder_printed config source.api shape
  obtain ⟨file, mem, path, head, contents⟩ := generated.modelFile_mem emitted
  refine ⟨_, discriminator.mapping.flatMap arm ++ otherwise, emitted, printed, ?_,
    writes.readSwitch? _, writes.labels_nodup (distinct union known discriminator isUnion)⟩
  exact ⟨file, mem, path, contents ▸ printed.behind head⟩

/-- All targets decode a union alike, if one of them has a unit for it. -/
theorem unionsAlike_of_supported (config : Config)
    (supported : ∀ model ∈ source.api.models, unsupported? model = none)
    (distinct : source.api.MappingsDistinct) :
    ∃ codes : Target → GeneratedCode, (∀ target, generate target config source = .ok (codes target)) ∧
      ∀ id union discriminator, source.api.models[id]? = some union →
        union.discriminator? = some discriminator →
          (∃ target unit, (id, unit) ∈ (codes target).models) →
            ∀ target, ∃ unit switch, (id, unit) ∈ (codes target).models ∧
              DecodedBy target (codes target) union discriminator unit switch := by
  choose codes runs using fun target => generate_of_supported target config supported
  refine ⟨codes, runs, fun id union discriminator at_ isUnion emitted target => ?_⟩
  obtain ⟨other, unit, mem⟩ := emitted
  obtain ⟨found, unit, -⟩ := (generated_of_generate (runs other)).mem_models.1 mem
  have same : some found = some union := (Api.mem_unitModels.1 unit).1.symm.trans at_
  rw [Option.some.inj same] at unit
  exact decodedBy_of_generated (generated_of_generate (runs target)) distinct unit isUnion

end Unions

/-- Values with quotes, a backslash, a dollar sign and without any character, two of them for cats. -/
def petValues : List (String × String) :=
  [("c\"a't", "#/components/schemas/Cat"), ("$\\dog", "#/components/schemas/Dog"),
    ("", "#/components/schemas/Cat")]

theorem petShop_unionsAlike :
    ∃ source, ∃ codes : Target → GeneratedCode, Source.of (petShop petValues) = .ok source ∧
      (∀ model ∈ source.api.models, unsupported? model = none) ∧ source.api.MappingsDistinct ∧
        (∀ target, generate target {} source = .ok (codes target)) ∧
          ∃ id union discriminator, source.api.models[id]? = some union ∧
            union.discriminator? = some discriminator ∧
              discriminator.mapping = [("c\"a't", "Cat"), ("$\\dog", "Dog"), ("", "Cat")] ∧
                (∃ target unit, (id, unit) ∈ (codes target).models) ∧
                  ∀ target, ∃ unit switch, (id, unit) ∈ (codes target).models ∧
                    DecodedBy target (codes target) union discriminator unit switch := by
  have seen : (Source.of (petShop petValues)).toOption.map (fun source : Source =>
      (fullySupported source.api,
        decide (source.api.MappingsDistinct ∧ 0 ∈ source.api.unitModels.map (·.1)),
        ((source.api.models[0]?).bind Model.discriminator?).map (·.mapping))) =
      some (true, true, some [("c\"a't", "Cat"), ("$\\dog", "Dog"), ("", "Cat")]) := by
    rfl
  obtain ⟨source, lowered, seen⟩ := Lowering.exists_of_toOption_map seen
  simp only [Prod.mk.injEq] at seen
  obtain ⟨supported, checked, mapped⟩ := seen
  have supported := fullySupported_iff.1 supported
  obtain ⟨distinct, first⟩ := of_decide_eq_true checked
  obtain ⟨discriminator, found, mapping⟩ := Option.map_eq_some_iff.1 mapped
  obtain ⟨union, at_, isUnion⟩ := Option.bind_eq_some_iff.1 found
  obtain ⟨codes, runs, alike⟩ := unionsAlike_of_supported {} supported distinct
  have emitted : ∃ target unit, (0, unit) ∈ (codes target).models := by
    obtain ⟨⟨id, model⟩, unit, rfl⟩ := List.mem_map.1 first
    exact ⟨.server, _, (generated_of_generate (runs .server)).mem_models.2 ⟨model, unit, rfl⟩⟩
  exact ⟨source, codes, lowered, supported, distinct, runs, 0, union, discriminator, at_, isUnion,
    mapping, emitted, alike 0 union discriminator at_ isUnion emitted⟩

end OpenApiCodegen
