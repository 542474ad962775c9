import OpenApiCodegen.Proofs.Generation.Units
import OpenApiCodegen.Proofs.Output.CodeText
import OpenApiCodegen.Proofs.Text.NumberedNames

namespace OpenApiCodegen.Output

open Api (Literal Model Enumeration)

def memberSpelling : Target → String → String
  | .mobileClient => MobileClient.memberName
  | .server => id
  | .webClient => id

/-- The names that the members of an enumeration have in the code for a target. -/
def spelledNames (target : Target) (literals : List Literal) : List String :=
  (memberNames literals).map (memberSpelling target)

/-- The text is that of one enumeration with these members. -/
inductive Enumerates (type : String) (members : List (String × Literal)) : Target → String → Prop
  | mobileClient (declared : MobileClient.Enumeration) : declared.name = type →
      declared.members = members → Enumerates type members .mobileClient (MobileClient.render [declared.code])
  | server (declared : Server.EnumType) : declared.name = type → declared.members = members →
      Enumerates type members .server (Server.render declared.code)
  | webClient (declared : WebClient.Enumeration) : declared.name = type → declared.members = members →
      Enumerates type members .webClient (WebClient.render [.enumeration declared])

def valueCode (type : String) (literal : Literal) : String :=
  type ++ "\x7bvalue: " ++ Server.literalCode literal ++ "\x7d"

/-- The text has the lines that give a member its literal. -/
inductive Assigns (type : String) (member : String × Literal) (text : String) : Target → Prop
  | mobileClient (ending : String) : Code.Printed MobileClient.indent
        [.line s!"@JsonValue({MobileClient.literalCode member.2})", .line (member.1 ++ ending)] text →
      Assigns type member text .mobileClient
  | server : Code.Printed Server.indent
        [.line s!"{member.1}: {valueCode type member.2},"] text →
      Assigns type member text .server
  | webClient : Code.Printed WebClient.indent
        [.line s!"{member.1} = {WebClient.literalCode member.2},"] text →
      Assigns type member text .webClient

variable {type text : String} {members : List (String × Literal)} {member : String × Literal}
  {target : Target} {literals : List Literal}

theorem length_spelledNames (target : Target) (literals : List Literal) :
    (spelledNames target literals).length = literals.length := by
  simp [spelledNames, memberNames, Text.length_numberRepeats]

theorem spelledNames_nodup_iff : (spelledNames target literals).Nodup ↔
    Text.ToldApart (memberSpelling target) (literals.map literalName) :=
  Text.nodup_numberRepeats_iff _ _

theorem within_of_mem {code : Code} {lines : List Code} (mem : code ∈ lines) : Code.Within [code] lines := by
  have found := Code.Within.of_mem_flatMap mem fun code => [code]
  simpa using found

theorem within_memberLines (mem : member ∈ members) : ∃ ending,
    Code.Within [.line s!"@JsonValue({MobileClient.literalCode member.2})", .line (member.1 ++ ending)]
      (MobileClient.memberLines members) := by
  -- which ending a member has depends on the members behind it
  induction members with
  | nil => cases mem
  | cons first rest ih =>
    obtain ⟨name, literal⟩ := first
    rw [MobileClient.memberLines]
    rcases List.mem_cons.1 mem with rfl | later
    · exact ⟨_, Code.Within.whole.before (MobileClient.memberLines rest)⟩
    · obtain ⟨ending, within⟩ := ih later
      exact ⟨ending, (within.cons _).cons _⟩

theorem assigns_of_enumerates (declared : Enumerates type members target text) (mem : member ∈ members) :
    Assigns type member text target := by
  cases declared with
  | mobileClient declared named same =>
    subst same
    obtain ⟨ending, within⟩ := within_memberLines mem
    have code : Code.Within [.line s!"@JsonValue({MobileClient.literalCode member.2})",
        .line (member.1 ++ ending)] declared.code := by
      unfold MobileClient.Enumeration.code
      exact (((within.before _).block _ _).cons _).behind _
    exact .mobileClient ending code.rendered
  | server declared named same =>
    subst named same
    have line := within_of_mem (List.mem_map_of_mem mem (f := fun member =>
      Code.line s!"{member.1}: {valueCode declared.name member.2},"))
    have values : Code.Within [.line s!"{member.1}: {valueCode declared.name member.2},"]
        declared.valuesCode := by
      unfold Server.EnumType.valuesCode
      exact ((((line.nested.before [_]).cons _).cons _).cons _).cons _
    have code : declared.valuesCode ∈ declared.code := by simp [Server.EnumType.code]
    exact .server (values.trans (.of_mem_spaced code)).rendered
  | webClient declared named same =>
    subst same
    have line := within_of_mem (List.mem_map_of_mem mem (f := fun member =>
      Code.line s!"{member.1} = {WebClient.literalCode member.2},"))
    have code : Code.Within [.line s!"{member.1} = {WebClient.literalCode member.2},"] declared.code := by
      unfold WebClient.Enumeration.code
      exact (line.block _ _).behind _
    exact .webClient code.rendered

/-- The code for a model that is an enumeration, unless it is one of truth values in the web client. -/
theorem enumerates_modelUnit (target : Target) (config : Config) (api : Api) {model : Model}
    {enumeration : Enumeration} (shape : model.shape = .enumeration enumeration)
    (numbered : target = .webClient → enumeration.base ≠ .boolean) :
    Enumerates model.name ((spelledNames target enumeration.literals).zip enumeration.literals) target
      (target.modelUnit config api model).code := by
  cases target with
  | mobileClient =>
    have declaration : MobileClient.modelDeclaration api model =
        .enumeration (MobileClient.enumerationOf model enumeration) := by
      simp [MobileClient.modelDeclaration, shape]
    have code : (Target.mobileClient.modelUnit config api model).code =
        MobileClient.render [(MobileClient.enumerationOf model enumeration).code] := by
      simp [Target.modelUnit, MobileClient.modelUnit, declaration, MobileClient.Declaration.code]
    rw [code]
    exact .mobileClient (MobileClient.enumerationOf model enumeration) rfl rfl
  | server =>
    have code : (Target.server.modelUnit config api model).code =
        Server.render (Server.enumType api model enumeration).code := by
      simp [Target.modelUnit, Server.modelUnit, Server.modelDeclarations, shape, Server.Declaration.code]
    rw [code]
    apply Enumerates.server (Server.enumType api model enumeration) rfl
    simp [Server.enumType, spelledNames, memberSpelling]
  | webClient =>
    have texts := numbered rfl
    have declaration : WebClient.modelDeclarations api model = [.enumeration {
        name := model.name
        doc := model.description
        deprecated := model.deprecated
        members := (memberNames enumeration.literals).zip enumeration.literals }] := by
      simp [WebClient.modelDeclarations, shape, WebClient.enumDeclaration, texts]
    have code : (Target.webClient.modelUnit config api model).code =
        WebClient.render (WebClient.modelDeclarations api model) := rfl
    rw [code, declaration]
    refine .webClient _ rfl ?_
    simp [spelledNames, memberSpelling]

/-- The members of an enumeration carry its literals in their order. Their names are distinct if and only
if no two of the numbered names are spelled alike: `A2` is the second of two `A`, or a name of its own, and
`trueValue` is for the mobile client what is called `TrueValue`, or the reserved word. -/
theorem enumMembers_of_generate {config : Config} {source : Source} {code : GeneratedCode} {id : Nat}
    {model : Model} {enumeration : Enumeration} (run : generate target config source = .ok code)
    (listed : (id, model) ∈ source.api.unitModels) (shape : model.shape = .enumeration enumeration)
    (numbered : target = .webClient → enumeration.base ≠ .boolean) :
    let names := spelledNames target enumeration.literals
    names.length = enumeration.literals.length ∧
      (∃ unit, (id, unit) ∈ code.models ∧
        Enumerates model.name (names.zip enumeration.literals) target unit.code ∧
        ∀ member ∈ names.zip enumeration.literals, Assigns model.name member unit.code target) ∧
      (names.Nodup ↔ Text.ToldApart (memberSpelling target) (enumeration.literals.map literalName)) := by
  intro names
  have made := ((generated_of_generate run).mem_models).2 ⟨model, listed, rfl⟩
  have declared := enumerates_modelUnit target config source.api shape numbered
  refine ⟨length_spelledNames target _, ⟨_, made, declared, ?_⟩, spelledNames_nodup_iff⟩
  intro member mem
  exact assigns_of_enumerates declared mem

def choosing (texts : List String) : OpenApi.Document where
  openapi := none
  info := none
  paths := []
  schemas := some [("Size", { typeNames := some (.single "string"), enumeration := some (texts.map .text) })]
  tags := []
  source := none

/-- The texts are the literals of an enumeration that every target has code for. -/
def Chooses (doc : OpenApi.Document) (texts : List String) : Prop :=
  ∃ source id model, Source.of doc = .ok source ∧ (id, model) ∈ source.api.unitModels ∧
    model.shape = .enumeration ⟨.text, texts.map .text⟩ ∧
    ∀ target, ∃ code, generate target {} source = .ok code

theorem chooses_of_seen {doc : OpenApi.Document} {texts : List String}
    (seen : (Source.of doc).toOption.map (fun source : Source => (fullySupported source.api,
      (source.api.unitModels[0]?).bind fun unit =>
        match unit.2.shape with
        | .enumeration enumeration => some (enumeration.base, enumeration.literals)
        | _ => none)) = some (true, some (.text, texts.map .text))) :
    Chooses doc texts := by
  obtain ⟨source, lowered, seen, runs⟩ := exists_runs_of_seen seen
  obtain ⟨⟨id, model⟩, first, shaped⟩ := Option.bind_eq_some_iff.1 seen
  have shape : model.shape = .enumeration ⟨.text, texts.map .text⟩ := by
    cases shape : model.shape with
    | enumeration enumeration =>
      obtain ⟨base, literals⟩ := enumeration
      simp only [shape, Option.some.injEq, Prod.mk.injEq] at shaped
      rw [shaped.1, shaped.2]
    | _ => simp [shape] at shaped
  exact ⟨source, id, model, lowered, List.mem_of_getElem? first, shape, fun target => runs target {}⟩

/-- Two members are called `A2` for every target, and two are called `trueValue` for the mobile client. -/
theorem sizes_clash :
    Chooses (choosing ["a", "A", "a2"]) ["a", "A", "a2"] ∧
      (∀ target, ¬(spelledNames target (["a", "A", "a2"].map .text)).Nodup) ∧
      Chooses (choosing ["true", "trueValue"]) ["true", "trueValue"] ∧
      ¬(spelledNames .mobileClient (["true", "trueValue"].map .text)).Nodup := by
  refine ⟨chooses_of_seen (by decide), ?_, chooses_of_seen (by decide), by decide⟩
  intro target
  cases target <;> decide

theorem colors_distinct : ∃ source id model, Source.of (choosing ["red", "Red", "blue"]) = .ok source ∧
    (id, model) ∈ source.api.unitModels ∧ model.shape = .enumeration ⟨.text, ["red", "Red", "blue"].map .text⟩ ∧
    ∀ target, ∃ code, generate target {} source = .ok code ∧
      (spelledNames target (["red", "Red", "blue"].map .text)).Nodup ∧
      ∃ unit, (id, unit) ∈ code.models ∧ Enumerates model.name
        ((spelledNames target (["red", "Red", "blue"].map .text)).zip (["red", "Red", "blue"].map .text))
        target unit.code := by
  have chosen : Chooses (choosing ["red", "Red", "blue"]) ["red", "Red", "blue"] :=
    chooses_of_seen (by rfl)
  obtain ⟨source, id, model, lowered, listed, shape, runs⟩ := chosen
  refine ⟨source, id, model, lowered, listed, shape, ?_⟩
  intro target
  obtain ⟨code, run⟩ := runs target
  obtain ⟨-, ⟨unit, made, declared, -⟩, distinct⟩ :=
    enumMembers_of_generate run listed shape fun _ => by decide
  have apart : Text.ToldApart (memberSpelling target)
      ((["red", "Red", "blue"].map Literal.text).map literalName) := by
    cases target <;> decide
  exact ⟨code, run, distinct.2 apart, unit, made, declared⟩

end OpenApiCodegen.Output
