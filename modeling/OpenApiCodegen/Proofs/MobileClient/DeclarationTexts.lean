import OpenApiCodegen.MobileClient.Shared
import OpenApiCodegen.Proofs.Output.TextLines
import OpenApiCodegen.Proofs.Text.Literals

namespace OpenApiCodegen.MobileClient

inductive DartType.Spelled : DartType → String → Prop
  | named (name : String) : Spelled (.plain name []) name
  | applied (name : String) {arguments : List DartType} {texts : List String} : arguments ≠ [] →
      List.Forall₂ Spelled arguments texts →
        Spelled (.plain name arguments) (name ++ "<" ++ String.intercalate ", " texts ++ ">")
  | nullable {type : DartType} {s : String} : Spelled type s → Spelled (.nullable type) (s ++ "?")

mutual

theorem spelled_code : ∀ type : DartType, type.Spelled type.code
  | .plain name [] => .named name
  | .plain name (first :: rest) => .applied name (by simp) (spelled_codes (first :: rest))
  | .nullable type => .nullable (spelled_code type)

theorem spelled_codes : ∀ types : List DartType, List.Forall₂ DartType.Spelled types (DartType.codes types)
  | [] => .nil
  | type :: rest => .cons (spelled_code type) (spelled_codes rest)

end

def Annotation.text (mark : Annotation) : String :=
  "@" ++ mark.name ++ match mark.arguments with
    | some arguments => "(" ++ arguments ++ ")"
    | none => ""

theorem Annotation.code_eq (mark : Annotation) : mark.code = mark.text := by
  unfold Annotation.code Annotation.text
  cases mark.arguments with
  | none => exact (String.append_empty).symm
  | some arguments => simp only [String.append_assoc]

inductive Parameter.Spelled : Parameter → String → Prop
  | intro {parameter : Parameter} {type : String} : parameter.type.Spelled type →
      Spelled parameter (String.join (parameter.annotations.map fun mark => mark.text ++ " ") ++
        (if parameter.required then "required " else "") ++ type ++ " " ++ parameter.name)

theorem intercalate_spaces (words : List String) (type name : String) :
    String.intercalate " " (words ++ [type, name]) =
      String.join (words.map (· ++ " ")) ++ type ++ " " ++ name := by
  induction words with
  | nil => simp
  | cons first rest ih =>
    rw [List.cons_append, String.intercalate_cons_of_ne_nil (by simp), ih, List.map_cons, String.join_cons]
    simp only [String.append_assoc]

theorem spelled_parameter (parameter : Parameter) : parameter.Spelled parameter.code := by
  have written : parameter.code = String.join (parameter.annotations.map fun mark => mark.text ++ " ") ++
      (if parameter.required then "required " else "") ++ parameter.type.code ++ " " ++ parameter.name := by
    have required : String.join ((if parameter.required then ["required"] else []).map (· ++ " ")) =
        if parameter.required then "required " else "" := by
      split <;> simp
    rw [Parameter.code, intercalate_spaces, List.map_append, String.join_append, required, List.map_map]
    simp only [Function.comp_def, Annotation.code_eq]
  rw [written]
  exact .intro (spelled_code parameter.type)

/-- Parameters are named, each of them on a line of its own. -/
inductive Factory.Spelled : Factory → List String → Prop
  | bare {factory : Factory} : factory.parameters = [] →
      Spelled factory ["const factory " ++ factory.name ++ "() = " ++ factory.implementation ++ ";"]
  | named {factory : Factory} {texts : List String} : factory.parameters ≠ [] →
      List.Forall₂ Parameter.Spelled factory.parameters texts →
        Spelled factory (["const factory " ++ factory.name ++ "(\x7b"] ++
          texts.map (fun text => "  " ++ (text ++ ",")) ++ ["\x7d) = " ++ factory.implementation ++ ";"])

theorem exists_factory (factory : Factory) :
    ∃ lines, factory.Spelled lines ∧ Code.Spells indent factory.code lines := by
  unfold Factory.code
  dsimp only
  split
  · rename_i empty
    refine ⟨_, .bare (List.isEmpty_iff.1 empty), ?_⟩
    have written : "const factory " ++ factory.name ++ "() = " ++ factory.implementation ++ ";" =
        "const factory " ++ factory.name ++ "(" ++ (") = " ++ factory.implementation ++ ";") :=
      String.toList_inj.1 (by simp)
    rw [written]
    exact Code.spells_line indent _
  · rename_i some
    have texts : List.Forall₂ Parameter.Spelled factory.parameters (factory.parameters.map Parameter.code) :=
      forall₂_mapped spelled_parameter
    refine ⟨_, .named (by simpa using some) texts, ?_⟩
    have head : "const factory " ++ factory.name ++ "(\x7b" = "const factory " ++ factory.name ++ "(" ++ "\x7b" :=
      String.toList_inj.1 (by simp)
    have close : "\x7d) = " ++ factory.implementation ++ ";" =
        "\x7d" ++ (") = " ++ factory.implementation ++ ";") := String.toList_inj.1 (by simp)
    have body := (Code.spells_map indent (fun parameter : Parameter => parameter.code ++ ",") factory.parameters).nested
    rw [List.map_map] at body
    rw [head, close, List.map_map]
    exact (Code.spells_line indent _).cons (body.append (Code.spells_line indent _))

/-- Lines of a comment, or the mark of what is deprecated. -/
def IsHead (lines : List String) : Prop :=
  ∀ line ∈ lines, (∃ rest, line = "///" ++ rest) ∨ line = "@deprecated"

theorem exists_head (doc : Option String) (deprecated : Bool) :
    ∃ lines, IsHead lines ∧ Code.Spells indent (headCode doc deprecated) lines := by
  let comment (s : String) : String := if s.isEmpty then "///" else "///" ++ " " ++ s
  have commented := Code.spells_map indent comment (Code.commentLines doc)
  have marked : Code.Spells indent (if deprecated then [.line "@deprecated"] else [])
      (if deprecated then ["@deprecated"] else []) := by
    cases deprecated
    · exact Code.spells_nil
    · exact Code.spells_line indent _
  refine ⟨_, fun line mem => ?_, commented.append marked⟩
  rcases List.mem_append.1 mem with mem | mem
  · obtain ⟨s, -, rfl⟩ := List.mem_map.1 mem
    left
    by_cases empty : s.isEmpty
    · exact ⟨"", if_pos empty⟩
    · exact ⟨" " ++ s, (if_neg empty).trans (String.append_assoc)⟩
  · cases deprecated
    · cases mem
    · exact .inr (List.mem_singleton.1 mem)

/-- A declaration with a mark, whose members have a blank line between them. -/
def bodyText (head : List String) (mark heading : String) (members : List (List String)) : String :=
  linesText (head ++ [mark, heading ++ " \x7b"]) ++
    String.intercalate "\n" (members.map fun lines => linesText (lines.map ("  " ++ ·))) ++ "\x7d\n"

theorem text_body {headLines : List String} {members : List (List Code)} {lines : List (List String)}
    {head : List Code} (mark heading : String) (comment : Code.Spells indent head headLines)
    (each : List.Forall₂ (Code.Spells indent) members lines) :
    Code.textOfAll indent 0 (head ++ [.line mark, .block heading (Code.spaced members)]) =
      bodyText headLines mark heading lines := by
  have flush : ∀ {code lines}, Code.Spells indent code lines → Code.textOfAll indent 0 code = linesText lines := by
    intro code lines spells
    simpa [Code.indentation] using spells 0
  have deep : Code.indentation indent 1 = "  " := by simp [Code.indentation, indent]
  have inner := Code.textOfAll_spaced each 1
  rw [deep] at inner
  have close : "" ++ "\x7d" ++ "" ++ "\n" = "\x7d\n" := by rfl
  have left : Code.indentation indent 0 = "" := rfl
  rw [bodyText, Code.textOfAll_append, flush comment, linesText_append, Code.textOfAll, Code.text,
    Code.textOfAll_singleton, Code.text, inner, left, ← close]
  simp [linesText, String.append_assoc]

/-- The value of an enumeration member. -/
inductive SpelledValue : Api.Literal → String → Prop
  | text {s quoted : String} : Text.singleQuotes.Quotes s quoted → SpelledValue (.text s) quoted
  | flag (b : Bool) : SpelledValue (.flag b) (if b then "true" else "false")
  | whole (n : Int) : SpelledValue (.whole n) (toString n)
  | real (x : Binary64) : SpelledValue (.real x) x.plainText

theorem spelledValue_literalCode : ∀ literal : Api.Literal, SpelledValue literal (literalCode literal)
  | .text s => .text (quotes_quoted s)
  | .flag b => .flag b
  | .whole n => .whole n
  | .real x => .real x

/-- Members end in commas, the last one in a semicolon. -/
inductive SpelledMembers : List (String × Api.Literal) → List String → Prop
  | nil : SpelledMembers [] []
  | last {name value : String} {literal : Api.Literal} : SpelledValue literal value →
      SpelledMembers [(name, literal)] ["@JsonValue(" ++ value ++ ")", name ++ ";"]
  | more {name value : String} {literal : Api.Literal} {rest : List (String × Api.Literal)}
      {lines : List String} : SpelledValue literal value → rest ≠ [] → SpelledMembers rest lines →
        SpelledMembers ((name, literal) :: rest) (("@JsonValue(" ++ value ++ ")") :: (name ++ ",") :: lines)

theorem exists_members (members : List (String × Api.Literal)) :
    ∃ lines, SpelledMembers members lines ∧ Code.Spells indent (memberLines members) lines := by
  induction members with
  | nil => exact ⟨[], .nil, Code.spells_nil⟩
  | cons member rest ih =>
    obtain ⟨name, literal⟩ := member
    obtain ⟨lines, spelled, spells⟩ := ih
    have value := spelledValue_literalCode literal
    cases rest with
    | nil => exact ⟨_, .last value, (Code.spells_line indent _).cons (Code.spells_line indent _)⟩
    | cons second rest =>
      exact ⟨_, .more value (by simp) spelled,
        (Code.spells_line indent _).cons ((Code.spells_line indent _).cons spells)⟩

inductive Field.Spelled : Field → List String → Prop
  | intro {field : Field} {type : String} : field.type.Spelled type →
      Spelled field (field.annotations.map Annotation.text ++ ["final " ++ type ++ " " ++ field.name ++ ";"])

theorem exists_field (field : Field) :
    ∃ lines, field.Spelled lines ∧ Code.Spells indent field.code lines := by
  have marks := Code.spells_map indent Annotation.code field.annotations
  have same : field.annotations.map Annotation.code = field.annotations.map Annotation.text :=
    List.map_congr_left fun mark _ => mark.code_eq
  rw [same] at marks
  exact ⟨_, .intro (spelled_code field.type), marks.append (Code.spells_line indent _)⟩

/-- A value of the discriminator, and the variant of the union that is decoded at it. -/
inductive SpelledArm (union : String) : String × String → List String → Prop
  | intro {value variant literal : String} : Text.singleQuotes.Quotes value literal →
      SpelledArm union (value, variant)
        ["case " ++ literal ++ ":", "  " ++ ("return " ++ union ++ variant ++ ".fromJson(json);")]

/-- What decodes a union. -/
inductive SpelledReader (declared : UnionClass) : List String → Prop
  | intro {field : String} {arms : List (List String)} : Text.singleQuotes.Quotes declared.discriminator field →
      List.Forall₂ (SpelledArm declared.name) declared.arms arms →
        SpelledReader declared (("factory " ++ declared.name ++ ".fromJson(Map<String, dynamic> json) \x7b") ::
          (["final discriminator = json[" ++ field ++ "];", "switch (discriminator) \x7b"] ++
            (arms.flatten ++ ["default:", "  " ++ ("throw DecodeError.unrecognizedVariant(model: '" ++ declared.name ++
              "', value: '$discriminator');")]).map ("  " ++ ·) ++ ["\x7d"]).map ("  " ++ ·) ++ ["\x7d"])

theorem exists_arm (union : String) (arm : String × String) :
    ∃ lines, SpelledArm union arm lines ∧ Code.Spells indent
      [.line s!"case {quoted arm.1}:", .nested [.line s!"return {union}{arm.2}.fromJson(json);"]] lines :=
  ⟨_, .intro (quotes_quoted arm.1), (Code.spells_line indent _).cons (Code.spells_line indent _).nested⟩

theorem exists_reader (declared : UnionClass) :
    ∃ lines, SpelledReader declared lines ∧ Code.Spells indent declared.readerCode lines := by
  choose lines spelled spells using exists_arm declared.name
  have arms : List.Forall₂ (SpelledArm declared.name) declared.arms (declared.arms.map lines) :=
    forall₂_mapped spelled
  refine ⟨_, .intro (quotes_quoted declared.discriminator) arms, ?_⟩
  rw [← List.flatMap_def]
  have body := Code.Spells.flatMap fun arm (_ : arm ∈ declared.arms) => spells arm
  have fault := (Code.spells_line indent ("throw DecodeError.unrecognizedVariant(" ++
    ("model: '" ++ declared.name ++ "', value: '$discriminator');"))).nested
  have switch := (body.append ((Code.spells_line indent "default:").cons fault)).block
    "switch (discriminator)" ""
  have field := Code.spells_line indent s!"final discriminator = json[{quoted declared.discriminator}];"
  have heading : "factory " ++ declared.name ++ ".fromJson(Map<String, dynamic> json) \x7b" =
      fromJson declared.name ++ ")" ++ " \x7b" := String.toList_inj.1 (by simp [fromJson])
  have thrown : "throw DecodeError.unrecognizedVariant(model: '" ++ declared.name ++
      "', value: '$discriminator');" = "throw DecodeError.unrecognizedVariant(" ++
        ("model: '" ++ declared.name ++ "', value: '$discriminator');") := String.toList_inj.1 (by simp)
  rw [heading, thrown]
  exact (field.cons switch).block (fromJson declared.name ++ ")") ""

def EnvelopeClass.readerLines (declared : EnvelopeClass) : List String :=
  ["factory " ++ declared.name ++ ".fromJson(Map<String, dynamic> json, " ++ String.intercalate ", "
      (declared.parameters.map fun p => p ++ " Function(Object? json) fromJson" ++ p) ++ ") =>",
    "    _$" ++ declared.name ++ "FromJson(json, " ++
      String.intercalate ", " (declared.parameters.map fun p => "fromJson" ++ p) ++ ");"]

def EnvelopeClass.writerLines (declared : EnvelopeClass) : List String :=
  ["Map<String, dynamic> toJson(" ++ String.intercalate ", "
    (declared.parameters.map fun p => "Object? Function(" ++ p ++ " value) toJson" ++ p) ++ ") => _$" ++
      declared.name ++ "ToJson(this, " ++
        String.intercalate ", " (declared.parameters.map fun p => "toJson" ++ p) ++ ");"]

theorem spells_envelopeReader (declared : EnvelopeClass) :
    Code.Spells indent declared.readerCode declared.readerLines := by
  let functions := String.intercalate ", "
    (declared.parameters.map fun p => p ++ " Function(Object? json) fromJson" ++ p)
  let arguments := String.intercalate ", " (declared.parameters.map fun p => "fromJson" ++ p)
  have first := Code.spells_line indent (fromJson declared.name ++ ", " ++ functions ++ ") =>")
  have second := (Code.spells_line indent ("_$" ++ declared.name ++ "FromJson(json, " ++ arguments ++ ");")).nested.nested
  have opened : "factory " ++ declared.name ++ ".fromJson(Map<String, dynamic> json, " ++ functions ++ ") =>" =
      fromJson declared.name ++ ", " ++ functions ++ ") =>" := String.toList_inj.1 (by simp [fromJson])
  have deeper : "    _$" ++ declared.name ++ "FromJson(json, " ++ arguments ++ ");" =
      indent ++ (indent ++ ("_$" ++ declared.name ++ "FromJson(json, " ++ arguments ++ ");")) :=
    String.toList_inj.1 (by simp [indent])
  rw [EnvelopeClass.readerLines, opened, deeper]
  exact first.append second

theorem spells_envelopeWriter (declared : EnvelopeClass) :
    Code.Spells indent declared.writerCode declared.writerLines := by
  have code : declared.writerCode = [.line (("Map<String, dynamic> toJson(" ++ commaSeparated
      (declared.parameters.map fun p => "Object? Function(" ++ p ++ " value) toJson" ++ p) ++ ") => ") ++
        ("_$" ++ declared.name ++ "ToJson(this, " ++
          commaSeparated (declared.parameters.map fun p => "toJson" ++ p) ++ ");"))] := rfl
  have between : ") => _$" = ") => " ++ "_$" := rfl
  rw [code, EnvelopeClass.writerLines, between]
  simp only [commaSeparated, String.append_assoc]
  exact Code.spells_line indent _

/-- How Dart writes a declaration. -/
inductive Declaration.Spelled : Declaration → String → Prop
  | record {declared : RecordClass} {head factory : List String} : IsHead head →
      Factory.Spelled ⟨declared.name, declared.parameters, "_" ++ declared.name⟩ factory →
        Spelled (.record declared) (bodyText head "@freezed" ("class " ++ (declared.name ++ " with _$" ++ declared.name))
          (factory :: if declared.readsJson then [["factory " ++ declared.name ++
            ".fromJson(Map<String, dynamic> json) => _$" ++ declared.name ++ "FromJson(json);"]] else []))
  | union {declared : UnionClass} {head reader : List String} {factories : List (List String)} : IsHead head →
      List.Forall₂ Factory.Spelled declared.factories factories → SpelledReader declared reader →
        Spelled (.union declared) (bodyText head "@Freezed(fromJson: true)"
          ("class " ++ (declared.name ++ " with _$" ++ declared.name)) (factories ++ [reader]))
  | enumeration {declared : Enumeration} {head members : List String} {type : String} : IsHead head →
      SpelledMembers declared.members members → declared.encoded.Spelled type →
        Spelled (.enumeration declared) (bodyText head "@JsonEnum(alwaysCreate: true)" ("enum " ++ declared.name)
          [members, [type ++ " toJson() => _$" ++ declared.name ++ "EnumMap[this]!;"]])
  | envelope {declared : EnvelopeClass} {head : List String} {fields : List (List String)} :
      IsHead head → List.Forall₂ Field.Spelled declared.fields fields →
        Spelled (.envelope declared) (bodyText head "@JsonSerializable(genericArgumentFactories: true)"
          ("class " ++ (declared.name ++ "<" ++ String.intercalate ", " declared.parameters ++ ">"))
          ([["const " ++ declared.name ++ "(" ++
              String.intercalate ", " (declared.fields.map fun field => "this." ++ field.name) ++ ");"]] ++
            (if fields = [] then [] else [fields.flatten]) ++ [declared.readerLines, declared.writerLines]))

section Declarations

theorem exists_record (declared : RecordClass) :
    ∃ text, Declaration.Spelled (.record declared) text ∧ Code.textOfAll indent 0 declared.code = text := by
  obtain ⟨head, isHead, comment⟩ := exists_head declared.doc declared.deprecated
  obtain ⟨factory, spelled, spells⟩ := exists_factory ⟨declared.name, declared.parameters, "_" ++ declared.name⟩
  have reader : "factory " ++ declared.name ++ ".fromJson(Map<String, dynamic> json) => _$" ++ declared.name ++
      "FromJson(json);" = fromJson declared.name ++ ") => _$" ++ declared.name ++ "FromJson(json);" :=
    String.toList_inj.1 (by simp [fromJson])
  refine ⟨_, .record isHead spelled, text_body _ _ comment (.cons spells ?_)⟩
  rw [reader]
  cases declared.readsJson with
  | false => exact .nil
  | true => exact .cons (Code.spells_line indent _) .nil

theorem exists_union (declared : UnionClass) :
    ∃ text, Declaration.Spelled (.union declared) text ∧ Code.textOfAll indent 0 declared.code = text := by
  obtain ⟨head, isHead, comment⟩ := exists_head declared.doc declared.deprecated
  obtain ⟨reader, spelledReader, readerSpells⟩ := exists_reader declared
  choose lines spelled spells using exists_factory
  have factories : List.Forall₂ Factory.Spelled declared.factories (declared.factories.map lines) :=
    forall₂_mapped spelled
  have written : List.Forall₂ (Code.Spells indent) (declared.factories.map Factory.code)
      (declared.factories.map lines) := by
    rw [List.forall₂_map_left_iff, List.forall₂_map_right_iff]
    exact List.forall₂_same.2 fun factory _ => spells factory
  exact ⟨_, .union isHead factories spelledReader,
    text_body _ _ comment (List.rel_append written (.cons readerSpells .nil))⟩

theorem exists_enumeration (declared : Enumeration) :
    ∃ text, Declaration.Spelled (.enumeration declared) text ∧ Code.textOfAll indent 0 declared.code = text := by
  obtain ⟨head, isHead, comment⟩ := exists_head declared.doc declared.deprecated
  obtain ⟨members, spelled, spells⟩ := exists_members declared.members
  let line := declared.encoded.code ++ " toJson() => _$" ++ declared.name ++ "EnumMap[this]!;"
  have code : declared.code = headCode declared.doc declared.deprecated ++
      [.line "@JsonEnum(alwaysCreate: true)", .block ("enum " ++ declared.name)
        (Code.spaced [memberLines declared.members, [.line line]])] := rfl
  refine ⟨_, .enumeration isHead spelled (spelled_code declared.encoded), ?_⟩
  rw [code]
  exact text_body _ _ comment (.cons spells (.cons (Code.spells_line indent line) .nil))

theorem exists_envelope (declared : EnvelopeClass) :
    ∃ text, Declaration.Spelled (.envelope declared) text ∧ Code.textOfAll indent 0 declared.code = text := by
  obtain ⟨head, isHead, comment⟩ := exists_head declared.doc declared.deprecated
  choose lines spelled spells using exists_field
  have fields : List.Forall₂ Field.Spelled declared.fields (declared.fields.map lines) :=
    forall₂_mapped spelled
  have listed : List.Forall₂ (Code.Spells indent)
      (if declared.fields.isEmpty then [] else [declared.fields.flatMap Field.code])
      (if declared.fields.map lines = [] then [] else [(declared.fields.map lines).flatten]) := by
    rw [← List.flatMap_def]
    by_cases empty : declared.fields = []
    · rw [empty]
      exact .nil
    · rw [if_neg (by simpa using empty), if_neg (by simpa using empty)]
      exact .cons (Code.Spells.flatMap fun field _ => spells field) .nil
  have maker : Code.Spells indent declared.constructorCode _ := Code.spells_line indent _
  have codecs : List.Forall₂ (Code.Spells indent) [declared.readerCode, declared.writerCode] _ :=
    .cons (spells_envelopeReader declared) (.cons (spells_envelopeWriter declared) .nil)
  exact ⟨_, .envelope isHead fields,
    text_body _ _ comment (List.rel_append (List.rel_append (.cons maker .nil) listed) codecs)⟩

theorem exists_text (declaration : Declaration) :
    ∃ text, declaration.Spelled text ∧ render [declaration.code] = text := by
  cases declaration with
  | record declared => exact exists_record declared
  | envelope declared => exact exists_envelope declared
  | enumeration declared => exact exists_enumeration declared
  | union declared => exact exists_union declared

end Declarations

end OpenApiCodegen.MobileClient
