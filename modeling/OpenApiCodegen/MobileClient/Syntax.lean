import OpenApiCodegen.Api.Model
import OpenApiCodegen.Output.Code
import OpenApiCodegen.Text.Escape

namespace OpenApiCodegen.MobileClient

inductive DartType where
  | plain (name : String) (arguments : List DartType)
  | nullable (type : DartType)

namespace DartType

def named (name : String) : DartType :=
  plain name []

def dynamic : DartType :=
  named "dynamic"

def list (item : DartType) : DartType :=
  plain "List" [item]

def orNull : DartType → DartType
  | plain name arguments =>
    if name = "dynamic" then plain name arguments else nullable (plain name arguments)
  | nullable type => nullable type

def isList : DartType → Bool
  | plain name _ => name == "List"
  | nullable type => type.isList

mutual

def code : DartType → String
  | plain name arguments =>
    if arguments.isEmpty then name else name ++ "<" ++ commaSeparated (codes arguments) ++ ">"
  | nullable type => type.code ++ "?"

def codes : List DartType → List String
  | [] => []
  | type :: rest => type.code :: codes rest

end

end DartType

structure Annotation where
  name : String
  arguments : Option String

structure Parameter where
  annotations : List Annotation
  required : Bool
  type : DartType
  name : String

structure Factory where
  name : String
  parameters : List Parameter
  implementation : String

/-- A class with one factory. `readsJson` says whether there is a function that decodes it. -/
structure RecordClass where
  name : String
  doc : Option String
  deprecated : Bool
  parameters : List Parameter
  readsJson : Bool

structure Field where
  annotations : List Annotation
  type : DartType
  name : String

structure EnvelopeClass where
  name : String
  doc : Option String
  deprecated : Bool
  parameters : List String
  fields : List Field

structure Enumeration where
  name : String
  doc : Option String
  deprecated : Bool
  members : List (String × Api.Literal)
  encoded : DartType

/-- A class with one factory for each variant. Each arm has the value of the discriminator and the
variant for it. -/
structure UnionClass where
  name : String
  doc : Option String
  deprecated : Bool
  discriminator : String
  factories : List Factory
  arms : List (String × String)

inductive Declaration where
  | record (declared : RecordClass)
  | envelope (declared : EnvelopeClass)
  | enumeration (declared : Enumeration)
  | union (declared : UnionClass)

/-- A method that sends a request. Parameters are given by position or by name. -/
structure Method where
  name : String
  doc : Option String
  deprecated : Bool
  annotations : List Annotation
  returned : DartType
  positional : List Parameter
  named : List Parameter

def indent : String := "  "

def quoted (s : String) : String :=
  "'" ++ Text.escapeDart s ++ "'"

def inBraces (text : String) : String :=
  "\x7b" ++ text ++ "\x7d"

def docComment (doc : Option String) : List Code :=
  Code.markedComment "///" doc

def headCode (doc : Option String) (deprecated : Bool) : List Code :=
  docComment doc ++ if deprecated then [.line "@deprecated"] else []

def Annotation.code (mark : Annotation) : String :=
  match mark.arguments with
  | some arguments => "@" ++ mark.name ++ "(" ++ arguments ++ ")"
  | none => "@" ++ mark.name

def Parameter.code (parameter : Parameter) : String :=
  String.intercalate " "
    (parameter.annotations.map Annotation.code ++
      (if parameter.required then ["required"] else []) ++ [parameter.type.code, parameter.name])

def Factory.code (factory : Factory) : List Code :=
  let head := "const factory " ++ factory.name ++ "("
  let close := ") = " ++ factory.implementation ++ ";"
  if factory.parameters.isEmpty then [.line (head ++ close)]
  else
    [.line (head ++ "\x7b"),
      .nested (factory.parameters.map fun parameter => .line (parameter.code ++ ",")),
      .line ("\x7d" ++ close)]

def Field.code (field : Field) : List Code :=
  field.annotations.map (fun mark => .line mark.code) ++
    [.line s!"final {field.type.code} {field.name};"]

def classCode (mark : Annotation) (heading : String) (members : List (List Code)) :
    List Code :=
  [.line mark.code, .block ("class " ++ heading) (Code.spaced members)]

def fromJson (name : String) : String :=
  "factory " ++ name ++ ".fromJson(Map<String, dynamic> json"

def RecordClass.code (declared : RecordClass) : List Code :=
  let name := declared.name
  let factory : Factory := ⟨name, declared.parameters, "_" ++ name⟩
  let reader := Code.line (fromJson name ++ ") => _$" ++ name ++ "FromJson(json);")
  headCode declared.doc declared.deprecated ++
    classCode ⟨"freezed", none⟩ (name ++ " with _$" ++ name)
      (factory.code :: if declared.readsJson then [[reader]] else [])

namespace EnvelopeClass

def constructorCode (declared : EnvelopeClass) : List Code :=
  let parameters := declared.fields.map fun field => "this." ++ field.name
  [.line s!"const {declared.name}({commaSeparated parameters});"]

def readerCode (declared : EnvelopeClass) : List Code :=
  let functions := declared.parameters.map fun p => s!"{p} Function(Object? json) fromJson{p}"
  let arguments := declared.parameters.map fun p => "fromJson" ++ p
  [.line (fromJson declared.name ++ ", " ++ commaSeparated functions ++ ") =>"),
    .nested
      [.nested [.line s!"_${declared.name}FromJson(json, {commaSeparated arguments});"]]]

def writerCode (declared : EnvelopeClass) : List Code :=
  let functions := declared.parameters.map fun p => s!"Object? Function({p} value) toJson{p}"
  let arguments := declared.parameters.map fun p => "toJson" ++ p
  [.line (s!"Map<String, dynamic> toJson({commaSeparated functions}) => " ++
    s!"_${declared.name}ToJson(this, {commaSeparated arguments});")]

def code (declared : EnvelopeClass) : List Code :=
  let fields := if declared.fields.isEmpty then [] else [declared.fields.flatMap Field.code]
  headCode declared.doc declared.deprecated ++
    classCode ⟨"JsonSerializable", some "genericArgumentFactories: true"⟩
      s!"{declared.name}<{commaSeparated declared.parameters}>"
      ([declared.constructorCode] ++ fields ++ [declared.readerCode, declared.writerCode])

end EnvelopeClass

def literalCode : Api.Literal → String
  | .text s => quoted s
  | literal => literal.plainText

def memberLines : List (String × Api.Literal) → List Code
  | [] => []
  | (name, literal) :: rest =>
    .line s!"@JsonValue({literalCode literal})" ::
      .line (name ++ if rest.isEmpty then ";" else ",") :: memberLines rest

def Enumeration.code (declared : Enumeration) : List Code :=
  let writer := s!"{declared.encoded.code} toJson() => _${declared.name}EnumMap[this]!;"
  let body := memberLines declared.members ++ [.blank, .line writer]
  headCode declared.doc declared.deprecated ++
    [.line "@JsonEnum(alwaysCreate: true)", .block ("enum " ++ declared.name) body]

namespace UnionClass

def readerCode (declared : UnionClass) : List Code :=
  let name := declared.name
  let arms := declared.arms.flatMap fun (value, variant) =>
    [Code.line s!"case {quoted value}:",
      .nested [.line s!"return {name}{variant}.fromJson(json);"]]
  let otherwise :=
    [Code.line "default:",
      .nested
        [.line ("throw DecodeError.unrecognizedVariant(" ++
          s!"model: '{name}', value: '$discriminator');")]]
  [.block (fromJson name ++ ")")
    [.line s!"final discriminator = json[{quoted declared.discriminator}];",
      .block "switch (discriminator)" (arms ++ otherwise)]]

def code (declared : UnionClass) : List Code :=
  let name := declared.name
  headCode declared.doc declared.deprecated ++
    classCode ⟨"Freezed", some "fromJson: true"⟩ (name ++ " with _$" ++ name)
      (declared.factories.map Factory.code ++ [declared.readerCode])

end UnionClass

def Declaration.code : Declaration → List Code
  | record declared => declared.code
  | envelope declared => declared.code
  | enumeration declared => declared.code
  | union declared => declared.code

def Method.code (method : Method) : List Code :=
  let positional := method.positional.map Parameter.code
  let named :=
    if method.named.isEmpty then []
    else [inBraces (commaSeparated (method.named.map Parameter.code))]
  headCode method.doc method.deprecated ++
    method.annotations.map (fun mark => .line mark.code) ++
    [.line (s!"{method.returned.code} {method.name}(" ++
      commaSeparated (positional ++ named) ++ ");")]

end OpenApiCodegen.MobileClient
