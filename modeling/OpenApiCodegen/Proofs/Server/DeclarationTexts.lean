import OpenApiCodegen.Proofs.Output.TextLines
import OpenApiCodegen.Proofs.Text.Literals
import OpenApiCodegen.Server.Models

namespace OpenApiCodegen.Server

inductive GoType.Spelled : GoType → String → Prop
  | named (name : String) : Spelled (.named name) name
  | applied (name : String) {arguments : List GoType} {texts : List String} :
      List.Forall₂ Spelled arguments texts →
        Spelled (.applied name arguments) (name ++ "[" ++ String.intercalate ", " texts ++ "]")
  | pointer {target : GoType} {s : String} : Spelled target s → Spelled (.pointer target) ("*" ++ s)
  | slice {item : GoType} {s : String} : Spelled item s → Spelled (.slice item) ("[]" ++ s)
  | table {value : GoType} {s : String} : Spelled value s → Spelled (.table value) ("map[string]" ++ s)

mutual

theorem spelled_code : ∀ type : GoType, type.Spelled type.code
  | .named name => .named name
  | .applied name arguments => .applied name (spelled_codes arguments)
  | .pointer target => .pointer (spelled_code target)
  | .slice item => .slice (spelled_code item)
  | .table value => .table (spelled_code value)

theorem spelled_codes : ∀ types : List GoType, List.Forall₂ GoType.Spelled types (GoType.codes types)
  | [] => .nil
  | type :: rest => .cons (spelled_code type) (spelled_codes rest)

end

def AreNotes (lines : List String) : Prop :=
  ∀ line ∈ lines, ∃ rest, line = "//" ++ rest

theorem AreNotes.append {lines more : List String} (notes : AreNotes lines) (notes' : AreNotes more) :
    AreNotes (lines ++ more) :=
  fun line mem => (List.mem_append.1 mem).elim (notes line) (notes' line)

theorem areNotes_singleton (rest : String) : AreNotes ["//" ++ rest] :=
  fun _ mem => ⟨rest, List.mem_singleton.1 mem⟩

theorem exists_lineComment (doc : Option String) :
    ∃ lines, AreNotes lines ∧ Code.Spells indent (lineComment doc) lines := by
  let note (s : String) : String := if s.isEmpty then "//" else "//" ++ " " ++ s
  refine ⟨(Code.commentLines doc).map note, fun line mem => ?_, Code.spells_map indent note _⟩
  obtain ⟨s, -, rfl⟩ := List.mem_map.1 mem
  by_cases empty : s.isEmpty
  · exact ⟨"", if_pos empty⟩
  · exact ⟨" " ++ s, (if_neg empty).trans String.append_assoc⟩

theorem exists_docComment (doc : Option String) (deprecated : Bool) (name : String) :
    ∃ lines, AreNotes lines ∧ Code.Spells indent (docComment doc deprecated name) lines := by
  obtain ⟨lines, notes, spells⟩ := exists_lineComment doc
  have gap : ∃ gap, AreNotes gap ∧
      Code.Spells indent (if (lineComment doc).isEmpty then [] else [.line "//"]) gap := by
    split
    · exact ⟨[], nofun, Code.spells_nil⟩
    · exact ⟨_, areNotes_singleton "", Code.spells_line indent "//"⟩
  obtain ⟨gap, gapNotes, gapSpells⟩ := gap
  have last : AreNotes ["// Deprecated: " ++ name ++ " is deprecated."] := by
    have opened : "// Deprecated: " = "//" ++ " Deprecated: " := rfl
    rw [opened, String.append_assoc, String.append_assoc]
    exact areNotes_singleton _
  unfold docComment
  dsimp only
  split
  · exact ⟨_, (notes.append gapNotes).append last,
      (spells.append gapSpells).append (Code.spells_line indent _)⟩
  · exact ⟨lines, notes, spells⟩

def tagText : Option String → String
  | some tag => " `json:\"" ++ tag ++ "\" form:\"" ++ tag ++ "\"`"
  | none => ""

theorem tagText_eq (tag : Option String) : (tag.map tagCode).getD "" = tagText tag := by
  cases tag with
  | none => rfl
  | some tag =>
    have opened : " `json:\"" = " `json:" ++ "\"" := rfl
    have between : "\" form:\"" = "\"" ++ (" form:" ++ "\"") := rfl
    have closed : "\"`" = "\"" ++ "`" := rfl
    rw [Option.map_some, Option.getD_some, tagText, tagCode, Text.inDoubleQuotes, opened, between, closed]
    simp only [String.append_assoc]

inductive Field.Spelled : Field → List String → Prop
  | intro {field : Field} {comment : List String} {type : String} : AreNotes comment →
      field.type.Spelled type →
        Spelled field (comment ++ [field.name ++ " " ++ type ++ tagText field.tag])

theorem exists_field (field : Field) :
    ∃ lines, field.Spelled lines ∧ Code.Spells indent field.code lines := by
  obtain ⟨comment, notes, spells⟩ := exists_docComment field.doc field.deprecated field.name
  refine ⟨_, .intro notes (spelled_code field.type), ?_⟩
  rw [← tagText_eq]
  exact spells.append (Code.spells_line indent _)

def parametersOf : List String → String
  | [] => ""
  | parameters => "[" ++ String.intercalate ", " (parameters.map fun name => name ++ " any") ++ "]"

theorem typeParameters_eq (parameters : List String) : typeParameters parameters = parametersOf parameters := by
  cases parameters <;> rfl

inductive Record.Spelled : Record → List String → Prop
  | empty {record : Record} {comment : List String} : record.fields = [] → AreNotes comment →
      Spelled record (comment ++
        ["type " ++ record.name ++ parametersOf record.parameters ++ " struct\x7b\x7d"])
  | fields {record : Record} {comment : List String} {fields : List (List String)} :
      record.fields ≠ [] → AreNotes comment → List.Forall₂ Field.Spelled record.fields fields →
        Spelled record (comment ++
          (["type " ++ record.name ++ parametersOf record.parameters ++ " struct \x7b"] ++
            fields.flatten.map ("\t" ++ ·) ++ ["\x7d"]))

theorem exists_record (record : Record) :
    ∃ lines, record.Spelled lines ∧ Code.Spells indent record.code lines := by
  obtain ⟨comment, notes, spells⟩ := exists_docComment record.doc record.deprecated record.name
  unfold Record.code
  dsimp only
  rw [typeParameters_eq]
  split
  · rename_i empty
    refine ⟨_, .empty (List.isEmpty_iff.1 empty) notes, spells.append ?_⟩
    have ends : " struct\x7b\x7d" = " struct" ++ "\x7b\x7d" := rfl
    rw [ends, ← String.append_assoc]
    exact Code.spells_line indent _
  · rename_i some
    choose lines spelled written using exists_field
    have fields : List.Forall₂ Field.Spelled record.fields (record.fields.map lines) :=
      forall₂_mapped spelled
    refine ⟨_, .fields (by simpa using some) notes fields, spells.append ?_⟩
    have ends : " struct \x7b" = " struct" ++ " \x7b" := rfl
    have body := Code.Spells.flatMap fun field (_ : field ∈ record.fields) => written field
    rw [ends, ← String.append_assoc, ← List.flatMap_def]
    exact body.block _ ""

/-- A literal of an enumeration. -/
inductive LiteralSpelled : Api.Literal → String → Prop
  | text {s quoted : String} : Text.doubleQuotes.Quotes s quoted → LiteralSpelled (.text s) quoted
  | flag (b : Bool) : LiteralSpelled (.flag b) (if b then "true" else "false")
  | whole (n : Int) : LiteralSpelled (.whole n) (toString n)
  | real (x : Binary64) : LiteralSpelled (.real x) x.plainText

theorem literalSpelled_code : ∀ literal : Api.Literal, LiteralSpelled literal (literalCode literal)
  | .text s => .text (quotes_quoted s)
  | .flag b => .flag b
  | .whole n => .whole n
  | .real x => .real x

def blockLines (head : String) (body : List String) : List String :=
  [head ++ " \x7b"] ++ body.map ("\t" ++ ·) ++ ["\x7d"]

theorem spells_block {body : List Code} {lines : List String} (head : String)
    (spells : Code.Spells indent body lines) : Code.Spells indent [.block head body] (blockLines head lines) :=
  spells.block head ""

theorem spells_method {receiver name : String} {parameters : List (String × String)} {results : List String}
    {body : List Code} {lines : List String} {heading : String} (one : ¬1 < parameters.length)
    (same : heading = "func (" ++ receiver ++ ") " ++ name ++ "(" ++
      commaSeparated (parameters.map fun entry => entry.1 ++ " " ++ entry.2) ++ ")" ++ resultsCode results)
    (spells : Code.Spells indent body lines) :
    Code.Spells indent (method receiver name parameters results body) (blockLines heading lines) := by
  have none : lineComment none = [] := rfl
  have code : method receiver name parameters results body = [.block heading body] := by
    have opened : "func (" = "func " ++ "(" := rfl
    unfold method Function.code
    dsimp only
    rw [none, List.length_map, if_neg one, same, opened]
    simp only [List.nil_append, String.append_assoc]
  rw [code]
  exact spells_block heading spells

section Decoders

variable {receiver opening : String} {body : List Code} {lines : List String}

theorem spells_marshaller (opens : opening = "func (" ++ receiver) (spells : Code.Spells indent body lines) :
    Code.Spells indent (method receiver "MarshalJSON" [] ["[]byte", "error"] body)
      (blockLines (opening ++ ") MarshalJSON() ([]byte, error)") lines) := by
  refine spells_method (by simp) ?_ spells
  rw [opens]
  exact String.toList_inj.1 (by simp [commaSeparated, resultsCode])

theorem spells_unmarshaller (opens : opening = "func (" ++ receiver) (spells : Code.Spells indent body lines) :
    Code.Spells indent (method receiver "UnmarshalJSON" [("data", "[]byte")] ["error"] body)
      (blockLines (opening ++ ") UnmarshalJSON(data []byte) error") lines) := by
  refine spells_method (by simp) ?_ spells
  rw [opens]
  exact String.toList_inj.1 (by simp [commaSeparated, resultsCode])

end Decoders

namespace EnumType

inductive ValueSpelled (name : String) : String × Api.Literal → String → Prop
  | intro {member value : String} {literal : Api.Literal} : LiteralSpelled literal value →
      ValueSpelled name (member, literal) (member ++ ": " ++ (name ++ "\x7bvalue: " ++ value ++ "\x7d") ++ ",")

def valuesLines (declared : EnumType) (values : List String) : List String :=
  ("// " ++ declared.name ++ "Values holds every " ++ declared.name ++ ".") ::
    ("var " ++ declared.name ++ "Values = struct \x7b") ::
      ((declared.members.map fun member => member.1 ++ " " ++ declared.name).map ("\t" ++ ·) ++
        "\x7d\x7b" :: (values.map ("\t" ++ ·) ++ ["\x7d"]))

def valueLines (declared : EnumType) (type : String) : List String :=
  blockLines ("func (e " ++ declared.name ++ ") Value() " ++ type) ["return e.value"]

def marshalLines (declared : EnumType) : List String :=
  blockLines ("func (e " ++ declared.name ++ ") MarshalJSON() ([]byte, error)") ["return json.Marshal(e.value)"]

def unmarshalLines (declared : EnumType) (type : String) : List String :=
  blockLines ("func (e *" ++ declared.name ++ ") UnmarshalJSON(data []byte) error")
    (["var value " ++ type] ++
      blockLines "if err := json.Unmarshal(data, &value); err != nil" ["return err"] ++
      blockLines ("for _, candidate := range []" ++ declared.name ++ "\x7b" ++ String.intercalate ", "
          (declared.members.map fun member => declared.name ++ "Values." ++ member.1) ++ "\x7d")
        (blockLines "if candidate.value == value" ["*e = candidate", "return nil"]) ++
      ["return fmt.Errorf(\"" ++ declared.name ++ ": unknown value %v\", value)"])

theorem exists_values (declared : EnumType) :
    ∃ values, List.Forall₂ (ValueSpelled declared.name) declared.members values ∧
      Code.Spells indent declared.valuesCode (declared.valuesLines values) := by
  let value (member : String × Api.Literal) : String :=
    member.1 ++ ": " ++ (declared.name ++ "\x7bvalue: " ++ literalCode member.2 ++ "\x7d") ++ ","
  have spelled : List.Forall₂ (ValueSpelled declared.name) declared.members (declared.members.map value) :=
    forall₂_mapped fun member => .intro (literalSpelled_code member.2)
  have types := (Code.spells_map indent (fun member : String × Api.Literal => member.1 ++ " " ++ declared.name)
    declared.members).nested
  have values := (Code.spells_map indent value declared.members).nested
  have last := values.append (Code.spells_line indent "\x7d")
  have whole := (Code.spells_line indent ("// " ++ declared.name ++ "Values holds every " ++ declared.name ++ ".")).cons
    ((Code.spells_line indent ("var " ++ declared.name ++ "Values = struct \x7b")).cons
      (types.append ((Code.spells_line indent "\x7d\x7b").cons last)))
  exact ⟨_, spelled, whole⟩

theorem spells_value (declared : EnumType) : Code.Spells indent
    (method ("e " ++ declared.name) "Value" [] [declared.base.code] [.line "return e.value"])
      (declared.valueLines declared.base.code) := by
  have heading : "func (e " ++ declared.name ++ ") Value() " ++ declared.base.code = "func (" ++ ("e " ++ declared.name) ++
      ") " ++ "Value" ++ "(" ++ commaSeparated [] ++ ")" ++ resultsCode [declared.base.code] :=
    String.toList_inj.1 (by simp [commaSeparated, resultsCode])
  exact spells_method (by simp) heading (Code.spells_line indent "return e.value")

theorem spells_marshal (declared : EnumType) : Code.Spells indent
    (method ("e " ++ declared.name) "MarshalJSON" [] ["[]byte", "error"] [.line "return json.Marshal(e.value)"])
      declared.marshalLines := by
  have opens : "func (e " ++ declared.name = "func (" ++ ("e " ++ declared.name) := String.toList_inj.1 (by simp)
  exact spells_marshaller opens (Code.spells_line indent "return json.Marshal(e.value)")

theorem spells_unmarshal (declared : EnumType) : Code.Spells indent
    (method ("e *" ++ declared.name) "UnmarshalJSON" [("data", "[]byte")] ["error"] declared.unmarshalBody)
      (declared.unmarshalLines declared.base.code) := by
  have opens : "func (e *" ++ declared.name = "func (" ++ ("e *" ++ declared.name) := String.toList_inj.1 (by simp)
  have given := spells_block "if err := json.Unmarshal(data, &value); err != nil" (Code.spells_line indent "return err")
  have chosen := spells_block "if candidate.value == value"
    ((Code.spells_line indent "*e = candidate").cons (Code.spells_line indent "return nil"))
  have search := spells_block ("for _, candidate := range []" ++ declared.name ++ "\x7b" ++ String.intercalate ", "
    (declared.members.map fun member => declared.name ++ "Values." ++ member.1) ++ "\x7d") chosen
  have value := Code.spells_line indent ("var value " ++ declared.base.code)
  have unknown := Code.spells_line indent ("return fmt.Errorf(\"" ++ declared.name ++ ": unknown value %v\", value)")
  exact spells_unmarshaller opens (((value.append given).append search).append unknown)

end EnumType

namespace UnionType

def marshalLines (declared : UnionType) : List String :=
  blockLines ("func (u " ++ declared.name ++ ") MarshalJSON() ([]byte, error)")
    (["switch \x7b"] ++
      declared.variants.flatMap (fun variant =>
        ["case u." ++ variant ++ " != nil:", "\t" ++ ("return json.Marshal(u." ++ variant ++ ")")]) ++
      ["\x7d", "return []byte(\"null\"), nil"])

/-- A value of the discriminator, and the variant that is read at it. -/
inductive ArmSpelled : String × String → List String → Prop
  | intro {value variant literal : String} : Text.doubleQuotes.Quotes value literal →
      ArmSpelled (value, variant) (["case " ++ literal ++ ":"] ++
        ["u." ++ variant ++ " = &" ++ variant ++ "\x7b\x7d", "return json.Unmarshal(data, u." ++ variant ++ ")"].map
          ("\t" ++ ·))

def unmarshalLines (declared : UnionType) (field : String) (arms : List (List String)) : List String :=
  blockLines ("func (u *" ++ declared.name ++ ") UnmarshalJSON(data []byte) error")
    (blockLines "var head struct" ["Discriminator string `json:" ++ field ++ "`"] ++
      blockLines "if err := json.Unmarshal(data, &head); err != nil" ["return err"] ++
      ["switch head.Discriminator \x7b"] ++ arms.flatten ++
      (["default:"] ++
        ["return newUnrecognizedVariant(\"" ++ declared.name ++ "\", head.Discriminator)"].map ("\t" ++ ·) ++ ["\x7d"]))

theorem spells_marshal (declared : UnionType) : Code.Spells indent
    (method ("u " ++ declared.name) "MarshalJSON" [] ["[]byte", "error"] declared.marshalBody)
      declared.marshalLines := by
  have opens : "func (u " ++ declared.name = "func (" ++ ("u " ++ declared.name) := String.toList_inj.1 (by simp)
  have arm (variant : String) := (Code.spells_line indent ("case u." ++ variant ++ " != nil:")).cons
    (Code.spells_line indent ("return json.Marshal(u." ++ variant ++ ")")).nested
  have arms := Code.Spells.flatMap fun variant (_ : variant ∈ declared.variants) => arm variant
  have ends := (Code.spells_line indent "\x7d").cons (Code.spells_line indent "return []byte(\"null\"), nil")
  exact spells_marshaller opens (((Code.spells_line indent "switch \x7b").append arms).append ends)

theorem exists_arm (arm : String × String) :
    ∃ lines, ArmSpelled arm lines ∧ Code.Spells indent (armCode arm) lines := by
  have set := Code.spells_line indent ("u." ++ arm.2 ++ " = &" ++ arm.2 ++ "\x7b\x7d")
  have read := Code.spells_line indent ("return json.Unmarshal(data, u." ++ arm.2 ++ ")")
  exact ⟨_, .intro (quotes_quoted arm.1),
    (Code.spells_line indent ("case " ++ quoted arm.1 ++ ":")).append (set.cons read).nested⟩

theorem exists_unmarshal (declared : UnionType) :
    ∃ field arms, Text.doubleQuotes.Quotes declared.discriminator field ∧
      List.Forall₂ ArmSpelled declared.arms arms ∧ Code.Spells indent
        (method ("u *" ++ declared.name) "UnmarshalJSON" [("data", "[]byte")] ["error"] declared.unmarshalBody)
          (declared.unmarshalLines field arms) := by
  choose lines spelled spells using exists_arm
  refine ⟨_, declared.arms.map lines, quotes_quoted declared.discriminator,
    forall₂_mapped spelled, ?_⟩
  have opens : "func (u *" ++ declared.name = "func (" ++ ("u *" ++ declared.name) := String.toList_inj.1 (by simp)
  have head := spells_block "var head struct"
    (Code.spells_line indent ("Discriminator string `json:" ++ quoted declared.discriminator ++ "`"))
  have given := spells_block "if err := json.Unmarshal(data, &head); err != nil" (Code.spells_line indent "return err")
  have arms := Code.Spells.flatMap fun arm (_ : arm ∈ declared.arms) => spells arm
  have unknown := (Code.spells_line indent
    ("return newUnrecognizedVariant(\"" ++ declared.name ++ "\", head.Discriminator)")).nested
  have otherwise := ((Code.spells_line indent "default:").append unknown).append (Code.spells_line indent "\x7d")
  have switch := Code.spells_line indent "switch head.Discriminator \x7b"
  rw [unmarshalLines, ← List.flatMap_def]
  exact spells_unmarshaller opens ((((head.append given).append switch).append arms).append otherwise)

end UnionType

/-- How Go writes a declaration: a type with its methods, and the values of an enumeration. -/
inductive Declaration.Spelled : Declaration → List (List String) → Prop
  | record {declared : Record} {lines : List String} : declared.Spelled lines → Spelled (.record declared) [lines]
  | enumeration {declared : EnumType} {wrapper values : List String} {type : String} :
      declared.wrapper.Spelled wrapper → List.Forall₂ (EnumType.ValueSpelled declared.name) declared.members values →
        declared.base.Spelled type → Spelled (.enumeration declared)
          [wrapper, declared.valuesLines values, declared.valueLines type, declared.marshalLines,
            declared.unmarshalLines type]
  | union {declared : UnionType} {wrapper : List String} {field : String} {arms : List (List String)} :
      declared.wrapper.Spelled wrapper → Text.doubleQuotes.Quotes declared.discriminator field →
        List.Forall₂ UnionType.ArmSpelled declared.arms arms → Spelled (.union declared)
          [wrapper, declared.marshalLines, declared.unmarshalLines field arms]

theorem exists_declaration (declaration : Declaration) :
    ∃ pieces, declaration.Spelled pieces ∧ List.Forall₂ (Code.Spells indent) declaration.code pieces := by
  cases declaration with
  | record declared =>
    obtain ⟨lines, spelled, spells⟩ := exists_record declared
    exact ⟨_, .record spelled, .cons spells .nil⟩
  | enumeration declared =>
    obtain ⟨wrapper, spelled, spells⟩ := exists_record declared.wrapper
    obtain ⟨values, members, written⟩ := declared.exists_values
    exact ⟨_, .enumeration spelled members (spelled_code declared.base), .cons spells (.cons written
      (.cons declared.spells_value (.cons declared.spells_marshal (.cons declared.spells_unmarshal .nil))))⟩
  | union declared =>
    obtain ⟨wrapper, spelled, spells⟩ := exists_record declared.wrapper
    obtain ⟨field, arms, quotes, each, written⟩ := declared.exists_unmarshal
    exact ⟨_, .union spelled quotes each, .cons spells (.cons declared.spells_marshal (.cons written .nil))⟩

theorem exists_render (declarations : List Declaration) :
    ∃ pieces, List.Forall₂ Declaration.Spelled declarations pieces ∧
      render (declarations.flatMap Declaration.code) = String.intercalate "\n" (pieces.flatten.map linesText) := by
  choose pieces spelled spells using exists_declaration
  refine ⟨declarations.map pieces, ?_, Code.render_spaced ?_⟩
  · exact forall₂_mapped spelled
  · induction declarations with
    | nil => exact .nil
    | cons first rest ih => exact List.rel_append (spells first) ih

end OpenApiCodegen.Server
