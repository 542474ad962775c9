import OpenApiCodegen.Proofs.Output.TextLines
import OpenApiCodegen.Proofs.Text.Literals

namespace OpenApiCodegen.WebClient

inductive TypeExpr.Spelled : TypeExpr → String → Prop
  | text : Spelled .text "string"
  | number : Spelled .number "number"
  | boolean : Spelled .boolean "boolean"
  | null : Spelled .null "null"
  | nothing : Spelled .nothing "void"
  | unknown : Spelled .unknown "unknown"
  | truth : Spelled (.flag true) "true"
  | falsity : Spelled (.flag false) "false"
  | named (name : String) : Spelled (.named name) name
  | array {item : TypeExpr} {s : String} : item.isEither = false → Spelled item s →
      Spelled (.array item) (s ++ "[]")
  | choices {item : TypeExpr} {s : String} : item.isEither = true → Spelled item s →
      Spelled (.array item) ("(" ++ s ++ ")[]")
  | table {value : TypeExpr} {s : String} : Spelled value s →
      Spelled (.table value) ("Record<string, " ++ s ++ ">")
  | either {types : List TypeExpr} {texts : List String} : List.Forall₂ Spelled types texts →
      Spelled (.either types) (String.intercalate " | " texts)
  | applied (name : String) {arguments : List TypeExpr} {texts : List String} :
      List.Forall₂ Spelled arguments texts →
        Spelled (.applied name arguments) (name ++ "<" ++ String.intercalate ", " texts ++ ">")

mutual

theorem spelled_code : ∀ type : TypeExpr, type.Spelled type.code
  | .text => .text
  | .number => .number
  | .boolean => .boolean
  | .null => .null
  | .nothing => .nothing
  | .unknown => .unknown
  | .flag true => .truth
  | .flag false => .falsity
  | .named name => .named name
  | .array item => by
    change TypeExpr.Spelled _ (if item.isEither then "(" ++ item.code ++ ")[]" else item.code ++ "[]")
    split
    · exact .choices ‹_› (spelled_code item)
    · exact .array (Bool.eq_false_iff.2 ‹_›) (spelled_code item)
  | .table value => .table (spelled_code value)
  | .either types => .either (spelled_codes types)
  | .applied name arguments => .applied name (spelled_codes arguments)

theorem spelled_codes : ∀ types : List TypeExpr, List.Forall₂ TypeExpr.Spelled types (TypeExpr.codes types)
  | [] => .nil
  | type :: rest => .cons (spelled_code type) (spelled_codes rest)

end

def IsComment (lines : List String) : Prop :=
  ∀ line ∈ lines, ∃ rest, line = "/**" ++ rest ∨ line = " *" ++ rest

theorem exists_docComment (doc : Option String) (deprecated : Bool) :
    ∃ lines, IsComment lines ∧ Code.Spells indent (docComment doc deprecated) lines := by
  unfold docComment
  generalize docLines doc deprecated = lines
  rcases lines with _ | ⟨line, _ | ⟨second, rest⟩⟩
  · exact ⟨[], by simp [IsComment], Code.spells_nil⟩
  · refine ⟨["/** " ++ line ++ " */"], fun line' mem => ⟨" " ++ (line ++ " */"), .inl ?_⟩,
      Code.spells_line indent _⟩
    have opened : "/** " = "/**" ++ " " := rfl
    simp only [List.mem_singleton.1 mem, opened, String.append_assoc]
  · let lines := line :: second :: rest
    let body (line : String) : String := if line.isEmpty then " *" else " * " ++ line
    have first := Code.spells_line indent "/**"
    have last := Code.spells_line indent " */"
    have inner : Code.Spells indent (lines.map fun line => .line (body line)) (lines.map body) :=
      Code.spells_map indent body lines
    refine ⟨"/**" :: lines.map body ++ [" */"], fun line mem => ?_, (first.cons inner).append last⟩
    simp only [List.cons_append, List.mem_cons, List.mem_append, List.mem_map, List.not_mem_nil,
      or_false] at mem
    rcases mem with rfl | ⟨text, -, rfl⟩ | rfl
    · exact ⟨"", .inl rfl⟩
    · by_cases empty : text.isEmpty
      · exact ⟨"", .inr (if_pos empty)⟩
      · have opened : " * " = " *" ++ " " := rfl
        refine ⟨" " ++ text, .inr ((if_neg empty).trans ?_)⟩
        rw [opened, String.append_assoc]
    · exact ⟨"/", .inr rfl⟩

inductive Member.Spelled : Member → List String → Prop
  | intro {member : Member} {comment : List String} {key type : String} :
      IsComment comment → key = member.name ∨ Text.doubleQuotes.Quotes member.name key →
        member.type.Spelled type →
          Spelled member
            (comment ++ [key ++ (if member.optional then "?" else "") ++ ": " ++ type ++ ";"])

theorem exists_member (member : Member) :
    ∃ lines, member.Spelled lines ∧ Code.Spells indent member.code lines := by
  obtain ⟨comment, isComment, spells⟩ := exists_docComment member.doc false
  have key : Text.propertyKey member.name = member.name ∨
      Text.doubleQuotes.Quotes member.name (Text.propertyKey member.name) := by
    unfold Text.propertyKey
    split
    · exact .inr (Text.quotes_inDoubleQuotes member.name)
    · exact .inl rfl
  exact ⟨_, .intro isComment key (spelled_code member.type), spells.append (Code.spells_line indent _)⟩

def parameterText : List String → String
  | [] => ""
  | parameters => "<" ++ String.intercalate ", " parameters ++ ">"

theorem angled_eq (parameters : List String) : angled parameters = parameterText parameters := by
  cases parameters <;> rfl

inductive SpelledIndex : Option TypeExpr → List String → Prop
  | none : SpelledIndex none []
  | some {type : TypeExpr} {text : String} : type.Spelled text →
      SpelledIndex (some type) ["[key: string]: " ++ text ++ ";"]

inductive Interface.Spelled : Interface → List String → Prop
  | intro {declared : Interface} {comment index : List String} {members : List (List String)} :
      IsComment comment → List.Forall₂ Member.Spelled declared.members members →
        SpelledIndex declared.index index →
          Spelled declared (comment ++
            ["export interface " ++ declared.name ++ parameterText declared.parameters ++ " \x7b"] ++
              (members.flatten ++ index).map ("  " ++ ·) ++ ["\x7d"])

theorem exists_index (index : Option TypeExpr) :
    ∃ lines, SpelledIndex index lines ∧ Code.Spells indent (match index with
      | some type => [Code.line s!"[key: string]: {type.code};"]
      | none => []) lines := by
  cases index with
  | none => exact ⟨[], .none, Code.spells_nil⟩
  | some type => exact ⟨_, .some (spelled_code type), Code.spells_line indent _⟩

theorem exists_interface (declared : Interface) :
    ∃ lines, declared.Spelled lines ∧ Code.Spells indent declared.code lines := by
  obtain ⟨comment, isComment, written⟩ := exists_docComment declared.doc declared.deprecated
  choose lines spelled spells using exists_member
  have members : List.Forall₂ Member.Spelled declared.members (declared.members.map lines) :=
    forall₂_mapped spelled
  obtain ⟨index, spelledIndex, writtenIndex⟩ := exists_index declared.index
  refine ⟨_, .intro isComment members spelledIndex, ?_⟩
  have body := (Code.Spells.flatMap fun member (_ : member ∈ declared.members) => spells member).append
    writtenIndex
  have block := body.block ("export interface " ++ declared.name ++ parameterText declared.parameters) ""
  rw [← angled_eq] at block ⊢
  rw [← List.flatMap_def, List.append_assoc comment, List.append_assoc comment]
  exact written.append block

inductive Alias.Spelled : Alias → List String → Prop
  | intro {declared : Alias} {comment : List String} {type : String} :
      IsComment comment → declared.type.Spelled type →
        Spelled declared (comment ++ ["export type " ++ declared.name ++ " = " ++ type ++ ";"])

theorem exists_alias (declared : Alias) :
    ∃ lines, declared.Spelled lines ∧ Code.Spells indent declared.code lines := by
  obtain ⟨comment, isComment, written⟩ := exists_docComment declared.doc declared.deprecated
  exact ⟨_, .intro isComment (spelled_code declared.type), written.append (Code.spells_line indent _)⟩

/-- The value of an enumeration member. Texts and truth values are literals in quotes. -/
inductive SpelledValue : Api.Literal → String → Prop
  | text {s quoted : String} : Text.doubleQuotes.Quotes s quoted → SpelledValue (.text s) quoted
  | flag {b : Bool} {quoted : String} : Text.doubleQuotes.Quotes (if b then "true" else "false") quoted →
      SpelledValue (.flag b) quoted
  | whole (n : Int) : SpelledValue (.whole n) (toString n)
  | real (x : Binary64) : SpelledValue (.real x) x.plainText

theorem spelledValue_literalCode : ∀ literal : Api.Literal, SpelledValue literal (literalCode literal)
  | .text s => .text (quotes_quoted s)
  | .flag _ => .flag (quotes_quoted _)
  | .whole n => .whole n
  | .real x => .real x

inductive Enumeration.SpelledMember : String × Api.Literal → String → Prop
  | intro {name value : String} {literal : Api.Literal} : SpelledValue literal value →
      SpelledMember (name, literal) (name ++ " = " ++ value ++ ",")

inductive Enumeration.Spelled : Enumeration → List String → Prop
  | intro {declared : Enumeration} {comment members : List String} :
      IsComment comment → List.Forall₂ SpelledMember declared.members members →
        Spelled declared (comment ++ ["export enum " ++ declared.name ++ " \x7b"] ++
          members.map ("  " ++ ·) ++ ["\x7d"])

theorem exists_enumeration (declared : Enumeration) :
    ∃ lines, declared.Spelled lines ∧ Code.Spells indent declared.code lines := by
  obtain ⟨comment, isComment, written⟩ := exists_docComment declared.doc declared.deprecated
  let line (member : String × Api.Literal) : String := member.1 ++ " = " ++ literalCode member.2 ++ ","
  have members : List.Forall₂ Enumeration.SpelledMember declared.members (declared.members.map line) :=
    forall₂_mapped fun member =>
      .intro (spelledValue_literalCode member.2)
  have body : Code.Spells indent (declared.members.map fun member => .line (line member)) _ :=
    Code.spells_map indent line declared.members
  refine ⟨_, .intro isComment members, ?_⟩
  rw [List.append_assoc comment, List.append_assoc comment]
  exact written.append (body.block ("export enum " ++ declared.name) "")

/-- A value of the discriminator, and the variant that is decoded at it. -/
inductive Decoder.SpelledArm : String × String → List String → Prop
  | intro {value variant literal : String} : Text.doubleQuotes.Quotes value literal →
      SpelledArm (value, variant)
        ["case " ++ literal ++ ":", "  " ++ ("return value as " ++ variant ++ ";")]

inductive Decoder.Spelled : Decoder → List String → Prop
  | intro {declared : Decoder} {comment : List String} {field union : String}
      {arms : List (List String)} :
      IsComment comment → Text.doubleQuotes.Quotes declared.discriminator field →
        Text.doubleQuotes.Quotes declared.union union → List.Forall₂ SpelledArm declared.arms arms →
          Spelled declared (comment ++
            ["export function decode" ++ declared.union ++ "(value: unknown): " ++ declared.union ++
              " \x7b"] ++
            (["const discriminator = typeof value === \"object\" && value !== null ? " ++
                ("(value as Record<string, unknown>)[" ++ field ++ "]") ++ " : undefined;",
              "switch (discriminator) \x7b"] ++
              (arms.flatten ++
                ["default:",
                  "  " ++ ("throw DecodeError.unrecognizedVariant(" ++ union ++
                    ", String(discriminator));")]).map ("  " ++ ·) ++
              ["\x7d"]).map ("  " ++ ·) ++
            ["\x7d"])

theorem exists_arm (arm : String × String) :
    ∃ lines, Decoder.SpelledArm arm lines ∧ Code.Spells indent
      [.line s!"case {quoted arm.1}:", .nested [.line s!"return value as {arm.2};"]] lines :=
  ⟨_, .intro (quotes_quoted arm.1),
    (Code.spells_line indent _).cons (Code.spells_line indent _).nested⟩

theorem exists_decoder (declared : Decoder) :
    ∃ lines, declared.Spelled lines ∧ Code.Spells indent declared.code lines := by
  obtain ⟨comment, isComment, written⟩ := exists_docComment
    (some s!"Decode a `{declared.union}` by its `{declared.discriminator}` discriminator.") false
  choose lines spelled spells using exists_arm
  have arms : List.Forall₂ Decoder.SpelledArm declared.arms (declared.arms.map lines) :=
    forall₂_mapped spelled
  refine ⟨_, .intro isComment (quotes_quoted declared.discriminator)
    (quotes_quoted declared.union) arms, ?_⟩
  rw [← List.flatMap_def, List.append_assoc comment, List.append_assoc comment]
  have body := Code.Spells.flatMap fun arm (_ : arm ∈ declared.arms) => spells arm
  have fault := (Code.spells_line indent ("throw DecodeError.unrecognizedVariant(" ++ quoted declared.union ++
    ", String(discriminator));")).nested
  have switch := (body.append ((Code.spells_line indent "default:").cons fault)).block
    "switch (discriminator)" ""
  have field := Code.spells_line indent
    ("const discriminator = typeof value === \"object\" && value !== null ? " ++
      ("(value as Record<string, unknown>)[" ++ quoted declared.discriminator ++ "]") ++ " : undefined;")
  exact written.append ((field.cons switch).block ("export function decode" ++ declared.union ++
    "(value: unknown): " ++ declared.union) "")

inductive Declaration.Spelled : Declaration → List String → Prop
  | interface {declared : Interface} {lines : List String} :
      declared.Spelled lines → Spelled (.interface declared) lines
  | typeAlias {declared : Alias} {lines : List String} :
      declared.Spelled lines → Spelled (.typeAlias declared) lines
  | enumeration {declared : Enumeration} {lines : List String} :
      declared.Spelled lines → Spelled (.enumeration declared) lines
  | decoder {declared : Decoder} {lines : List String} :
      declared.Spelled lines → Spelled (.decoder declared) lines

theorem exists_declaration (declaration : Declaration) :
    ∃ lines, declaration.Spelled lines ∧ Code.Spells indent declaration.code lines := by
  cases declaration with
  | interface declared => exact (exists_interface declared).imp fun _ => And.imp_left .interface
  | typeAlias declared => exact (exists_alias declared).imp fun _ => And.imp_left .typeAlias
  | enumeration declared => exact (exists_enumeration declared).imp fun _ => And.imp_left .enumeration
  | decoder declared => exact (exists_decoder declared).imp fun _ => And.imp_left .decoder

theorem exists_render (declarations : List Declaration) :
    ∃ texts, List.Forall₂ Declaration.Spelled declarations texts ∧
      render declarations = String.intercalate "\n" (texts.map linesText) := by
  choose lines spelled spells using exists_declaration
  refine ⟨declarations.map lines, ?_, Code.render_spaced ?_⟩
  · exact forall₂_mapped spelled
  · rw [List.forall₂_map_left_iff, List.forall₂_map_right_iff]
    exact List.forall₂_same.2 fun declaration _ => spells declaration

end OpenApiCodegen.WebClient
