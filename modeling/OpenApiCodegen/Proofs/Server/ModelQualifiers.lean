import OpenApiCodegen.Proofs.Api.ReturnTypes
import OpenApiCodegen.Proofs.Server.TypePackages
import OpenApiCodegen.Proofs.Text.Lines
import OpenApiCodegen.Proofs.Text.NumberedNames

namespace OpenApiCodegen.Server

open Api (Literal Model Property)

section Comments

variable {doc : Option String} {name : String}

theorem names_map {α : Type} {items : List α} {f : α → Code} (each : ∀ item ∈ items, Names [f item] []) :
    Names (items.map f) [] := by
  have all := Names.flatMap each
  rwa [← List.map_eq_flatMap, List.flatMap_eq_nil_iff.2 fun _ _ => rfl] at all

theorem names_lineComment (doc : Option String) : Names (lineComment doc) [] := by
  refine names_map fun text mem => ?_
  obtain ⟨line, listed, rfl⟩ := List.mem_map.1 mem
  have note : '\n' ∉ (String.ofList line).toList := by
    rw [String.toList_ofList]
    exact (Text.of_mem_lines listed).2
  split
  · exact names_fixed rfl
  · exact names_plain [.fixed "// " rfl, .note] [String.ofList line] rfl rfl ⟨note, trivial⟩

theorem names_docComment (deprecated : Bool) (word : IsWord name) :
    Names (docComment doc deprecated name) [] := by
  have comment := names_lineComment doc
  have note : '\n' ∉ name.toList := word.not_mem (by decide)
  have last : Names [.line s!"// Deprecated: {name} is deprecated."] [] :=
    names_plain [.fixed "// Deprecated: " rfl, .note, .fixed " is deprecated." rfl] [name] rfl rfl
      ⟨note, trivial⟩
  have middle : Names (if (lineComment doc).isEmpty then [] else [.line "//"]) [] := by
    split
    · exact names_nil
    · exact names_fixed rfl
  unfold docComment
  dsimp only
  split
  · exact (comment.append middle).append last
  · exact comment

end Comments

section Tags

theorem not_mem_escapeChars {c : Char} {special text : List Char} (plain : c ∉ text) (other : c ≠ Text.backslash) :
    c ∉ Text.escapeChars special text := by
  induction text with
  | nil => exact plain
  | cons d text ih =>
    have tail := ih fun mem => plain (List.mem_cons_of_mem d mem)
    have head : c ≠ d := fun same => plain (same ▸ List.mem_cons_self)
    rw [Text.escapeChars]
    split <;> simp [other, head, tail]

variable {text : String}

theorem not_mem_escapeGo (plain : '`' ∉ text.toList) : '`' ∉ (Text.escapeGo text).toList := by
  rw [Text.escapeGo, String.toList_ofList]
  exact not_mem_escapeChars plain (by decide)

theorem not_mem_inDoubleQuotes (plain : '`' ∉ text.toList) : '`' ∉ (Text.inDoubleQuotes text).toList := by
  simp [Text.inDoubleQuotes, plain]

end Tags

section Records

variable {names : List String}

theorem names_field {field : Field} (word : IsWord field.name) (term : Term field.type.code names)
    (plain : ∀ tag ∈ field.tag, '`' ∉ tag.toList) : Names field.code names := by
  refine (names_docComment field.deprecated word).append ?_
  cases tagged : field.tag with
  | none =>
    exact names_typed [.word, .fixed " " rfl, .type] [field.name, field.type.code]
      (by simp [fill, fillFrom]) rfl ⟨word, term, trivial⟩
  | some tag =>
    have inside := not_mem_inDoubleQuotes (plain tag tagged)
    exact names_typed [.word, .fixed " " rfl, .type, .fixed " `json:" rfl, .tag, .fixed " form:" rfl, .tag, .fixed "`" rfl]
      [field.name, field.type.code, Text.inDoubleQuotes tag, Text.inDoubleQuotes tag]
      (by simp [fill, fillFrom, tagCode, String.append_assoc]) rfl
      ⟨word, term, inside, inside, trivial⟩

theorem term_typeParameters {name : String} {parameters : List String} (word : IsWord name)
    (words : ∀ parameter ∈ parameters, IsWord parameter) :
    Term (name ++ typeParameters parameters) [] := by
  unfold typeParameters
  split
  · rw [String.append_empty]
    exact term_word word
  · have each : List.Forall₂ Term (parameters.map fun name => name ++ " any") (parameters.map fun _ => []) := by
      rw [List.forall₂_map_left_iff, List.forall₂_map_right_iff]
      refine List.forall₂_same.2 fun parameter mem => ?_
      exact term_plain [.word, .fixed " any" rfl] [parameter] rfl rfl ⟨words parameter mem, trivial⟩
    have term := term_commaSeparated each
    rw [List.flatten_eq_nil_iff.2 (by simp)] at term
    exact term_plain [.word, .fixed "[" rfl, .term, .fixed "]" rfl] [name, commaSeparated _]
      (by simp [fill, fillFrom, String.append_assoc]) rfl ⟨word, term, trivial⟩

theorem names_record {record : Record} (word : IsWord record.name)
    (words : ∀ parameter ∈ record.parameters, IsWord parameter)
    (fields : Names (record.fields.flatMap Field.code) names) : Names record.code names := by
  have head := term_typeParameters word words
  refine (names_docComment record.deprecated word).append ?_
  split
  · rename_i none
    rw [List.isEmpty_iff.1 none] at fields
    obtain rfl : [] = names := (fields 0).meets
    exact names_plain [.fixed "type " rfl, .term, .fixed " struct\x7b\x7d" rfl]
      [record.name ++ typeParameters record.parameters] (by simp [fill, fillFrom, String.append_assoc])
      rfl ⟨head, trivial⟩
  · have opens : Names [.line ("type " ++ record.name ++ typeParameters record.parameters ++ " struct" ++
        " \x7b")] [] :=
      names_plain [.fixed "type " rfl, .term, .fixed " struct \x7b" rfl]
        [record.name ++ typeParameters record.parameters] (by simp [fill, fillFrom, String.append_assoc])
        rfl ⟨head, trivial⟩
    exact fields.braced opens

end Records

section Words

variable {name : String}

theorem isWord_capitalize (word : IsWord name) : IsWord (Text.capitalize name) := by
  unfold Text.capitalize IsWord
  rw [String.toList_ofList]
  cases chars : name.toList with
  | nil => simp [Text.capitalizeChars]
  | cons c rest =>
    rw [IsWord, chars] at word
    intro d mem
    rcases List.mem_append.1 mem with upper | mem
    · rcases isWordChar_iff.1 (word c List.mem_cons_self) with rfl | alpha
      · have same : Text.upperOf '_' = ['_'] := by rfl
        exact isWordChar_iff.2 (.inl (List.mem_singleton.1 (same ▸ upper)))
      · exact isWordChar_iff.2 (.inr (Text.spelled_of_mem_upperOf alpha upper).upper)
    · exact word d (List.mem_cons_of_mem c mem)

theorem isWord_escape {reserved : Text.ReservedWords} {suffix : String} (word : IsWord name)
    (added : IsWord suffix) : IsWord (reserved.escape suffix name) := by
  have own : IsWord (Text.orValue name) := by
    unfold Text.orValue
    split
    · exact isWord_fixed (by decide)
    · exact word
  have letter : IsWord (Text.afterLetter (Text.orValue name)) := by
    unfold Text.afterLetter
    split
    · exact .append (isWord_fixed (by decide)) own
    · exact own
  unfold Text.ReservedWords.escape
  dsimp only
  split
  · exact letter.append added
  · exact letter

theorem isWord_fieldName (name : String) : IsWord (fieldName name) :=
  isWord_capitalize (isWord_escape (isWord_of_capitalized (Text.capitalized_pascalCase name))
    (isWord_fixed (by decide)))

end Words

section Literals

theorem scans_number {place : Place} {text : List Char} (start : place = .between ∨ place = .selected)
    (plain : ∀ c ∈ text, c = '-' ∨ c = '.' ∨ c.isDigit = true) :
    ∃ next, next.InWord ∧ Scans place text next [] := by
  induction text generalizing place with
  | nil =>
    rcases start with rfl | rfl
    · exact ⟨.between, trivial, .nil .between⟩
    · exact ⟨.selected, trivial, .nil .selected⟩
  | cons c rest ih =>
    have step : (place.next c = .between ∨ place.next c = .selected) ∧ place.ended c = [] := by
      rcases plain c List.mem_cons_self with rfl | rfl | digit
      · rcases start with rfl | rfl <;> decide
      · rcases start with rfl | rfl <;> decide
      · have letter : isWordChar c = true := isWordChar_iff.2 (.inr (.inr (.inl digit)))
        have high : isSmallLetter c = false := by
          by_contra low
          rw [isSmallLetter_eq] at low
          have capitalized : Text.Capitalized [c] := .digits (by simpa using digit)
          exact capitalized.ne_cons (by simpa using low) rfl
        rcases start with rfl | rfl
        · simp [Place.next, Place.enter, Place.ended, letter, high]
        · simp [Place.next, Place.ended, letter]
    obtain ⟨next, ends, leads, meets⟩ := ih step.1 fun d mem => plain d (List.mem_cons_of_mem c mem)
    refine ⟨next, ends, leads, ?_⟩
    rw [Place.qualifiers, step.2]
    exact meets

theorem term_number {text : String} (plain : ∀ c ∈ text.toList, c = '-' ∨ c = '.' ∨ c.isDigit = true) :
    Term text [] :=
  scans_number (.inl rfl) plain

theorem mem_positional {d : Decimal} {c : Char} (mem : c ∈ d.positional) : c = '.' ∨ c.isDigit = true := by
  have digits : ∀ c ∈ d.digitChars, c.isDigit = true :=
    fun c mem => Nat.isDigit_of_mem_toDigits (by decide) (by decide) mem
  have zeros : ∀ n, ∀ c ∈ Decimal.zeros n, c.isDigit = true := by
    intro n c mem
    rw [List.eq_of_mem_replicate mem]
    decide
  unfold Decimal.positional at mem
  dsimp only at mem
  split at mem
  · rcases List.mem_append.1 mem with mem | mem
    · exact .inr (digits c mem)
    · exact .inr (zeros _ c mem)
  · split at mem
    · rcases List.mem_append.1 mem with mem | mem
      · exact .inr (digits c (List.mem_of_mem_take mem))
      · rcases List.mem_cons.1 mem with rfl | mem
        · exact .inl rfl
        · exact .inr (digits c (List.mem_of_mem_drop mem))
    · simp only [List.cons_append, List.mem_cons, List.mem_append] at mem
      rcases mem with rfl | rfl | mem | mem
      · exact .inr (by decide)
      · exact .inl rfl
      · exact .inr (zeros _ c mem)
      · exact .inr (digits c mem)

theorem term_real (x : Binary64) : Term x.plainText [] := by
  cases x with
  | nan => exact term_word (isWord_fixed (by decide))
  | infinite negative =>
    have positive : Term "inf" [] := term_fixed rfl
    have minus : Term "-inf" [] := term_fixed rfl
    cases negative
    · exact positive
    · exact minus
  | finite negative significand shift =>
    refine term_number fun c mem => ?_
    rw [Binary64.plainText, String.toList_ofList, List.mem_append] at mem
    rcases mem with sign | mem
    · unfold Binary64.signChars at sign
      split at sign
      · exact .inl (List.mem_singleton.1 sign)
      · cases sign
    · exact .inr (mem_positional mem)

theorem term_literalCode (literal : Literal) : Term (literalCode literal) [] := by
  cases literal with
  | text s => exact term_quoted s
  | whole n =>
    have digits : ∀ n : Nat, ∀ c ∈ (toString n).toList, c.isDigit = true := by
      intro n c mem
      rw [Nat.toString_eq_repr, Nat.toList_repr] at mem
      exact Nat.isDigit_of_mem_toDigits (by decide) (by decide) mem
    refine term_number fun c mem => ?_
    cases n with
    | ofNat n => exact .inr (.inr (digits n c mem))
    | negSucc n =>
      have minus : c ∈ ("-" ++ toString (n + 1)).toList := mem
      rcases List.mem_append.1 (String.toList_append ▸ minus) with sign | mem
      · exact .inl (List.mem_singleton.1 sign)
      · exact .inr (.inr (digits _ c mem))
  | real x => exact term_real x
  | flag b =>
    cases b <;> exact term_word (isWord_fixed (by decide))

theorem isWord_signedName {digits : String} (negative : Bool) (word : IsWord digits) :
    IsWord (Output.signedName negative digits) := by
  refine .append ?_ word
  split <;> exact isWord_fixed (by decide)

theorem isWordChar_of_abs {x : Binary64} {c : Char} (mem : c ∈ x.abs.plainText.toList) :
    c = '.' ∨ isWordChar c = true := by
  have chars : ∀ text : List Char, text.all isWordChar = true → c ∈ (String.ofList text).toList →
      isWordChar c = true := by
    intro text letters inside
    rw [String.toList_ofList] at inside
    exact List.all_eq_true.1 letters c inside
  cases x with
  | nan => exact .inr (chars ['N', 'a', 'N'] (by decide) mem)
  | infinite => exact .inr (chars ['i', 'n', 'f'] (by decide) mem)
  | finite =>
    rw [Binary64.abs, Binary64.plainText, String.toList_ofList] at mem
    exact (mem_positional mem).imp_right fun digit => isWordChar_iff.2 (.inr (.inr (.inl digit)))

theorem isWord_literalName (literal : Literal) : IsWord (Output.literalName literal) := by
  cases literal with
  | text s =>
    have pascal : IsWord (Text.pascalCase s) := isWord_of_capitalized (Text.capitalized_pascalCase s)
    show IsWord (Output.textName s)
    unfold Output.textName
    dsimp only
    split
    · exact isWord_fixed (by decide)
    · split
      · exact isWord_fixed (by decide)
      · split
        · exact .append (isWord_fixed (by decide)) pascal
        · exact pascal
  | whole n => exact isWord_signedName _ (isWord_nat _)
  | real x =>
    refine isWord_signedName _ fun c mem => ?_
    rw [String.toList_ofList, List.mem_map] at mem
    obtain ⟨b, mem, rfl⟩ := mem
    unfold Output.pointToUnderscore
    split
    · decide
    · rename_i noPoint
      exact (isWordChar_of_abs mem).resolve_left noPoint
  | flag b =>
    cases b <;> exact isWord_fixed (by decide)

theorem isWord_memberName {literals : List Literal} {name : String}
    (mem : name ∈ Output.memberNames literals) : IsWord name := by
  obtain ⟨i, at_⟩ := List.mem_iff_getElem?.1 mem
  rw [Output.memberNames, Text.getElem?_numberRepeats, Option.map_eq_some_iff] at at_
  obtain ⟨base, listed, rfl⟩ := at_
  obtain ⟨literal, -, rfl⟩ := List.mem_map.1 (List.mem_of_getElem? listed)
  rw [Text.numbered_eq]
  exact (isWord_literalName literal).append (isWord_of_digits fun c => Text.isDigit_of_mem_ordinal)

end Literals

section Methods

variable {name : String} {body : List Code} {found others : List String}

def openingLine (receiver : Option String) (name : String) (parameters : List (String × String))
    (results : List String) : String :=
  "func " ++ (receiver.elim "" fun receiver => "(" ++ receiver ++ ") ") ++ name ++ "(" ++
    commaSeparated (parameters.map fun entry => entry.1 ++ " " ++ entry.2) ++ ")" ++ resultsCode results ++
      " \x7b"

theorem names_function {function : Function} (one : ¬1 < function.parameters.length)
    (head : Names [.line (openingLine function.receiver function.name function.parameters function.results)] found)
    (inside : Names function.body others) : Names function.code (found ++ others) := by
  have opens : Names [.line ("func " ++ (function.receiver.elim "" fun receiver => "(" ++ receiver ++ ") ") ++
      function.name ++ "(" ++ commaSeparated (function.parameters.map fun entry => entry.1 ++ " " ++ entry.2) ++
        (")" ++ resultsCode function.results) ++ " \x7b")] found := by
    simpa [openingLine, String.append_assoc] using head
  have whole := (names_lineComment function.doc).append (inside.braced opens)
  unfold Function.code
  dsimp only
  rw [List.length_map, if_neg one]
  cases function with
  | mk doc receiver => cases receiver <;> exact whole

theorem names_method (slots : List Slot) (texts : List String) {receiver : String} {results : List String}
    {parameters : List (String × String)} (one : ¬1 < parameters.length)
    (same : openingLine (some receiver) name parameters results = fill slots texts)
    (reads : lineNames slots = some (found.map some)) (fits : FitsAll [] slots texts)
    (inside : Names body others) : Names (method receiver name parameters results body) (found ++ others) :=
  names_function one (names_plain slots texts same reads fits) inside

end Methods

section Enumerations

variable {declared : EnumType} {name : String}

theorem scans_capitalized {text : List Char} (capitalized : Text.Capitalized text) (some : text ≠ []) :
    Scans .between text .selected [] := by
  cases text with
  | nil => exact absurd rfl some
  | cons c rest =>
    have letters : ∀ d ∈ c :: rest, isWordChar d = true := fun d mem => isWordChar_iff.2 (capitalized.chars d mem)
    have high : isSmallLetter c = false := by
      by_contra low
      rw [isSmallLetter_eq] at low
      exact capitalized.ne_cons (by simpa using low) rfl
    have first : Scans .between [c] .selected [] := by
      constructor
      · show Place.enter c = .selected
        simp [Place.enter, letters c List.mem_cons_self, high]
      · rfl
    exact first.append (scans_selected fun d mem => letters d (List.mem_cons_of_mem c mem))

theorem term_member {member : String} (capitalized : Text.Capitalized name.toList) (word : IsWord member) :
    Term (name ++ "Values." ++ member) [] := by
  have values : Text.Capitalized (name.toList ++ "Values".toList) :=
    capitalized.append (.letters (by decide) (by decide))
  have front := scans_capitalized values (by simp)
  have dot : Scans .selected ['.'] .selected [] := ⟨rfl, rfl⟩
  have whole := (front.append dot).append (scans_selected word)
  refine ⟨.selected, trivial, ?_⟩
  rw [String.toList_append, String.toList_append]
  simpa using whole

theorem names_values (capitalized : Text.Capitalized declared.name.toList)
    (words : ∀ entry ∈ declared.members, IsWord entry.1) : Names declared.valuesCode [] := by
  have name : IsWord declared.name := isWord_of_capitalized capitalized
  have values : IsWord (declared.name ++ "Values") := name.append (isWord_fixed (by decide))
  have note : '\n' ∉ declared.name.toList := name.not_mem (by decide)
  have comment : Names [.line s!"// {declared.name}Values holds every {declared.name}."] [] :=
    names_plain [.fixed "// " rfl, .note, .fixed "Values holds every " rfl, .note, .fixed "." rfl]
      [declared.name, declared.name] rfl rfl ⟨note, note, trivial⟩
  have opens : Names [.line ("var " ++ declared.name ++ "Values = struct \x7b")] [] :=
    names_plain [.fixed "var " rfl, .word, .fixed " = struct \x7b" rfl] [declared.name ++ "Values"]
      (by simp [fill, fillFrom, String.append_assoc]) rfl ⟨values, trivial⟩
  have types : Names (declared.members.map fun entry => .line s!"{entry.1} {declared.name}") [] :=
    names_map fun entry mem => names_plain [.word, .fixed " " rfl, .word] [entry.1, declared.name] rfl
      rfl ⟨words entry mem, name, trivial⟩
  have literals : Names (declared.members.map fun entry => .line (entry.1 ++ ": " ++
      (declared.name ++ "\x7bvalue: " ++ literalCode entry.2 ++ "\x7d") ++ ",")) [] :=
    names_map fun entry mem =>
      names_plain [.word, .fixed ": " rfl, .word, .fixed "\x7bvalue: " rfl, .term, .fixed "\x7d," rfl]
        [entry.1, declared.name, literalCode entry.2] (by simp [fill, fillFrom, String.append_assoc])
        rfl ⟨words entry mem, name, term_literalCode entry.2, trivial⟩
  have between : Names [.line "\x7d\x7b"] [] := names_fixed rfl
  have closes : Names [.line "\x7d"] [] := names_fixed rfl
  exact comment.cons (opens.cons (types.nested.cons (between.cons (literals.nested.cons closes))))

theorem names_unmarshalEnum (capitalized : Text.Capitalized declared.name.toList)
    (words : ∀ entry ∈ declared.members, IsWord entry.1) (base : Term declared.base.code []) :
    Names declared.unmarshalBody ["json", "fmt"] := by
  have name : IsWord declared.name := isWord_of_capitalized capitalized
  have candidates : Term (commaSeparated (declared.members.map fun entry =>
      declared.name ++ "Values." ++ entry.1)) [] := by
    have each : List.Forall₂ Term (declared.members.map fun entry => declared.name ++ "Values." ++ entry.1)
        (declared.members.map fun _ => []) := by
      rw [List.forall₂_map_left_iff, List.forall₂_map_right_iff]
      exact List.forall₂_same.2 fun entry mem => term_member capitalized (words entry mem)
    have term := term_commaSeparated each
    rwa [List.flatten_eq_nil_iff.2 (by simp)] at term
  have value : Names [.line s!"var value {declared.base.code}"] [] :=
    names_plain [.fixed "var value " rfl, .term] [declared.base.code] rfl rfl ⟨base, trivial⟩
  have given : Names [.line "return err"] [] := names_fixed rfl
  have decoded : Names [.block "if err := json.Unmarshal(data, &value); err != nil" [.line "return err"]]
      (["json"] ++ []) := given.below rfl
  have chosen : Names [.line "*e = candidate"] [] := names_fixed rfl
  have done : Names [.line "return nil"] [] := names_fixed rfl
  have same : Names [.block "if candidate.value == value" [.line "*e = candidate", .line "return nil"]]
      ([] ++ []) := (chosen.cons done).below rfl
  have search : Names [.line ("for _, candidate := range []" ++ declared.name ++ "\x7b" ++ commaSeparated
      (declared.members.map fun entry => declared.name ++ "Values." ++ entry.1) ++ "\x7d" ++ " \x7b")] [] :=
    names_plain [.fixed "for _, candidate := range []" rfl, .word, .fixed "\x7b" rfl, .term, .fixed "\x7d \x7b" rfl]
      [declared.name, commaSeparated _] (by simp [fill, fillFrom, String.append_assoc]) rfl
      ⟨name, candidates, trivial⟩
  have unknown : Names [.line s!"return fmt.Errorf(\"{declared.name}: unknown value %v\", value)"] ["fmt"] :=
    names_plain [.fixed "return fmt.Errorf(\"" rfl, .word, .fixed ": unknown value %v\", value)" rfl] [declared.name]
      rfl rfl ⟨name, trivial⟩
  exact value.cons (decoded.cons ((same.braced search).cons unknown))

theorem names_enumeration (capitalized : Text.Capitalized declared.name.toList)
    (words : ∀ entry ∈ declared.members, IsWord entry.1) (base : Term declared.base.code []) :
    List.Forall₂ Names declared.code [[], [], [], ["json"], ["json", "fmt"]] := by
  have name : IsWord declared.name := isWord_of_capitalized capitalized
  have valueWord : IsWord "value" := isWord_fixed (by decide)
  have field : Names (Field.code ⟨"value", declared.base, none, none, false⟩) [] :=
    names_field valueWord base (by simp)
  have fields : Names (declared.wrapper.fields.flatMap Field.code) [] := by
    rw [EnumType.wrapper, List.flatMap_singleton]
    exact field
  have wrapper : Names declared.wrapper.code [] := names_record name (by simp [EnumType.wrapper]) fields
  have returned : Names [.line "return e.value"] [] := names_fixed rfl
  have marshaled : Names [.line "return json.Marshal(e.value)"] ["json"] := names_fixed rfl
  have value : Names (method s!"e {declared.name}" "Value" [] [declared.base.code] [.line "return e.value"])
      ([] ++ []) :=
    names_method [.fixed "func (e " rfl, .word, .fixed ") Value() " rfl, .term, .fixed " \x7b" rfl]
      [declared.name, declared.base.code] (by decide)
      (String.toList_inj.1 (by simp [openingLine, resultsCode, commaSeparated, fill, fillFrom, toString]))
      rfl ⟨name, base, trivial⟩ returned
  have marshal : Names (method s!"e {declared.name}" "MarshalJSON" [] ["[]byte", "error"]
      [.line "return json.Marshal(e.value)"]) ([] ++ ["json"]) :=
    names_method [.fixed "func (e " rfl, .word, .fixed ") MarshalJSON() ([]byte, error) \x7b" rfl] [declared.name]
      (by decide) (String.toList_inj.1 (by simp [openingLine, resultsCode, commaSeparated, fill, fillFrom, toString]))
      rfl ⟨name, trivial⟩ marshaled
  have unmarshal : Names (method s!"e *{declared.name}" "UnmarshalJSON" [("data", "[]byte")] ["error"]
      declared.unmarshalBody) ([] ++ ["json", "fmt"]) :=
    names_method [.fixed "func (e *" rfl, .word, .fixed ") UnmarshalJSON(data []byte) error \x7b" rfl] [declared.name]
      (by decide) (String.toList_inj.1 (by simp [openingLine, resultsCode, commaSeparated, fill, fillFrom, toString]))
      rfl ⟨name, trivial⟩ (names_unmarshalEnum capitalized words base)
  exact .cons wrapper (.cons (names_values capitalized words) (.cons value (.cons marshal
    (.cons unmarshal .nil))))

end Enumerations

section Unions

variable {declared : UnionType}

theorem names_marshalUnion (words : ∀ variant ∈ declared.variants, IsWord variant) :
    Names declared.marshalBody (declared.variants.flatMap fun _ => ["json"]) := by
  have opens : Names [.line "switch \x7b"] [] := names_fixed rfl
  have arms : Names (declared.variants.flatMap fun variant =>
      [Code.line s!"case u.{variant} != nil:", .nested [.line s!"return json.Marshal(u.{variant})"]])
      (declared.variants.flatMap fun _ => ["json"]) := by
    refine .flatMap fun variant mem => ?_
    have test : Names [.line s!"case u.{variant} != nil:"] [] :=
      names_plain [.fixed "case u." rfl, .word, .fixed " != nil:" rfl] [variant] rfl rfl
        ⟨words variant mem, trivial⟩
    have encoded : Names [.line s!"return json.Marshal(u.{variant})"] ["json"] :=
      names_plain [.fixed "return json.Marshal(u." rfl, .word, .fixed ")" rfl] [variant] rfl rfl
        ⟨words variant mem, trivial⟩
    exact test.cons encoded.nested
  have closes : Names [.line "\x7d"] [] := names_fixed rfl
  have none : Names [.line "return []byte(\"null\"), nil"] [] := names_fixed rfl
  have whole : Names declared.marshalBody ((declared.variants.flatMap fun _ => ["json"]) ++ []) :=
    (opens.append arms).append (closes.cons none)
  rwa [List.append_nil] at whole

theorem names_arm {arm : String × String} (word : IsWord arm.2) : Names (UnionType.armCode arm) ["json"] := by
  have test : Names [.line s!"case {quoted arm.1}:"] [] :=
    names_plain [.fixed "case " rfl, .term, .fixed ":" rfl] [quoted arm.1] rfl rfl
      ⟨term_quoted arm.1, trivial⟩
  have made : Names [.line ("u." ++ arm.2 ++ " = &" ++ arm.2 ++ "\x7b\x7d")] [] :=
    names_plain [.fixed "u." rfl, .word, .fixed " = &" rfl, .word, .fixed "\x7b\x7d" rfl] [arm.2, arm.2] rfl
      rfl ⟨word, word, trivial⟩
  have decoded : Names [.line s!"return json.Unmarshal(data, u.{arm.2})"] ["json"] :=
    names_plain [.fixed "return json.Unmarshal(data, u." rfl, .word, .fixed ")" rfl] [arm.2] rfl rfl
      ⟨word, trivial⟩
  exact test.cons (made.cons decoded).nested

theorem names_unmarshalUnion (word : IsWord declared.name) (words : ∀ arm ∈ declared.arms, IsWord arm.2)
    (plain : '`' ∉ declared.discriminator.toList) :
    Names declared.unmarshalBody ("json" :: declared.arms.flatMap fun _ => ["json"]) := by
  have tag : '`' ∉ (quoted declared.discriminator).toList := not_mem_inDoubleQuotes (not_mem_escapeGo plain)
  have field : Names [.line ("Discriminator string `json:" ++ quoted declared.discriminator ++ "`")] [] :=
    names_plain [.fixed "Discriminator string `json:" rfl, .tag, .fixed "`" rfl] [quoted declared.discriminator] rfl
      rfl ⟨tag, trivial⟩
  have head : Names [.block "var head struct"
      [.line ("Discriminator string `json:" ++ quoted declared.discriminator ++ "`")]] ([] ++ []) :=
    field.below rfl
  have given : Names [.line "return err"] [] := names_fixed rfl
  have decoded : Names [.block "if err := json.Unmarshal(data, &head); err != nil" [.line "return err"]]
      (["json"] ++ []) := given.below rfl
  have opens : Names [.line "switch head.Discriminator \x7b"] [] := names_fixed rfl
  have otherwise : Names [.line "default:"] [] := names_fixed rfl
  have unknown : Names
      [.line s!"return newUnrecognizedVariant(\"{declared.name}\", head.Discriminator)"] [] :=
    names_plain [.fixed "return newUnrecognizedVariant(\"" rfl, .word, .fixed "\", head.Discriminator)" rfl]
      [declared.name] rfl rfl ⟨word, trivial⟩
  have closes : Names [.line "\x7d"] [] := names_fixed rfl
  have arms : Names (declared.arms.flatMap UnionType.armCode) (declared.arms.flatMap fun _ => ["json"]) :=
    .flatMap fun arm mem => names_arm (words arm mem)
  have whole : Names declared.unmarshalBody (("json" :: declared.arms.flatMap fun _ => ["json"]) ++ []) :=
    ((head.cons (decoded.cons opens)).append arms).append (otherwise.cons (unknown.nested.cons closes))
  rwa [List.append_nil] at whole

theorem names_union (word : IsWord declared.name) (variants : ∀ variant ∈ declared.variants, IsWord variant)
    (arms : ∀ arm ∈ declared.arms, IsWord arm.2) (plain : '`' ∉ declared.discriminator.toList) :
    List.Forall₂ Names declared.code [[], declared.variants.flatMap fun _ => ["json"],
      "json" :: declared.arms.flatMap fun _ => ["json"]] := by
  have fields : Names (declared.wrapper.fields.flatMap Field.code) [] := by
    have each : Names (declared.variants.flatMap fun variant =>
        Field.code ⟨variant, (GoType.named variant).orNil, none, none, false⟩)
        (declared.variants.flatMap fun _ => []) :=
      .flatMap fun variant mem => names_field (variants variant mem)
        (term_orNil (term_word (variants variant mem))) (by simp)
    rw [List.flatMap_eq_nil_iff.2 fun _ _ => rfl] at each
    rw [UnionType.wrapper, List.flatMap_map]
    exact each
  have wrapper : Names declared.wrapper.code [] := names_record word (by simp [UnionType.wrapper]) fields
  have marshal : Names (method s!"u {declared.name}" "MarshalJSON" [] ["[]byte", "error"] declared.marshalBody)
      ([] ++ declared.variants.flatMap fun _ => ["json"]) :=
    names_method [.fixed "func (u " rfl, .word, .fixed ") MarshalJSON() ([]byte, error) \x7b" rfl] [declared.name]
      (by decide) (String.toList_inj.1 (by simp [openingLine, resultsCode, commaSeparated, fill, fillFrom, toString]))
      rfl ⟨word, trivial⟩ (names_marshalUnion variants)
  have unmarshal : Names (method s!"u *{declared.name}" "UnmarshalJSON" [("data", "[]byte")] ["error"]
      declared.unmarshalBody) ([] ++ ("json" :: declared.arms.flatMap fun _ => ["json"])) :=
    names_method [.fixed "func (u *" rfl, .word, .fixed ") UnmarshalJSON(data []byte) error \x7b" rfl] [declared.name]
      (by decide) (String.toList_inj.1 (by simp [openingLine, resultsCode, commaSeparated, fill, fillFrom, toString]))
      rfl ⟨word, trivial⟩ (names_unmarshalUnion word arms plain)
  exact .cons wrapper (.cons marshal (.cons unmarshal .nil))

end Unions

def structs (api : Api) (model : Model) : List (Model × List String) :=
  match model.shape with
  | .enumeration _ => []
  | .union discriminator => (ownVariants api discriminator).map fun variant => (variant, [])
  | .record => [(model, model.signature?.getD [])]
  | .unsupported _ => [(model, [])]

/-- What a document gives word for word fits where a unit has it: keys are in tags, within backticks, and
placeholders are names. -/
structure LegibleModel (api : Api) (model : Model) : Prop where
  keys : ∀ entry ∈ structs api model, ∀ property ∈ entry.1.properties, '`' ∉ property.wireName.toList
  placeholders : ∀ entry ∈ structs api model, ∀ property ∈ entry.1.properties,
    ∀ placeholder ∈ property.placeholder, IsWord placeholder
  discriminator : ∀ discriminator ∈ model.discriminator?, '`' ∉ discriminator.property.toList

instance (api : Api) (model : Model) : Decidable (LegibleModel api model) :=
  decidable_of_iff
    ((∀ entry ∈ structs api model, ∀ property ∈ entry.1.properties, '`' ∉ property.wireName.toList) ∧
      (∀ entry ∈ structs api model, ∀ property ∈ entry.1.properties,
        ∀ placeholder ∈ property.placeholder, IsWord placeholder) ∧
      ∀ discriminator ∈ model.discriminator?, '`' ∉ discriminator.property.toList)
    ⟨fun ⟨keys, placeholders, discriminator⟩ => ⟨keys, placeholders, discriminator⟩,
      fun ⟨keys, placeholders, discriminator⟩ => ⟨keys, placeholders, discriminator⟩⟩

def pieceNames (api : Api) (model : Model) : List (List String) :=
  (structs api model).map (fun entry => (writtenTypes entry.1 entry.2).flatMap timeNames) ++
    match model.shape with
    | .enumeration _ => [[], [], [], ["json"], ["json", "fmt"]]
    | .union discriminator => [[], discriminator.variants.flatMap fun _ => ["json"],
        "json" :: discriminator.mapping.flatMap fun _ => ["json"]]
    | _ => []

section Units

variable {api : Api} {model : Model} {parameters : List String}

theorem flatMap_writtenTypes (model : Model) (parameters : List String) :
    (writtenTypes model parameters).flatMap timeNames = model.properties.flatMap fun property =>
      if property.placeholder.isNone || parameters.isEmpty then timeNames property.type else [] := by
  unfold writtenTypes
  induction model.properties with
  | nil => rfl
  | cons property rest ih =>
    rw [List.filter_cons, List.flatMap_cons, ← ih]
    split <;> simp_all

theorem names_recordField {property : Property} (named : Lowering.NamesCapitalized property.type)
    (key : '`' ∉ property.wireName.toList) (word : ∀ placeholder ∈ property.placeholder, IsWord placeholder) :
    Names (recordField api parameters property).code
      (if property.placeholder.isNone || parameters.isEmpty then timeNames property.type else []) := by
  have inTag := not_mem_escapeGo key
  have type : Term (propertyType api parameters property).code
      (if property.placeholder.isNone || parameters.isEmpty then timeNames property.type else []) := by
    unfold propertyType
    cases stands : property.placeholder with
    | none => exact term_goType api named
    | some parameter =>
      cases parameters with
      | nil => exact term_goType api named
      | cons => exact term_word (word parameter stands)
  refine names_field (isWord_fieldName property.name) ?_ ?_
  · unfold recordField
    dsimp only
    split
    · exact term_orNil type
    · exact type
  · rintro _ ⟨⟩
    split
    · exact inTag
    · simp [inTag]

theorem names_recordStruct (capitalized : Text.Capitalized model.name.toList)
    (words : ∀ parameter ∈ parameters, IsWord parameter)
    (named : ∀ property ∈ model.properties, Lowering.NamesCapitalized property.type)
    (keys : ∀ property ∈ model.properties, '`' ∉ property.wireName.toList)
    (placeholders : ∀ property ∈ model.properties, ∀ placeholder ∈ property.placeholder, IsWord placeholder) :
    Names (recordStruct api model parameters).code ((writtenTypes model parameters).flatMap timeNames) := by
  refine names_record (isWord_of_capitalized capitalized) words ?_
  rw [flatMap_writtenTypes, recordStruct, List.flatMap_map]
  exact .flatMap fun property mem =>
    names_recordField (named property mem) (keys property mem) (placeholders property mem)

theorem mem_models_of_struct (mem : model ∈ api.models) {entry : Model × List String}
    (inside : entry ∈ structs api model) : entry.1 ∈ api.models := by
  unfold structs at inside
  split at inside
  · cases inside
  · obtain ⟨variant, own, rfl⟩ := List.mem_map.1 inside
    obtain ⟨id, -, at_⟩ := List.mem_filterMap.1 own
    exact List.mem_of_getElem? at_
  all_goals
    rw [List.mem_singleton.1 inside]
    exact mem

theorem words_of_struct (legible : LegibleModel api model) {entry : Model × List String}
    (inside : entry ∈ structs api model) : ∀ parameter ∈ entry.2, IsWord parameter := by
  intro parameter listed
  have placeholders := legible.placeholders entry inside
  unfold structs at inside
  split at inside
  · cases inside
  · obtain ⟨variant, -, rfl⟩ := List.mem_map.1 inside
    cases listed
  · obtain rfl := List.mem_singleton.1 inside
    dsimp only at listed
    unfold Model.signature? at listed
    split at listed
    · obtain ⟨property, mem, stands⟩ := Api.mem_placeholders.1 listed
      exact placeholders property mem parameter stands
    · cases listed
  · rw [List.mem_singleton.1 inside] at listed
    cases listed

theorem modelDeclarations_structs (api : Api) (model : Model) : modelDeclarations api model =
    (structs api model).map (fun entry => .record (recordStruct api entry.1 entry.2)) ++
      match model.shape with
      | .enumeration enumeration => [.enumeration (enumType api model enumeration)]
      | .union discriminator => [.union (unionType model discriminator)]
      | _ => [] := by
  cases shape : model.shape <;> simp [modelDeclarations, structs, shape]

theorem names_pieces (tidy : Tidy api) (mem : model ∈ api.models) (legible : LegibleModel api model) :
    List.Forall₂ Names ((modelDeclarations api model).flatMap Declaration.code) (pieceNames api model) := by
  have plain : List.Forall₂ Names ((structs api model).flatMap fun entry =>
      [(recordStruct api entry.1 entry.2).code])
      ((structs api model).map fun entry => (writtenTypes entry.1 entry.2).flatMap timeNames) := by
    rw [← List.map_eq_flatMap, List.forall₂_map_left_iff, List.forall₂_map_right_iff]
    refine List.forall₂_same.2 fun entry inside => ?_
    have known := mem_models_of_struct mem inside
    exact names_recordStruct (tidy.models entry.1 known) (words_of_struct legible inside)
      (tidy.properties entry.1 known) (legible.keys entry inside) (legible.placeholders entry inside)
  rw [modelDeclarations_structs, List.flatMap_append, List.flatMap_map, pieceNames]
  refine List.rel_append plain ?_
  have capitalized := tidy.models model mem
  split
  · rename_i enumeration shape
    obtain ⟨named, timeless⟩ := tidy.bases model mem enumeration (by simp [Model.enumeration?, shape])
    have base := term_goType api named
    rw [timeNames_eq_nil timeless] at base
    have members : ∀ entry ∈ (enumType api model enumeration).members, IsWord entry.1 :=
      fun entry listed => isWord_memberName (List.of_mem_zip listed).1
    simpa [Declaration.code] using names_enumeration capitalized members base
  · rename_i discriminator shape
    have decodes : discriminator ∈ model.discriminator? := by simp [Model.discriminator?, shape]
    have variants : ∀ variant ∈ discriminator.variants, IsWord variant := fun variant listed =>
      isWord_of_capitalized (tidy.variants model mem discriminator decodes variant listed)
    have arms : ∀ arm ∈ discriminator.mapping, IsWord arm.2 := by
      intro arm listed
      refine variants arm.2 ?_
      rw [Api.Discriminator.variants, mem_firsts]
      exact List.mem_map_of_mem listed
    have union : List.Forall₂ Names (unionType model discriminator).code _ :=
      names_union (isWord_of_capitalized capitalized) variants arms (legible.discriminator discriminator decodes)
    rw [List.flatMap_singleton]
    exact union
  · exact .nil

theorem mem_pieceNames (api : Api) (model : Model) {name : String} : name ∈ (pieceNames api model).flatten ↔
    ∃ package ∈ modelPackages api model, packageName package = name := by
  have json : packageName "encoding/json" = "json" := by decide
  have fmt : packageName "fmt" = "fmt" := by decide
  have structNames : name ∈ ((structs api model).map fun entry =>
      (writtenTypes entry.1 entry.2).flatMap timeNames).flatten ↔
      ∃ package ∈ timeFor ((structs api model).flatMap fun entry => writtenTypes entry.1 entry.2),
        packageName package = name := by
    rw [← mem_timeNames, ← List.flatMap_def, List.flatMap_assoc]
  rw [pieceNames, List.flatten_append, List.mem_append, structNames]
  cases shape : model.shape with
  | enumeration => simp [modelPackages, structs, shape, timeFor, NameSet.mem_ofList, json, fmt, eq_comm]
  | union discriminator =>
    have repeated : name ∈ [[], discriminator.variants.flatMap fun _ => ["json"],
        "json" :: discriminator.mapping.flatMap fun _ => ["json"]].flatten ↔ name = "json" := by
      simp only [List.mem_flatten, List.mem_cons, List.not_mem_nil]
      aesop
    rw [repeated]
    simp [modelPackages, structs, shape, NameSet.mem_ofList, json, List.flatMap_map, or_comm, eq_comm]
  | record => simp [modelPackages, structs, shape, NameSet.mem_ofList]
  | unsupported => simp [modelPackages, structs, shape, NameSet.mem_ofList]

end Units

end OpenApiCodegen.Server
