import OpenApiCodegen.Proofs.Output.FieldNames

namespace OpenApiCodegen

namespace Text

def Ascii (text : List Char) : Prop :=
  ∀ c ∈ text, c.toNat < 128

namespace Ascii

variable {text other word : List Char} {c : Char}

theorem of_all (all : text.all (fun c => decide (c.toNat < 128)) = true) : Ascii text :=
  fun c mem => of_decide_eq_true (List.all_eq_true.1 all c mem)

theorem append (first : Ascii text) (second : Ascii other) : Ascii (text ++ other) := by
  intro c mem
  rcases List.mem_append.1 mem with mem | mem
  · exact first c mem
  · exact second c mem

theorem flatMap {f : List Char → List Char} {words : List (List Char)} (ascii : ∀ word ∈ words, Ascii word)
    (kept : ∀ {word}, Ascii word → Ascii (f word)) : Ascii (words.flatMap f) := by
  intro c mem
  obtain ⟨word, inside, mem⟩ := List.mem_flatMap.1 mem
  exact kept (ascii word inside) c mem

theorem of_table {change : Char → Char} (table : ∀ n < 128, (change (Char.ofNat n)).toNat < 128)
    (ascii : c.toNat < 128) : (change c).toNat < 128 := by
  have here := table c.toNat ascii
  rwa [Char.ofNat_toNat] at here

theorem upperOf (ascii : c.toNat < 128) : Ascii (upperOf c) := by
  rw [Text.upperOf, if_pos ascii]
  intro d mem
  obtain rfl := List.mem_singleton.1 mem
  exact of_table (by decide) ascii

theorem lowerOf (ascii : c.toNat < 128) : Ascii (lowerOf c) := by
  rw [Text.lowerOf, if_pos ascii]
  intro d mem
  obtain rfl := List.mem_singleton.1 mem
  exact of_table (by decide) ascii

theorem capitalizeChars (ascii : Ascii text) : Ascii (capitalizeChars text) := by
  cases text with
  | nil => exact ascii
  | cons c rest =>
    have first := upperOf (ascii c List.mem_cons_self)
    exact first.append fun d mem => ascii d (List.mem_cons_of_mem c mem)

theorem capitalizeWord (ascii : Ascii word) : Ascii (capitalizeWord word) := by
  cases word with
  | nil => exact ascii
  | cons c rest =>
    refine (upperOf (ascii c List.mem_cons_self)).append fun d mem => ?_
    obtain ⟨e, inside, mem⟩ := List.mem_flatMap.1 mem
    exact lowerOf (ascii e (List.mem_cons_of_mem c inside)) d mem

theorem lowerFrom (before : List Char) (ascii : Ascii text) : Ascii (lowerFrom before text) := by
  induction text generalizing before with
  | nil => exact ascii
  | cons c rest ih =>
    have first := ascii c List.mem_cons_self
    have plain : c ≠ capitalSigma := by
      rintro rfl
      exact absurd first (by decide)
    rw [Text.lowerFrom, if_neg plain]
    exact (lowerOf first).append (ih (c :: before) fun d mem => ascii d (List.mem_cons_of_mem c mem))

theorem of_mem_words (ascii : Ascii text) (mem : word ∈ words text) : Ascii word :=
  fun c inside => ascii c (mem_of_mem_words mem inside)

theorem pascalChars (ascii : Ascii text) : Ascii (pascalChars text) :=
  flatMap (fun _ mem => ascii.of_mem_words mem) capitalizeWord

theorem camelChars (ascii : Ascii text) : Ascii (camelChars text) := by
  unfold Text.camelChars
  split
  · simp [Ascii]
  · rename_i first others written
    have words : ∀ word ∈ first :: others, Ascii word := fun word mem => ascii.of_mem_words (written ▸ mem)
    have later : ∀ word ∈ others, Ascii word := fun word mem => words word (List.mem_cons_of_mem first mem)
    exact (lowerFrom [] (words first List.mem_cons_self)).append (flatMap later capitalizeWord)

end Ascii

theorem upperOf_isUpper {c : Char} (upper : c.isUpper = true) (ascii : c.toNat < 128) :
    upperOf c = [c] := by
  have table : ∀ n < 128, (Char.ofNat n).isUpper = true → upperOf (Char.ofNat n) = [Char.ofNat n] := by
    decide
  have here := table c.toNat ascii
  rw [Char.ofNat_toNat] at here
  exact here upper

theorem Spelled.of_ascii {letter : Char → Bool} {c : Char} (spelled : Spelled letter c)
    (ascii : c.toNat < 128) : letter c = true ∨ c.isDigit = true := by
  rcases spelled with allowed | digit | beyond
  · exact .inl allowed
  · exact .inr digit
  · omega

theorem Spelled.isAlphanum {c : Char} (spelled : Spelled Char.isAlpha c) (ascii : c.toNat < 128) :
    c.isAlphanum = true :=
  Bool.or_eq_true_iff.2 (spelled.of_ascii ascii)

/-- A letter that `first` allows, with letters and digits behind it. -/
def LettersAndDigits (first : Char → Bool) (name : String) : Prop :=
  ∃ c rest, name.toList = c :: rest ∧ first c = true ∧ ∀ d ∈ rest, d.isAlphanum = true

variable {name : String} {c : Char} {rest : List Char}

theorem startsWithDigit_eq_false (written : name.toList = c :: rest) (plain : c.isDigit = false) :
    startsWithDigit name = false := by
  simp [startsWithDigit, written, plain]

theorem lettersAndDigits_afterLetter (written : name.toList = c :: rest)
    (start : c.isLower = true ∨ c.isDigit = true) (behind : ∀ d ∈ rest, d.isAlphanum = true) :
    LettersAndDigits Char.isLower (afterLetter name) := by
  by_cases digit : c.isDigit = true
  · have begins : startsWithDigit name = true := startsWithDigit_iff.2 ⟨c, rest, written, digit⟩
    have own : c.isAlphanum = true := Bool.or_eq_true_iff.2 (.inr digit)
    refine ⟨'n', name.toList, toList_afterLetter begins, by decide, ?_⟩
    rw [written]
    exact List.forall_mem_cons.2 ⟨own, behind⟩
  · have plain := startsWithDigit_eq_false written (Bool.eq_false_iff.2 digit)
    have kept : afterLetter name = name := if_neg (by simp [plain])
    exact ⟨c, rest, by rw [kept, written], start.resolve_right digit, behind⟩

end Text

open Text (Ascii LettersAndDigits)

namespace Lowering

theorem head_identifier {wireName : String} {c : Char} (first : c ∈ (identifier wireName).toList.head?) :
    Text.Spelled Char.isLower c := by
  unfold identifier Text.orValue at first
  split at first
  · obtain rfl : 'v' = c := Option.some.inj first
    exact .inl (by decide)
  · rw [Text.camelCase, String.toList_ofList, Text.camelChars] at first
    cases written : Text.words wireName.toList with
    | nil =>
      rw [written] at first
      cases first
    | cons word others =>
      obtain ⟨nonempty, spelled⟩ := Text.mem_words (written ▸ List.mem_cons_self)
      obtain ⟨d, rest, small⟩ : ∃ d rest, Text.lowerAll word = d :: rest :=
        List.exists_cons_of_ne_nil (Text.lowerFrom_ne_nil nonempty)
      rw [written] at first
      simp only [small, List.cons_append, List.head?_cons] at first
      obtain rfl : d = c := Option.some.inj first
      have inside : d ∈ Text.lowerAll word := small ▸ List.mem_cons_self
      exact Text.spelled_of_mem_lowerFrom spelled inside

theorem spelled_pascalCase {name : String} {c : Char} (mem : c ∈ (Text.pascalCase name).toList) :
    Text.Spelled Char.isAlpha c := by
  rw [Text.pascalCase, String.toList_ofList, Text.pascalChars] at mem
  obtain ⟨word, inside, mem⟩ := List.mem_flatMap.1 mem
  exact spelled_of_mem_capitalizeWord (Text.mem_words inside).2 mem

theorem ascii_identifier {wireName : String} (ascii : Ascii wireName.toList) :
    Ascii (identifier wireName).toList := by
  unfold identifier Text.orValue
  split
  · exact .of_all (by decide)
  · rw [Text.camelCase, String.toList_ofList]
    exact ascii.camelChars

theorem exists_identifier {wireName : String} (ascii : Ascii wireName.toList) :
    ∃ c rest, (identifier wireName).toList = c :: rest ∧ (c.isLower = true ∨ c.isDigit = true) ∧
      ∀ d ∈ rest, d.isAlphanum = true := by
  have plain := plain_identifier wireName
  have kept := ascii_identifier ascii
  obtain ⟨c, rest, written⟩ := List.exists_cons_of_ne_nil (mt String.toList_eq_nil_iff.1 plain.nonempty)
  have first : Text.Spelled Char.isLower c := head_identifier (by rw [written]; rfl)
  rw [written] at kept
  refine ⟨c, rest, written, first.of_ascii (kept c List.mem_cons_self), fun d mem => ?_⟩
  have spelled := plain.spelled d (written ▸ List.mem_cons_of_mem c mem)
  exact spelled.isAlphanum (kept d (List.mem_cons_of_mem c mem))

end Lowering

open Lowering (identifier)

variable {wireName : String}

theorem afterLetter_identifier (ascii : Ascii wireName.toList) :
    LettersAndDigits Char.isLower (Text.afterLetter (identifier wireName)) := by
  obtain ⟨c, rest, written, start, behind⟩ := Lowering.exists_identifier ascii
  exact Text.lettersAndDigits_afterLetter written start behind

theorem MobileClient.fieldName_identifier (wireName : String) :
    (fieldName (identifier wireName) = Text.afterLetter (identifier wireName) ∨
      fieldName (identifier wireName) = Text.afterLetter (identifier wireName) ++ "_") ∧
    Text.dartReserved.contains (fieldName (identifier wireName)) = false := by
  have bare : Text.dartReserved.words.all (fun word => word.toList.getLast? != some '_') = true := by
    rfl
  have escaped : fieldName (identifier wireName) =
      if Text.dartReserved.contains (Text.afterLetter (identifier wireName)) then
        Text.afterLetter (identifier wireName) ++ "_"
      else Text.afterLetter (identifier wireName) := by
    rw [fieldName, Text.ReservedWords.escape,
      Text.orValue_of_ne (Lowering.plain_identifier wireName).nonempty]
  rw [escaped]
  generalize Text.afterLetter (identifier wireName) = stem
  split
  · refine ⟨.inr rfl, Bool.eq_false_iff.2 fun reserved => ?_⟩
    have last := List.all_eq_true.1 bare _ (List.contains_iff_mem.1 reserved)
    simp at last
  · rename_i free
    exact ⟨.inl rfl, Bool.eq_false_iff.2 free⟩

theorem Server.fieldName_identifier (ascii : Ascii wireName.toList) :
    LettersAndDigits Char.isUpper (fieldName (identifier wireName)) := by
  have kept : Ascii (Text.pascalCase (identifier wireName)).toList := by
    rw [Text.pascalCase, String.toList_ofList]
    exact (Lowering.ascii_identifier ascii).pascalChars
  have capitalized := Text.capitalized_pascalCase (identifier wireName)
  have spelled : ∀ c ∈ (Text.pascalCase (identifier wireName)).toList, c.isAlphanum = true :=
    fun c mem => (Lowering.spelled_pascalCase mem).isAlphanum (kept c mem)
  rw [fieldName_eq]
  generalize Text.pascalCase (identifier wireName) = base at kept capitalized spelled
  by_cases empty : base = ""
  · subst empty
    exact ⟨'V', "alue".toList, by rfl, by decide, List.all_eq_true.1 (by decide)⟩
  · obtain ⟨c, rest, written⟩ := List.exists_cons_of_ne_nil (mt String.toList_eq_nil_iff.1 empty)
    have start := (capitalized.first c (by rw [written]; rfl)).of_ascii (kept c (written ▸ List.mem_cons_self))
    rw [Text.orValue_of_ne empty]
    by_cases digit : c.isDigit = true
    · have begins : Text.startsWithDigit base = true := Text.startsWithDigit_iff.2 ⟨c, rest, written, digit⟩
      have before : Text.afterLetter base = "n" ++ base := if_pos begins
      rw [before, Text.capitalize_n]
      exact ⟨'N', base.toList, by simp, by decide, spelled⟩
    · have upper : c.isUpper = true := start.resolve_right digit
      have plain := Text.startsWithDigit_eq_false written (Bool.eq_false_iff.2 digit)
      have same : Text.afterLetter base = base := if_neg (by simp [plain])
      have image : Text.upperOf c = [c] := Text.upperOf_isUpper upper (kept c (written ▸ List.mem_cons_self))
      refine ⟨c, rest, ?_, upper, fun d mem => spelled d (written ▸ List.mem_cons_of_mem c mem)⟩
      rw [same, Text.capitalize, String.toList_ofList, written, Text.capitalizeChars, image]
      rfl

/-- The fields for a name in ASCII, whatever the name is: a capital for the server and a small letter for the
clients, with letters and digits behind it. In the mobile client there may be an underscore at the end, and
the field is no reserved word. -/
theorem fields_of_ascii (ascii : ∀ c ∈ wireName.toList, c.toNat < 128) :
    LettersAndDigits Char.isUpper (Server.fieldName (identifier wireName)) ∧
    (∃ stem, LettersAndDigits Char.isLower stem ∧
      (MobileClient.fieldName (identifier wireName) = stem ∨
        MobileClient.fieldName (identifier wireName) = stem ++ "_") ∧
      MobileClient.fieldName (identifier wireName) ∉ Text.dartReserved.words) ∧
    ∀ parameter : Api.Parameter, parameter.name = identifier wireName →
      LettersAndDigits Char.isLower (WebClient.parameterField parameter) := by
  have small := afterLetter_identifier ascii
  obtain ⟨marked, free⟩ := MobileClient.fieldName_identifier wireName
  refine ⟨Server.fieldName_identifier ascii, ⟨_, small, marked, ?_⟩, ?_⟩
  · exact fun reserved => Bool.eq_false_iff.1 free (List.contains_iff_mem.2 reserved)
  · intro parameter named
    rw [WebClient.parameterField, named]
    exact small

theorem await_fields :
    (∀ c ∈ "await".toList, c.toNat < 128) ∧
      LettersAndDigits Char.isUpper (Server.fieldName (identifier "await")) ∧
      Server.fieldName (identifier "await") = "Await" ∧
      MobileClient.fieldName (identifier "await") = "await_" ∧
      MobileClient.fieldName (identifier "await") ∉ Text.dartReserved.words := by
  have ascii : Ascii "await".toList := .of_all (by rfl)
  obtain ⟨server, ⟨-, -, -, free⟩, -⟩ := fields_of_ascii ascii
  exact ⟨ascii, server, by rfl, by rfl, free⟩

end OpenApiCodegen
