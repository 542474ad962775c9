import Mathlib.Data.List.Forall2
import OpenApiCodegen.Proofs.Output.CodeText
import OpenApiCodegen.Proofs.Text.Capitals
import OpenApiCodegen.Proofs.Text.Literals

namespace OpenApiCodegen.Server

def isSmallLetter (c : Char) : Bool :=
  97 ≤ c.toNat && c.toNat ≤ 122

/-- A letter, a digit or an underscore. All characters beyond ASCII are taken for letters. -/
def isWordChar (c : Char) : Bool :=
  isSmallLetter c || 65 ≤ c.toNat && c.toNat ≤ 90 || 48 ≤ c.toNat && c.toNat ≤ 57 || c.toNat = 95 || 128 ≤ c.toNat

/-- What a reader of Go has in front. A `word` begins with a small letter and stands behind no dot, and
its letters are in reverse; a `selected` word is any other. -/
inductive Place where
  | between
  | word (letters : List Char)
  | selected
  | quoted
  | escaped
  | raw
  | slash
  | comment
  deriving DecidableEq

namespace Place

def enter (c : Char) : Place :=
  if isWordChar c then (if isSmallLetter c then word [c] else selected)
  else if c = '.' then selected
  else if c = '"' then quoted
  else if c = '`' then raw
  else if c = '/' then slash
  else between

def next (place : Place) (c : Char) : Place :=
  match place with
  | between => enter c
  | word letters => if isWordChar c then word (c :: letters) else enter c
  | selected => if isWordChar c then selected else enter c
  | quoted => if c = '"' then between else if c = '\\' then escaped else quoted
  | escaped => quoted
  | raw => if c = '`' then between else raw
  | slash => if c = '/' then comment else enter c
  | comment => if c = '\n' then between else comment

def ended (place : Place) (c : Char) : List String :=
  match place with
  | word letters => if c = '.' then [String.ofList letters.reverse] else []
  | _ => []

def through (place : Place) (text : List Char) : Place :=
  text.foldl next place

def qualifiers : Place → List Char → List String
  | _, [] => []
  | place, c :: rest => place.ended c ++ qualifiers (place.next c) rest

end Place

/-- The small words in front of dots. They are packages, or variables. -/
def qualifiers (text : String) : List String :=
  Place.between.qualifiers text.toList

def localNames : List String :=
  ["candidate", "doc", "e", "err", "head", "mux", "params", "r", "route", "router", "specOnce", "status", "u", "w"]

def namedPackages (text : String) : List String :=
  (qualifiers text).filter fun name => !localNames.contains name

/-- Reading leads from one place to another and meets these packages. -/
structure Scans (place : Place) (text : List Char) (next : Place) (found : List String) : Prop where
  leads : place.through text = next
  meets : (place.qualifiers text).filter (fun name => !localNames.contains name) = found

section Scanning

variable {place next after : Place} {text more : List Char} {found others : List String} {c : Char}

theorem qualifiers_append (place : Place) (text more : List Char) :
    place.qualifiers (text ++ more) = place.qualifiers text ++ (place.through text).qualifiers more := by
  induction text generalizing place with
  | nil => rfl
  | cons c text ih => rw [List.cons_append, Place.qualifiers, Place.qualifiers, ih, List.append_assoc]; rfl

namespace Scans

theorem nil (place : Place) : Scans place [] place [] :=
  ⟨rfl, rfl⟩

theorem append (first : Scans place text next found) (second : Scans next more after others) :
    Scans place (text ++ more) after (found ++ others) := by
  obtain ⟨rfl, rfl⟩ := first
  obtain ⟨rfl, rfl⟩ := second
  exact ⟨List.foldl_append, by rw [qualifiers_append, List.filter_append]⟩

theorem stay (stays : ∀ c ∈ text, place.next c = place ∧ place.ended c = []) : Scans place text place [] := by
  induction text with
  | nil => exact nil place
  | cons c text ih =>
    obtain ⟨same, none⟩ := stays c (by simp)
    obtain ⟨leads, meets⟩ := ih fun d mem => stays d (by simp [mem])
    constructor
    · rw [Place.through, List.foldl_cons, same]
      exact leads
    · rw [Place.qualifiers, same, none]
      exact meets

end Scans

theorem scans_fixed (place : Place) (text : List Char) : Scans place text (place.through text)
    ((place.qualifiers text).filter fun name => !localNames.contains name) :=
  ⟨rfl, rfl⟩

def Place.InWord : Place → Prop
  | between | word _ | selected => True
  | _ => False

theorem Place.InWord.step (inWord : place.InWord) (ends : isWordChar c = false) (noDot : c ≠ '.') :
    place.next c = .enter c ∧ place.ended c = [] := by
  cases place with
  | between => exact ⟨rfl, rfl⟩
  | word letters => exact ⟨if_neg (by simp [ends]), if_neg noDot⟩
  | selected => exact ⟨if_neg (by simp [ends]), rfl⟩
  | quoted | escaped | raw | slash | comment => exact inWord.elim

theorem Scans.of_between (inWord : place.InWord) (ends : isWordChar c = false) (noDot : c ≠ '.')
    (scans : Scans .between (c :: text) next found) : Scans place (c :: text) next found := by
  obtain ⟨same, none⟩ := inWord.step ends noDot
  obtain ⟨leads, meets⟩ := scans
  constructor
  · rw [Place.through, List.foldl_cons, same]
    exact leads
  · rw [Place.qualifiers, same, none]
    exact meets

theorem scans_word (inWord : place.InWord) (plain : ∀ c ∈ text, isWordChar c = true) :
    ∃ next, next.InWord ∧ Scans place text next [] := by
  induction text generalizing place with
  | nil => exact ⟨place, inWord, .nil place⟩
  | cons c text ih =>
    have letter : isWordChar c = true := plain c (by simp)
    have noDot : c ≠ '.' := by
      rintro rfl
      exact absurd letter (by decide)
    have step : (place.next c).InWord ∧ place.ended c = [] := by
      cases place with
      | between =>
        refine ⟨?_, rfl⟩
        rw [Place.next, Place.enter, if_pos letter]
        split <;> trivial
      | word letters =>
        rw [Place.next, if_pos letter]
        exact ⟨trivial, if_neg noDot⟩
      | selected =>
        rw [Place.next, if_pos letter]
        exact ⟨trivial, rfl⟩
      | quoted | escaped | raw | slash | comment => exact inWord.elim
    obtain ⟨next, ends, leads, meets⟩ := ih step.1 fun d mem => plain d (by simp [mem])
    refine ⟨next, ends, leads, ?_⟩
    rw [Place.qualifiers, step.2]
    exact meets

theorem scans_selected (plain : ∀ c ∈ text, isWordChar c = true) : Scans .selected text .selected [] :=
  .stay fun c mem => ⟨if_pos (plain c mem), rfl⟩

theorem scans_inQuotes (plain : ∀ c ∈ text, isWordChar c = true) : Scans .quoted text .quoted [] := by
  refine .stay fun c mem => ⟨?_, rfl⟩
  have letter := plain c mem
  have quote : c ≠ '"' := by
    rintro rfl
    exact absurd letter (by decide)
  have backslash : c ≠ '\\' := by
    rintro rfl
    exact absurd letter (by decide)
  rw [Place.next, if_neg quote, if_neg backslash]

theorem scans_inRaw (plain : '`' ∉ text) : Scans .raw text .raw [] :=
  .stay fun _ mem => ⟨if_neg (ne_of_mem_of_not_mem mem plain), rfl⟩

theorem scans_inComment (plain : '\n' ∉ text) : Scans .comment text .comment [] :=
  .stay fun _ mem => ⟨if_neg (ne_of_mem_of_not_mem mem plain), rfl⟩

end Scanning

def Term (text : String) (found : List String) : Prop :=
  ∃ next, Place.InWord next ∧ Scans .between text.toList next found

/-- A piece of a line: a fixed text, or one of which only this is known. A `word` has letters only, a
`term` names no packages and a `type` those of the line, a `tag` is inside of backticks, and a `note` in
a comment. -/
inductive Slot where
  -- The characters stand beside the text, since a literal is slow to take apart.
  | fixed (text : String) {chars : List Char} (spelled : text = String.ofList chars)
  | word
  | term
  | type
  | tag
  | note

inductive State where
  | known (place : Place)
  | vague

def State.Covers : State → Place → Prop
  | known place, other => other = place
  | vague, place => place.InWord

/-- The state behind a slot, and the packages in it; `none` stands for those of the type of the line. -/
def Slot.step : Slot → State → Option (State × List (Option String))
  | @fixed _ chars _, .known place =>
    some (.known (place.through chars),
      ((place.qualifiers chars).filter fun name => !localNames.contains name).map some)
  | @fixed _ chars _, .vague =>
    if chars.head?.any fun c => !isWordChar c && c != '.' then
      some (.known (Place.between.through chars),
        ((Place.between.qualifiers chars).filter fun name => !localNames.contains name).map some)
    else none
  | word, .known .selected => some (.known .selected, [])
  | word, .known .quoted => some (.known .quoted, [])
  | word, .known .between => some (.vague, [])
  | word, .known (.word _) => some (.vague, [])
  | word, .vague => some (.vague, [])
  | term, .known .between => some (.vague, [])
  | type, .known .between => some (.vague, [none])
  | tag, .known .raw => some (.known .raw, [])
  | note, .known .comment => some (.known .comment, [])
  | _, _ => none

def IsWord (text : String) : Prop :=
  ∀ c ∈ text.toList, isWordChar c = true

instance (text : String) : Decidable (IsWord text) :=
  List.decidableBAll _ text.toList

def Slot.Fits (names : List String) : Slot → String → Prop
  | fixed text _, written => written = text
  | word, written => IsWord written
  | term, written => Term written []
  | type, written => Term written names
  | tag, written => '`' ∉ written.toList
  | note, written => '\n' ∉ written.toList

def resolve (names : List String) (found : List (Option String)) : List String :=
  found.flatMap fun name => (name.map ([·])).getD names

section Slots

variable {slot : Slot} {state state' : State} {place : Place} {names : List String} {text : String}
  {found : List (Option String)}

theorem resolve_map_some (names fixed : List String) : resolve names (fixed.map some) = fixed := by
  simp [resolve, List.flatMap_map]

theorem step_fixed {chars : List Char} {spelled : text = String.ofList chars}
    (step : (Slot.fixed text spelled).step state = some (state', found)) (covers : state.Covers place) :
    ∃ next, state'.Covers next ∧ Scans place text.toList next (resolve names found) := by
  rw [spelled, String.toList_ofList]
  cases state with
  | known known =>
    obtain rfl : place = known := covers
    cases step
    rw [resolve_map_some]
    exact ⟨_, rfl, scans_fixed place chars⟩
  | vague =>
    simp only [Slot.step, Option.ite_none_right_eq_some, Option.some.injEq, Prod.mk.injEq] at step
    obtain ⟨starts, rfl, rfl⟩ := step
    cases chars with
    | nil => simp at starts
    | cons c rest =>
      have ends : isWordChar c = false ∧ c ≠ '.' := by simpa using starts
      rw [resolve_map_some]
      exact ⟨_, rfl, .of_between covers ends.1 ends.2 (scans_fixed .between (c :: rest))⟩

theorem step_word (step : Slot.word.step state = some (state', found)) (covers : state.Covers place)
    (plain : ∀ c ∈ text.toList, isWordChar c = true) :
    ∃ next, state'.Covers next ∧ Scans place text.toList next (resolve names found) := by
  cases state with
  | known known =>
    obtain rfl : place = known := covers
    cases place <;> cases step
    · have inWord : Place.between.InWord := trivial
      exact scans_word inWord plain
    · have inWord : ∀ letters, (Place.word letters).InWord := fun _ => trivial
      exact scans_word (inWord _) plain
    · exact ⟨_, rfl, scans_selected plain⟩
    · exact ⟨_, rfl, scans_inQuotes plain⟩
  | vague =>
    cases step
    exact scans_word covers plain

theorem step_sound (step : slot.step state = some (state', found)) (covers : state.Covers place)
    (fits : slot.Fits names text) :
    ∃ next, state'.Covers next ∧ Scans place text.toList next (resolve names found) := by
  cases slot with
  | fixed written spelled =>
    obtain rfl : text = written := fits
    exact step_fixed step covers
  | word => exact step_word step covers fits
  | term =>
    rcases state with known | _ <;> [rcases known; skip] <;> cases step
    obtain rfl : place = .between := covers
    exact fits
  | type =>
    rcases state with known | _ <;> [rcases known; skip] <;> cases step
    obtain rfl : place = .between := covers
    have own : resolve names [none] = names := by simp [resolve]
    exact own.symm ▸ fits
  | tag =>
    rcases state with known | _ <;> [rcases known; skip] <;> cases step
    obtain rfl : place = .raw := covers
    exact ⟨_, rfl, scans_inRaw fits⟩
  | note =>
    rcases state with known | _ <;> [rcases known; skip] <;> cases step
    obtain rfl : place = .comment := covers
    exact ⟨_, rfl, scans_inComment fits⟩

end Slots

def fillFrom (front : String) : List Slot → List String → String
  | [], _ => front
  | .fixed text _ :: rest, texts => fillFrom (front ++ text) rest texts
  | _ :: rest, text :: texts => fillFrom (front ++ text) rest texts
  | _ :: _, [] => front

def fill : List Slot → List String → String
  | [], _ => ""
  | .fixed text _ :: rest, texts => fillFrom text rest texts
  | _ :: rest, text :: texts => fillFrom text rest texts
  | _ :: _, [] => ""

def FitsAll (names : List String) : List Slot → List String → Prop
  | [], _ => True
  | .fixed _ _ :: rest, texts => FitsAll names rest texts
  | slot :: rest, text :: texts => slot.Fits names text ∧ FitsAll names rest texts
  | _ :: _, [] => False

def run : List Slot → State → Option (State × List (Option String))
  | [], state => some (state, [])
  | slot :: rest, state =>
    (slot.step state).bind fun first =>
      (run rest first.1).map fun others => (others.1, first.2 ++ others.2)

def lineNames (slots : List Slot) : Option (List (Option String)) :=
  match run (slots ++ [.fixed "\n" rfl]) (.known .between) with
  | some (.known .between, found) => some found
  | _ => none

section Lines

variable {slots : List Slot} {state state' : State} {place : Place} {names : List String}
  {texts : List String} {front : String} {before : List String} {found : List (Option String)}

theorem resolve_append (names : List String) (found others : List (Option String)) :
    resolve names (found ++ others) = resolve names found ++ resolve names others :=
  List.flatMap_append

/-- By induction on the slots: each goes on from a place that its state covers. -/
theorem run_sound (runs : run slots state = some (state', found)) (covers : state.Covers place)
    (fits : FitsAll names slots texts) (scans : Scans .between front.toList place before) :
    ∃ next, state'.Covers next ∧
      Scans .between (fillFrom front slots texts).toList next (before ++ resolve names found) := by
  induction slots generalizing state place texts front before found with
  | nil =>
    cases runs
    rw [resolve, List.flatMap_nil, List.append_nil]
    exact ⟨place, covers, scans⟩
  | cons slot rest ih =>
    obtain ⟨⟨middle, first⟩, step, others⟩ := Option.bind_eq_some_iff.1 runs
    obtain ⟨⟨last, later⟩, runsOn, same⟩ := Option.map_eq_some_iff.1 others
    cases same
    have goOn : ∀ text more, slot.Fits names text → FitsAll names rest more →
        ∃ next, last.Covers next ∧ Scans .between (fillFrom (front ++ text) rest more).toList next
          (before ++ resolve names (first ++ later)) := by
      intro text more fits fitsAll
      obtain ⟨next, covers, scans'⟩ := step_sound step covers fits
      have both := scans.append scans'
      rw [← String.toList_append] at both
      rw [resolve_append, ← List.append_assoc]
      exact ih runsOn covers fitsAll both
    cases slot with
    | fixed text spelled => exact goOn text texts rfl fits
    | word | term | type | tag | note =>
      cases texts with
      | nil => exact fits.elim
      | cons text texts => exact goOn text texts fits.1 fits.2

theorem fill_eq (slots : List Slot) (texts : List String) : fill slots texts = fillFrom "" slots texts := by
  unfold fill
  split
  · rfl
  all_goals simp [fillFrom]

theorem fillFrom_append (front : String) (fits : FitsAll names slots texts) {more : String} {chars : List Char}
    (spelled : more = String.ofList chars) :
    fillFrom front (slots ++ [.fixed more spelled]) texts = fillFrom front slots texts ++ more := by
  induction slots generalizing texts front with
  | nil => rfl
  | cons slot rest ih =>
    cases slot with
    | fixed text => exact ih _ fits
    | word | term | type | tag | note =>
      cases texts with
      | nil => exact fits.elim
      | cons text texts => exact ih _ fits.2

theorem fitsAll_append (fits : FitsAll names slots texts) {more : String} {chars : List Char}
    (spelled : more = String.ofList chars) : FitsAll names (slots ++ [.fixed more spelled]) texts := by
  induction slots generalizing texts with
  | nil => exact trivial
  | cons slot rest ih =>
    cases slot with
    | fixed text => exact ih fits
    | word | term | type | tag | note =>
      cases texts with
      | nil => exact fits.elim
      | cons text texts => exact ⟨fits.1, ih fits.2⟩

def termNames (slots : List Slot) : Option (List (Option String)) :=
  match run slots (.known .between) with
  | some (.known .between, found) => some found
  | some (.known (.word _), found) => some found
  | some (.known .selected, found) => some found
  | some (.vague, found) => some found
  | _ => none

theorem term_fill (slots : List Slot) (texts : List String) {text : String} (same : text = fill slots texts)
    (reads : termNames slots = some found) (fits : FitsAll names slots texts) :
    Term text (resolve names found) := by
  have start : Scans .between "".toList .between [] := .nil .between
  rw [same, fill_eq]
  unfold termNames at reads
  split at reads
  · rename_i runs
    cases reads
    obtain ⟨next, rfl, scans⟩ := run_sound runs rfl fits start
    exact ⟨.between, trivial, scans⟩
  · rename_i runs
    cases reads
    obtain ⟨next, rfl, scans⟩ := run_sound runs rfl fits start
    exact ⟨.word _, trivial, scans⟩
  · rename_i runs
    cases reads
    obtain ⟨next, rfl, scans⟩ := run_sound runs rfl fits start
    exact ⟨.selected, trivial, scans⟩
  · rename_i runs
    cases reads
    exact run_sound runs rfl fits start
  · cases reads

theorem scans_line (reads : lineNames slots = some found) (fits : FitsAll names slots texts) :
    Scans .between (fill slots texts ++ "\n").toList .between (resolve names found) := by
  unfold lineNames at reads
  split at reads
  · rename_i others runs
    cases reads
    have start : Scans .between "".toList .between [] := .nil .between
    obtain ⟨next, rfl, scans⟩ := run_sound runs rfl (fitsAll_append fits _) start
    rwa [fill_eq, ← fillFrom_append "" fits]
  · cases reads

end Lines

/-- The packages that code names something of. Read from outside of all words, literals and comments, it
leads back there. -/
def Names (code : List Code) (found : List String) : Prop :=
  ∀ depth, Scans .between (Code.textOfAll indent depth code).toList .between found

section Words

theorem isSmallLetter_eq (c : Char) : isSmallLetter c = c.isLower := by
  have written : c.isLower = (c.val ≥ 97 && c.val ≤ 122) := rfl
  simp only [isSmallLetter, written, UInt32.le_iff_toNat_le, ge_iff_le]
  rfl

theorem isWordChar_iff {c : Char} : isWordChar c = true ↔ Text.NameChar c := by
  have underscore : c.toNat = 95 ↔ c = '_' :=
    ⟨fun same => Char.ext (UInt32.toNat_inj.1 same), fun same => same ▸ rfl⟩
  have upper : (65 ≤ c.toNat && c.toNat ≤ 90) = c.isUpper := by
    have written : c.isUpper = decide (c.val ≥ 65 ∧ c.val ≤ 90) := rfl
    simp only [written, Bool.decide_and, UInt32.le_iff_toNat_le, ge_iff_le]
    rfl
  have digit : (48 ≤ c.toNat && c.toNat ≤ 57) = c.isDigit := by
    simp only [Char.isDigit, UInt32.le_iff_toNat_le, ge_iff_le]
    rfl
  have letter : c.isAlpha = (c.isUpper || c.isLower) := rfl
  rw [isWordChar, isSmallLetter_eq, upper, digit]
  simp only [Text.NameChar, Text.Spelled, letter, Bool.or_eq_true, decide_eq_true_eq, underscore]
  tauto

theorem isWord_of_capitalized {name : String} (capitalized : Text.Capitalized name.toList) : IsWord name :=
  fun c mem => isWordChar_iff.2 (capitalized.chars c mem)

theorem isWord_fixed {chars : List Char} (letters : chars.all isWordChar = true) : IsWord (String.ofList chars) := by
  rw [IsWord, String.toList_ofList]
  exact List.all_eq_true.1 letters

theorem isWord_of_digits {text : String} (digits : ∀ c ∈ text.toList, c.isDigit = true) : IsWord text :=
  isWord_of_capitalized (.digits digits)

theorem isWord_nat (n : Nat) : IsWord (toString n) := by
  refine isWord_of_digits fun c mem => ?_
  rw [Nat.toString_eq_repr, Nat.toList_repr] at mem
  exact Nat.isDigit_of_mem_toDigits (by decide) (by decide) mem

theorem IsWord.append {text more : String} (word : IsWord text) (rest : IsWord more) :
    IsWord (text ++ more) := by
  intro c mem
  rw [String.toList_append, List.mem_append] at mem
  exact mem.elim (word c) (rest c)

theorem IsWord.not_mem {text : String} (word : IsWord text) {c : Char} (other : isWordChar c = false) :
    c ∉ text.toList := by
  intro mem
  rw [word c mem] at other
  cases other

end Words

section Terms

variable {text : String} {names found : List String}

theorem term_typed (slots : List Slot) (texts : List String) (same : text = fill slots texts)
    (reads : termNames slots = some [none]) (fits : FitsAll names slots texts) : Term text names := by
  have term := term_fill slots texts same reads fits
  have own : resolve names [none] = names := by simp [resolve]
  rwa [own] at term

theorem term_plain (slots : List Slot) (texts : List String) (same : text = fill slots texts)
    (reads : termNames slots = some (found.map some)) (fits : FitsAll [] slots texts) : Term text found := by
  have term := term_fill slots texts same reads fits
  rwa [resolve_map_some] at term

theorem term_fixed {chars : List Char}
    (reads : termNames [.fixed (String.ofList chars) rfl] = some (found.map some)) : Term (String.ofList chars) found :=
  term_plain [.fixed (String.ofList chars) rfl] [] rfl reads trivial

theorem term_word (word : IsWord text) : Term text [] :=
  term_plain [.word] [text] rfl rfl ⟨word, trivial⟩

theorem scans_escaped (text : List Char) :
    Scans .quoted (Text.escapeChars Text.doubleQuoteSpecial text) .quoted [] := by
  induction text with
  | nil => exact .nil .quoted
  | cons c text ih =>
    rw [Text.escapeChars]
    split
    · have escaped : Scans .quoted [Text.backslash, c] .quoted [] := ⟨rfl, rfl⟩
      exact escaped.append ih
    · rename_i plain
      obtain ⟨backslash, special⟩ := not_or.1 plain
      have quote : c ≠ '"' := fun same => special (List.mem_singleton.2 same)
      have inside : Scans .quoted [c] .quoted [] :=
        .stay fun d mem => ⟨by
          rw [List.mem_singleton.1 mem, Place.next, if_neg quote]
          exact if_neg backslash, rfl⟩
      exact inside.append ih

theorem term_quoted (text : String) : Term (quoted text) [] := by
  have opened : Scans .between ['"'] .quoted [] := scans_fixed .between ['"']
  have closed : Scans .quoted ['"'] .between [] := scans_fixed .quoted ['"']
  have chars : (quoted text).toList =
      ['"'] ++ Text.escapeChars Text.doubleQuoteSpecial text.toList ++ ['"'] := by
    simp [quoted, Text.inDoubleQuotes, Text.escapeGo, String.toList_append]
  exact ⟨.between, trivial, chars ▸ (opened.append (scans_escaped text.toList)).append closed⟩

theorem Term.goOn {more : List Char} {next : Place} {found' : List String} {c : Char} (term : Term text found)
    (ends : isWordChar c = false) (noDot : c ≠ '.') (scans : Scans .between (c :: more) next found') :
    Scans .between (text.toList ++ c :: more) next (found ++ found') := by
  obtain ⟨place, inWord, own⟩ := term
  exact own.append (.of_between inWord ends noDot scans)

theorem term_commaSeparated {texts : List String} {found : List (List String)}
    (each : List.Forall₂ Term texts found) : Term (commaSeparated texts) found.flatten := by
  unfold commaSeparated
  induction each with
  | nil => exact ⟨.between, trivial, .nil .between⟩
  | @cons text names texts found term each ih =>
    cases each with
    | nil => simpa using term
    | @cons second others texts found term' each =>
      obtain ⟨next, inWord, scans⟩ := ih
      have comma : Scans .between [',', ' '] .between [] := scans_fixed .between [',', ' ']
      have whole := term.goOn (by decide) (by decide) (comma.append scans)
      refine ⟨next, inWord, ?_⟩
      rw [String.intercalate_cons_of_ne_nil (by simp), String.toList_append, String.toList_append,
        List.append_assoc]
      exact whole

end Terms

theorem scans_intercalate {texts : List String} {found : List (List String)}
    (each : List.Forall₂ (fun text names => Scans .between text.toList .between names) texts found) :
    Scans .between (String.intercalate "\n" texts).toList .between found.flatten := by
  induction each with
  | nil => exact .nil .between
  | @cons text names texts found scans each ih =>
    cases each with
    | nil => simpa using scans
    | cons _ each =>
      have gap : Scans .between "\n".toList .between [] := scans_fixed .between "\n".toList
      have whole := (scans.append gap).append ih
      rw [List.append_nil] at whole
      rw [String.intercalate_cons_of_ne_nil (by simp), String.toList_append, String.toList_append]
      exact whole

section Codes

variable {code other : List Code} {found others names : List String} {text : String}

theorem namedPackages_of_names (named : Names code found) : namedPackages (Code.render indent code) = found :=
  (named 0).meets

theorem scans_indentation (depth : Nat) :
    Scans .between (Code.indentation indent depth).toList .between [] := by
  refine .stay fun c mem => ?_
  have tab : c = '\t' := by
    have chars : c ∈ (List.replicate depth indent).flatMap String.toList := by
      rwa [Code.indentation, String.toList_join] at mem
    obtain ⟨unit, listed, mem⟩ := List.mem_flatMap.1 chars
    rw [List.eq_of_mem_replicate listed] at mem
    exact List.mem_singleton.1 mem
  subst tab
  decide

theorem names_nil : Names [] [] :=
  fun _ => .nil .between

theorem names_blank : Names [.blank] [] := by
  intro depth
  rw [Code.textOfAll_singleton, Code.text]
  exact scans_fixed .between "\n".toList

theorem names_line (slots : List Slot) (texts : List String) {found : List (Option String)}
    (same : text = fill slots texts) (reads : lineNames slots = some found)
    (fits : FitsAll names slots texts) : Names [.line text] (resolve names found) := by
  intro depth
  subst same
  rw [Code.textOfAll_singleton, Code.text, String.append_assoc, String.toList_append]
  exact (scans_indentation depth).append (scans_line reads fits)

theorem names_plain (slots : List Slot) (texts : List String) (same : text = fill slots texts)
    (reads : lineNames slots = some (found.map some)) (fits : FitsAll [] slots texts) :
    Names [.line text] found := by
  have named := names_line slots texts same reads fits
  rwa [resolve_map_some] at named

theorem names_fixed {chars : List Char} (reads : lineNames [.fixed (String.ofList chars) rfl] = some (found.map some)) :
    Names [.line (String.ofList chars)] found :=
  names_plain [.fixed (String.ofList chars) rfl] [] rfl reads trivial

theorem names_typed (slots : List Slot) (texts : List String) (same : text = fill slots texts)
    (reads : lineNames slots = some [none]) (fits : FitsAll names slots texts) :
    Names [.line text] names := by
  have named := names_line slots texts same reads fits
  have own : resolve names [none] = names := by simp [resolve]
  rwa [own] at named

namespace Names

theorem append (named : Names code found) (more : Names other others) :
    Names (code ++ other) (found ++ others) := by
  intro depth
  rw [Code.textOfAll_append, String.toList_append]
  exact (named depth).append (more depth)

theorem cons {first : Code} (head : Names [first] found) (tail : Names code others) :
    Names (first :: code) (found ++ others) :=
  head.append tail

theorem nested (named : Names code found) : Names [.nested code] found := by
  intro depth
  rw [Code.textOfAll_singleton, Code.text]
  exact named (depth + 1)

theorem block {head tail : String} {ends : List String} (named : Names code found)
    (opens : Names [.line (head ++ " \x7b")] others) (closes : Names [.line ("\x7d" ++ tail)] ends) :
    Names [.block head code tail] (others ++ (found ++ ends)) := by
  intro depth
  have whole := (opens.append (named.nested.append closes)) depth
  have same : Code.textOfAll indent depth [.block head code tail] = Code.textOfAll indent depth
      ([.line (head ++ " \x7b")] ++ ([.nested code] ++ [.line ("\x7d" ++ tail)])) := by
    simp [Code.textOfAll, Code.text, String.append_assoc]
  rwa [same]

theorem braced {head : String} (named : Names code found) (opens : Names [.line (head ++ " \x7b")] others) :
    Names [.block head code] (others ++ found) := by
  have closes : Names [.line "\x7d"] [] := names_fixed rfl
  rw [← String.append_empty (s := "\x7d")] at closes
  simpa using named.block opens closes

theorem below {head : List Char} (named : Names code found)
    (reads : lineNames [.fixed (String.ofList head) rfl, .fixed " \x7b" rfl] = some (others.map some)) :
    Names [.block (String.ofList head) code] (others ++ found) :=
  named.braced (names_plain [.fixed (String.ofList head) rfl, .fixed " \x7b" rfl] [] rfl reads trivial)

theorem flatMap {α : Type} {items : List α} {f : α → List Code} {g : α → List String}
    (each : ∀ item ∈ items, Names (f item) (g item)) : Names (items.flatMap f) (items.flatMap g) := by
  induction items with
  | nil => exact names_nil
  | cons first rest ih =>
    simp only [List.flatMap_cons]
    exact (each first (by simp)).append (ih fun item mem => each item (by simp [mem]))

theorem spaced {pieces : List (List Code)} {found : List (List String)}
    (each : List.Forall₂ Names pieces found) : Names (Code.spaced pieces) found.flatten := by
  induction each with
  | nil => exact names_nil
  | @cons piece names pieces found named each ih =>
    cases each with
    | nil => simpa [Code.spaced] using named
    | cons second each =>
      rw [Code.spaced_cons piece (by simp)]
      exact named.append (names_blank.append ih)

end Names

end Codes

end OpenApiCodegen.Server
