import OpenApiCodegen.Api.Operation
import OpenApiCodegen.Proofs.Text.Casing

namespace OpenApiCodegen.Api

open Text (digit_bounds forall_digit)

/-- `hundreds` stands for the codes with a first digit, `others` for all statuses that are left. -/
inductive StatusKey where
  | code (status : Nat)
  | hundreds (digit : Nat)
  | others
  deriving DecidableEq

def digitValue (c : Char) : Nat :=
  c.toNat - '0'.toNat

/-- Three digits, a digit before two letters X in any case, or the word `default`. -/
def StatusKey.read? (status : String) : Option StatusKey :=
  if status = "default" then some others
  else
    match status.toList with
    | [a, b, c] =>
      if a.isDigit && b.isDigit && c.isDigit then
        some (code (100 * digitValue a + 10 * digitValue b + digitValue c))
      else if a.isDigit && (b = 'X' || b = 'x') && (c = 'X' || c = 'x') then
        some (hundreds (digitValue a))
      else none
    | _ => none

def StatusClass.ofHundreds : Nat → StatusClass
  | 2 => success
  | 4 => clientError
  | 5 => serverError
  | _ => other

def StatusKey.statusClass : StatusKey → StatusClass
  | code status => .ofHundreds (status / 100)
  | hundreds digit => .ofHundreds digit
  | others => .other

section Digits

variable {a c : Char} {rest : List Char}

theorem digitValue_lt (digit : c.isDigit = true) : digitValue c < 10 :=
  forall_digit (P := fun c => digitValue c < 10) (by decide) digit

theorem digitValue_inj (digit : a.isDigit = true) (digit' : c.isDigit = true)
    (same : digitValue a = digitValue c) : a = c := by
  have zero : '0'.toNat = 48 := rfl
  have bounds := digit_bounds digit
  have bounds' := digit_bounds digit'
  simp only [digitValue, zero] at same
  exact Char.toNat_inj.1 (by omega)

theorem toUpper_of_digit (digit : c.isDigit = true) : c.toUpper = c :=
  forall_digit (P := fun c => c.toUpper = c) (by decide) digit

theorem statusClass_of_digit {status : String} (written : status.toList = a :: rest)
    (digit : a.isDigit = true) : StatusClass.of status = .ofHundreds (digitValue a) := by
  have head : StatusClass.of status = .of (String.singleton a) := by
    simp only [StatusClass.of, written, String.toList_singleton, List.head?_cons]
  rw [head]
  exact forall_digit (P := fun a => StatusClass.of (String.singleton a) = .ofHundreds (digitValue a))
    (by decide) digit

end Digits

inductive StatusKey.Spells : StatusKey → List Char → Prop
  | code {a b c : Char} : a.isDigit = true → b.isDigit = true → c.isDigit = true →
      Spells (.code (100 * digitValue a + 10 * digitValue b + digitValue c)) [a, b, c]
  | hundreds {a b c : Char} : a.isDigit = true → b = 'X' ∨ b = 'x' → c = 'X' ∨ c = 'x' →
      Spells (.hundreds (digitValue a)) [a, b, c]
  | others : Spells .others "default".toList

theorem StatusKey.spells_of_read? {status : String} {key : StatusKey} (read : read? status = some key) :
    key.Spells status.toList := by
  unfold read? at read
  split at read
  · rename_i word
    cases read
    exact word ▸ .others
  · split at read
    · rename_i a b c written
      rw [written]
      split at read
      · rename_i digits
        cases read
        simp only [Bool.and_eq_true] at digits
        exact .code digits.1.1 digits.1.2 digits.2
      · split at read
        · rename_i wild
          cases read
          simp only [Bool.and_eq_true, Bool.or_eq_true, decide_eq_true_eq] at wild
          exact .hundreds wild.1.1 wild.1.2 wild.2
        · cases read
    · cases read

section Texts

variable {text : String} {a b c : Char}

theorem isX_toUpper (letter : b = 'X' ∨ b = 'x') : b.toUpper = 'X' := by
  rcases letter with rfl | rfl <;> decide

theorem ne_X_of_digit (digit : b.isDigit = true) : b ≠ 'X' := by
  rintro rfl
  cases digit

theorem codeText?_of_digits (written : text.toList = [a, b, c]) (first : a.isDigit = true)
    (second : b.isDigit = true) (third : c.isDigit = true) :
    codeText? text = some (100 * digitValue a + 10 * digitValue b + digitValue c) := by
  have unsigned : a ≠ '+' := by
    rintro rfl
    cases first
  have high := digitValue_lt first
  have middle := digitValue_lt second
  have low := digitValue_lt third
  have limit : powerOfTwo 16 = 65536 := by decide
  have value : 10 * (10 * (10 * 0 + digitValue a) + digitValue b) + digitValue c =
      100 * digitValue a + 10 * digitValue b + digitValue c := by omega
  unfold codeText?
  rw [written]
  split
  · rename_i signed
    exact absurd (List.cons.inj signed).1 unsigned
  · rw [if_neg (by simp [first, second, third])]
    show (if 10 * (10 * (10 * 0 + digitValue a) + digitValue b) + digitValue c < powerOfTwo 16 then
      some (10 * (10 * (10 * 0 + digitValue a) + digitValue b) + digitValue c) else none) = _
    rw [value, if_pos (by omega)]

theorem codeText?_of_letter (written : text.toList = [a, b, c]) (first : a.isDigit = true)
    (letter : b = 'X' ∨ b = 'x') : codeText? text = none := by
  have other : b.isDigit = false := by rcases letter with rfl | rfl <;> decide
  have unsigned : a ≠ '+' := by
    rintro rfl
    cases first
  unfold codeText?
  rw [written]
  split
  · rename_i signed
    exact absurd (List.cons.inj signed).1 unsigned
  · rw [if_pos (by simp [other])]

end Texts

theorem StatusKey.Spells.capitals_eq_iff {key other : StatusKey} {text text' : List Char}
    (spells : key.Spells text) (spells' : other.Spells text') :
    text.map Char.toUpper = text'.map Char.toUpper ↔ key = other := by
  cases spells with
  | @code a b c first second third =>
    cases spells' with
    | @code a' b' c' first' second' third' =>
      simp only [List.map_cons, List.map_nil, toUpper_of_digit, *, List.cons.injEq, and_true, code.injEq]
      have low := digitValue_lt third
      have low' := digitValue_lt third'
      have middle := digitValue_lt second
      have middle' := digitValue_lt second'
      constructor
      · rintro ⟨rfl, rfl, rfl⟩
        rfl
      · intro same
        exact ⟨digitValue_inj first first' (by omega), digitValue_inj second second' (by omega),
          digitValue_inj third third' (by omega)⟩
    | hundreds first' letter =>
      simp only [List.map_cons, toUpper_of_digit second, isX_toUpper letter, List.cons.injEq, reduceCtorEq,
        iff_false]
      exact fun same => ne_X_of_digit second same.2.1
    | others => simp
  | @hundreds a b c first letter letter' =>
    cases spells' with
    | code _ second' =>
      simp only [List.map_cons, toUpper_of_digit second', isX_toUpper letter, List.cons.injEq, reduceCtorEq,
        iff_false]
      exact fun same => ne_X_of_digit second' same.2.1.symm
    | @hundreds a' b' c' first' second' third' =>
      simp only [List.map_cons, List.map_nil, toUpper_of_digit, isX_toUpper, *, List.cons.injEq, and_true,
        hundreds.injEq]
      exact ⟨congrArg digitValue, digitValue_inj first first'⟩
    | others => simp
  | others => cases spells' <;> simp

structure StatusKey.Settles (key : StatusKey) (response : Response) : Prop where
  wildcard : response.isWildcard = true ↔ ∃ digit, key = hundreds digit
  statusClass : response.statusClass = key.statusClass
  code : ∀ status, key = code status → response.code? = some status
  base : ∀ digit, key = hundreds digit → response.code? = (StatusClass.ofHundreds digit).baseCode?

theorem StatusKey.settles {response : Response} {key : StatusKey} (read : read? response.status = some key) :
    key.Settles response := by
  have spells := spells_of_read? read
  generalize written : response.status.toList = text at spells
  cases spells with
  | @code a b c first second third =>
    have middle := digitValue_lt second
    have low := digitValue_lt third
    have plain : response.isWildcard = false := by
      have other : b.toUpper ≠ 'X' := (toUpper_of_digit second).trans_ne (ne_X_of_digit second)
      simp [Response.isWildcard, written, other]
    constructor
    · simp [plain]
    · rw [Response.statusClass, statusClass_of_digit written first]
      exact congrArg StatusClass.ofHundreds (by omega)
    · rintro _ ⟨⟩
      rw [Response.code?, codeText?_of_digits written first second third, Option.some_or]
    · exact fun _ impossible => nomatch impossible
  | @hundreds a b c first second third =>
    have ascii : a.toNat < 0x80 := forall_digit (P := fun a => a.toNat < 0x80) (by decide) first
    have group : response.statusClass = .ofHundreds (digitValue a) := statusClass_of_digit written first
    constructor
    · simp [Response.isWildcard, written, ascii, isX_toUpper second, isX_toUpper third]
    · exact group
    · exact fun _ impossible => nomatch impossible
    · rintro _ ⟨⟩
      rw [Response.code?, codeText?_of_letter written first second, Option.none_or, group]
  | others =>
    constructor
    · simp [Response.isWildcard, written]
    · rw [Response.statusClass, StatusClass.of, written]
      decide
    · exact fun _ impossible => nomatch impossible
    · exact fun _ impossible => nomatch impossible

end OpenApiCodegen.Api
