import OpenApiCodegen.Markup.CoreScalar
import OpenApiCodegen.Text.Basic

namespace OpenApiCodegen.Toml

def isTextChar (c : Char) : Bool :=
  c == '\t' || (0x20 ≤ c.toNat && c.toNat != 0x7F)

def isGrouped (isDigit : Char → Bool) (cs : List Char) : Bool :=
  (Text.splitOn '_' cs).all fun group => !group.isEmpty && group.all isDigit

def withoutUnderscores (cs : List Char) : List Char :=
  cs.filter (· != '_')

def isDecimal (cs : List Char) : Bool :=
  isGrouped Char.isDigit cs && (cs.length == 1 || cs.head? != some '0')

def groupedValue? (radix : Nat) (cs : List Char) : Option Nat :=
  if isGrouped (fun c => (Markup.digitValue? radix c).isSome) cs then
    Markup.digitsValue? radix (withoutUnderscores cs)
  else none

/-- A whole number of 64 bits; only decimal digits may have a sign. -/
def isInteger (cs : List Char) : Bool :=
  let fits := fun (n? : Option Nat) => n?.any (· < powerOfTwo 63)
  match cs with
  | '0' :: 'x' :: digits => fits (groupedValue? 16 digits)
  | '0' :: 'o' :: digits => fits (groupedValue? 8 digits)
  | '0' :: 'b' :: digits => fits (groupedValue? 2 digits)
  | cs =>
    let (negative, digits) := Markup.signed cs
    isDecimal digits &&
      (groupedValue? 10 digits).any fun n => n < powerOfTwo 63 || (negative && n == powerOfTwo 63)

def cutExponent (cs : List Char) : List Char × Option (List Char) :=
  let isMark := fun c => c == 'e' || c == 'E'
  match cs.dropWhile (!isMark ·) with
  | _ :: exponent => (cs.takeWhile (!isMark ·), some exponent)
  | [] => (cs, none)

def isFraction (negative : Bool) (cs : List Char) : Bool :=
  let (mantissa, exponent) := cutExponent cs
  let (whole, places) := match Text.cutAt '.' mantissa with
    | some (whole, places) => (whole, some places)
    | none => (mantissa, none)
  isDecimal whole && (places.isSome || exponent.isSome) &&
    places.all (isGrouped Char.isDigit) &&
    exponent.all (fun digits => isGrouped Char.isDigit (Markup.dropSign digits)) &&
    Markup.fraction? negative (withoutUnderscores cs) != some (.infinite false)

def isReal (cs : List Char) : Bool :=
  let (negative, unsigned) := Markup.signed cs
  unsigned == "inf".toList || unsigned == "nan".toList || isFraction negative unsigned

def isTwoDigits (low high : Nat) (a b : Char) : Bool :=
  (Markup.digitsValue? 10 [a, b]).any fun n => low ≤ n && n ≤ high

def isLeapYear (year : Nat) : Bool :=
  year % 4 == 0 && (year % 100 != 0 || year % 400 == 0)

def daysInMonth (year month : Nat) : Nat :=
  if month = 2 then if isLeapYear year then 29 else 28
  else if [4, 6, 9, 11].contains month then 30
  else 31

def isDate (cs : List Char) : Bool :=
  match cs with
  | [y1, y2, y3, y4, '-', m1, m2, '-', d1, d2] =>
    match Markup.digitsValue? 10 [y1, y2, y3, y4], Markup.digitsValue? 10 [m1, m2] with
    | some year, some month =>
      1 ≤ month && month ≤ 12 && isTwoDigits 1 (daysInMonth year month) d1 d2
    | _, _ => false
  | _ => false

def isOffset (cs : List Char) : Bool :=
  match cs with
  | ['Z'] => true
  | ['z'] => true
  | [sign, h1, h2, ':', m1, m2] =>
    (sign == '+' || sign == '-') && isTwoDigits 0 23 h1 h2 && isTwoDigits 0 59 m1 m2
  | _ => false

def dropSecondFraction? : List Char → Option (List Char)
  | '.' :: rest =>
    if rest.head?.any Char.isDigit then some (rest.dropWhile Char.isDigit) else none
  | cs => some cs

def isTime (offset : Bool) (cs : List Char) : Bool :=
  match cs with
  | h1 :: h2 :: ':' :: m1 :: m2 :: ':' :: s1 :: s2 :: rest =>
    isTwoDigits 0 23 h1 h2 && isTwoDigits 0 59 m1 m2 && isTwoDigits 0 60 s1 s2 &&
      (dropSecondFraction? rest).any fun left => left.isEmpty || (offset && isOffset left)
  | _ => false

def isDateTime (cs : List Char) : Bool :=
  isDate (cs.take 10) &&
    match cs.drop 10 with
    | mark :: time => (mark == 'T' || mark == 't') && isTime true time
    | [] => false

def isNumberOrTime (cs : List Char) : Bool :=
  isInteger cs || isReal cs || isDate cs || isTime false cs || isDateTime cs

def isWordChar (c : Char) : Bool :=
  c.isAlphanum || c == '_' || c == '+' || c == '-' || c == '.' || c == ':'

/-- What follows a number or a point in time. A date and its time may have a blank between them. -/
def afterNumberOrTime? (cs : List Char) : Option (List Char) :=
  let word := cs.takeWhile isWordChar
  let rest := cs.dropWhile isWordChar
  if isNumberOrTime word then
    match rest with
    | ' ' :: more =>
      if isDate word && more.head?.any Char.isDigit then
        if isTime true (more.takeWhile isWordChar) then some (more.dropWhile isWordChar) else none
      else some rest
    | _ => some rest
  else none

def character? (code : Nat) : Option Char :=
  if h : code.isValidChar then some (Char.ofNatAux code h) else none

def simpleEscape? (c : Char) : Option Char :=
  match c with
  | 'b' => some '\x08'
  | 't' => some '\t'
  | 'n' => some '\n'
  | 'f' => some '\x0c'
  | 'r' => some '\r'
  | '"' => some '"'
  | '\\' => some '\\'
  | _ => none

def escape? : List Char → Option (Char × List Char)
  | 'u' :: a :: b :: c :: d :: rest => do
    some (← character? (← Markup.digitsValue? 16 [a, b, c, d]), rest)
  | 'U' :: a :: b :: c :: d :: e :: f :: g :: h :: rest => do
    some (← character? (← Markup.digitsValue? 16 [a, b, c, d, e, f, g, h]), rest)
  | c :: rest => (simpleEscape? c).map fun image => (image, rest)
  | [] => none

theorem length_escape? {cs rest : List Char} {c : Char} (h : escape? cs = some (c, rest)) :
    rest.length < cs.length := by
  unfold escape? at h
  split at h
  all_goals simp [Option.bind_eq_some_iff] at h
  · obtain ⟨_, _, _, _, _, rfl⟩ := h
    simp
    omega
  · obtain ⟨_, _, _, _, _, rfl⟩ := h
    simp
    omega
  · obtain ⟨_, _, _, rfl⟩ := h
    simp

def joinsLines (cs : List Char) : Bool :=
  (cs.dropWhile fun c => c == ' ' || c == '\t').head? == some '\n'

def basicText? : List Char → Option (List Char × List Char)
  | [] => none
  | '"' :: rest => some ([], rest)
  | '\\' :: rest =>
    match h : escape? rest with
    | some (c, left) => do
      have := length_escape? h
      let (cs, after) ← basicText? left
      some (c :: cs, after)
    | none => none
  | c :: rest => do
    if isTextChar c then
      let (cs, after) ← basicText? rest
      some (c :: cs, after)
    else none
termination_by cs => cs.length
decreasing_by all_goals simp_all; try omega

def closeBlock (quote : Char) : List Char → List Char × List Char
  | a :: b :: rest =>
    if a = quote ∧ b = quote then ([quote, quote], rest)
    else if a = quote then ([quote], b :: rest)
    else ([], a :: b :: rest)
  | [a] => if a = quote then ([quote], []) else ([], [a])
  | [] => ([], [])

/-- What stands between three double quotes and three more. After a backslash at the end of a line,
blanks and further ends of lines are skipped. -/
def basicBlock? (skipping : Bool) : List Char → Option (List Char × List Char)
  | [] => none
  | '"' :: '"' :: '"' :: rest => some (closeBlock '"' rest)
  | '\\' :: rest =>
    if joinsLines rest then basicBlock? true rest
    else
      match h : escape? rest with
      | some (c, left) => do
        have := length_escape? h
        let (cs, after) ← basicBlock? false left
        some (c :: cs, after)
      | none => none
  | c :: rest =>
    if skipping && (c == ' ' || c == '\t' || c == '\n') then basicBlock? true rest
    else if isTextChar c || c == '\n' then do
      let (cs, after) ← basicBlock? false rest
      some (c :: cs, after)
    else none
termination_by cs => cs.length
decreasing_by all_goals simp_all; try omega

def literalText? : List Char → Option (List Char × List Char)
  | [] => none
  | c :: rest =>
    if c = '\x27' then some ([], rest)
    else if isTextChar c then do
      let (cs, after) ← literalText? rest
      some (c :: cs, after)
    else none

def literalBlock? : List Char → Option (List Char × List Char)
  | [] => none
  | '\x27' :: '\x27' :: '\x27' :: rest => some (closeBlock '\x27' rest)
  | c :: rest =>
    if isTextChar c || c == '\n' then do
      let (cs, after) ← literalBlock? rest
      some (c :: cs, after)
    else none

def dropFirstBreak : List Char → List Char
  | '\n' :: rest => rest
  | cs => cs

def string? : List Char → Option (List Char × List Char)
  | '"' :: '"' :: '"' :: rest => basicBlock? false (dropFirstBreak rest)
  | '"' :: rest => basicText? rest
  | '\x27' :: '\x27' :: '\x27' :: rest => literalBlock? (dropFirstBreak rest)
  | '\x27' :: rest => literalText? rest
  | _ => none

end OpenApiCodegen.Toml
