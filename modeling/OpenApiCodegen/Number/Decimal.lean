import OpenApiCodegen.Number.Binary64

namespace OpenApiCodegen

structure Decimal where
  digits : Nat
  exponent : Int
  deriving DecidableEq

inductive Tie where
  | toEven
  | up
  deriving DecidableEq

namespace Decimal

/-- A positive rational together with the interval that rounds to one floating-point number, all
over one denominator. -/
structure Span where
  lower : Nat
  value : Nat
  upper : Nat
  denominator : Nat
  closed : Bool

/-- The reals that round to `significand * 2^shift / 2^1074`. The ends belong to it when the
significand is even; below a power of two the numbers lie twice as close. -/
def Span.of (significand shift : Nat) : Span :=
  let step := powerOfTwo shift
  let below := if significand = powerOfTwo (Binary64.precision - 1) ∧ shift ≠ 0 then 1 else 2
  { lower := (4 * significand - below) * step
    value := 4 * significand * step
    upper := (4 * significand + 2) * step
    denominator := powerOfTwo (Binary64.unitExponent + 2)
    closed := significand % 2 == 0 }

def Span.inUnits (span : Span) (exponent : Int) : Span :=
  if 0 ≤ exponent then
    { span with denominator := span.denominator * powerOfTen exponent.toNat }
  else
    let scale := powerOfTen (-exponent).toNat
    { span with
      lower := span.lower * scale
      value := span.value * scale
      upper := span.upper * scale }

def Span.contains (span : Span) (n : Nat) : Bool :=
  let x := n * span.denominator
  if span.closed then span.lower ≤ x && x ≤ span.upper else span.lower < x && x < span.upper

def Span.wholeNumber? (span : Span) (tie : Tie) : Option Nat :=
  let down := span.value / span.denominator
  let rest := 2 * (span.value % span.denominator)
  let preferUp : Bool :=
    if rest = span.denominator then
      match tie with
      | .up => true
      | .toEven => down % 2 == 1
    else decide (span.denominator < rest)
  match span.contains down, span.contains (down + 1) with
  | true, true => some (if preferUp then down + 1 else down)
  | true, false => some down
  | false, true => some (down + 1)
  | false, false => none

def searchGrid (span : Span) (tie : Tie) : Nat → Int → Decimal
  | 0, exponent => ⟨span.value / span.denominator, exponent⟩
  | n + 1, exponent =>
    match (span.inUnits exponent).wholeNumber? tie with
    | some digits => ⟨digits, exponent⟩
    | none => searchGrid span tie n (exponent - 1)

def dropZeros : Nat → Nat → Int → Decimal
  | 0, digits, exponent => ⟨digits, exponent⟩
  | n + 1, digits, exponent =>
    if digits ≠ 0 ∧ digits % 10 = 0 then dropZeros n (digits / 10) (exponent + 1)
    else ⟨digits, exponent⟩

def topExponent (significand shift : Nat) : Int :=
  let bits : Int := (significand.log2 : Int) + shift - Binary64.unitExponent
  (bits * 30103).fdiv 100000 + 1

def shortest (tie : Tie) (significand shift : Nat) : Decimal :=
  if significand = 0 then ⟨0, 0⟩
  else
    let found := searchGrid (Span.of significand shift) tie 20 (topExponent significand shift)
    dropZeros 20 found.digits found.exponent

def digitChars (d : Decimal) : List Char :=
  Nat.toDigits 10 d.digits

def pointPosition (d : Decimal) : Int :=
  d.digitChars.length + d.exponent

def zeros (n : Nat) : List Char :=
  List.replicate n '0'

/-- Digits and point without an exponent; a whole number has no point. -/
def positional (d : Decimal) : List Char :=
  let digits := d.digitChars
  let point := d.pointPosition
  if 0 ≤ d.exponent then digits ++ zeros d.exponent.toNat
  else if 0 < point then digits.take point.toNat ++ '.' :: digits.drop point.toNat
  else '0' :: '.' :: zeros (-point).toNat ++ digits

def scientific (d : Decimal) : List Char :=
  let power := d.pointPosition - 1
  let exponent := (if power < 0 then '-' else '+') :: Nat.toDigits 10 power.natAbs
  match d.digitChars with
  | [] => []
  | [digit] => digit :: 'e' :: exponent
  | digit :: rest => digit :: '.' :: rest ++ 'e' :: exponent

end Decimal

namespace Binary64

def signChars (negative : Bool) : List Char :=
  if negative then ['-'] else []

def plainText : Binary64 → String
  | nan => "NaN"
  | infinite negative => String.ofList (signChars negative ++ ['i', 'n', 'f'])
  | finite negative m p =>
    String.ofList (signChars negative ++ (Decimal.shortest .up m p).positional)

/-- How a finite number stands in JSON text: positional while the point falls no more than four
places before and sixteen after the first digit, with `.0` on whole numbers. -/
def jsonChars (d : Decimal) : List Char :=
  let point := d.pointPosition
  if d.digits = 0 then ['0', '.', '0']
  else if -5 < point ∧ point ≤ 16 then
    if 0 ≤ d.exponent then d.positional ++ ['.', '0'] else d.positional
  else d.scientific

def jsonText : Binary64 → String
  | finite negative m p =>
    String.ofList (signChars negative ++ jsonChars (Decimal.shortest .toEven m p))
  | _ => "null"

end Binary64

end OpenApiCodegen
