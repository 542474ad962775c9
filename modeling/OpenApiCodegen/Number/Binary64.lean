import OpenApiCodegen.Number.Power

namespace OpenApiCodegen

/-- `finite negative m p` stands for `m * 2^p / 2^1074`, with `m` below `2^53`, and not below `2^52`
unless `p` is zero. -/
inductive Binary64 where
  | nan
  | infinite (negative : Bool)
  | finite (negative : Bool) (significand shift : Nat)
  deriving DecidableEq, Inhabited

namespace Binary64

def unitExponent : Nat := 1074

def precision : Nat := 53

def maxShift : Nat := 2045

def zero (negative : Bool) : Binary64 := .finite negative 0 0

def roundQuotient (num den : Nat) : Nat :=
  let q := num / den
  let r := num % den
  if den < 2 * r ∨ (den = 2 * r ∧ q % 2 = 1) then q + 1 else q

def ofRounded (negative : Bool) (significand shift : Nat) : Binary64 :=
  let carried := significand = powerOfTwo precision
  let significand := if carried then powerOfTwo (precision - 1) else significand
  let shift := if carried then shift + 1 else shift
  if maxShift < shift then .infinite negative else .finite negative significand shift

def ofQuotient (negative : Bool) (num den : Nat) : Binary64 :=
  let units := num * powerOfTwo unitExponent
  let shift := (units / den).log2 - (precision - 1)
  ofRounded negative (roundQuotient units (den * powerOfTwo shift)) shift

def ofNat (negative : Bool) (n : Nat) : Binary64 :=
  ofQuotient negative n 1

def ofInt (n : Int) : Binary64 :=
  ofNat (n < 0) n.natAbs

def decimalLength (n : Nat) : Nat :=
  (Nat.toDigits 10 n).length

/-- The number nearest to `digits * 10^exponent`. Far outside the range the power is not built. -/
def ofDecimal (negative : Bool) (digits : Nat) (exponent : Int) : Binary64 :=
  let magnitude := decimalLength digits + exponent
  if digits = 0 ∨ magnitude < -330 then zero negative
  else if 310 < magnitude then .infinite negative
  else if 0 ≤ exponent then ofQuotient negative (digits * powerOfTen exponent.toNat) 1
  else ofQuotient negative digits (powerOfTen (-exponent).toNat)

def isFinite : Binary64 → Bool
  | finite .. => true
  | _ => false

def isZero : Binary64 → Bool
  | finite _ 0 _ => true
  | _ => false

def abs : Binary64 → Binary64
  | nan => nan
  | infinite _ => infinite false
  | finite _ m p => finite false m p

def belowZero : Binary64 → Bool
  | nan => false
  | infinite negative => negative
  | finite negative m _ => negative && m != 0

def equal : Binary64 → Binary64 → Bool
  | finite s m p, finite t n q => (m == 0 && n == 0) || (s == t && m == n && p == q)
  | infinite s, infinite t => s == t
  | _, _ => false

/-- The product of two magnitudes; anything but two finite numbers gives `nan`. -/
def mul : Binary64 → Binary64 → Binary64
  | finite s m p, finite t n q =>
    ofQuotient (s != t) (m * n * powerOfTwo (p + q)) (powerOfTwo (2 * unitExponent))
  | _, _ => nan

/-- The quotient of two magnitudes; anything but finite numbers and a divisor other than zero gives
`nan`. -/
def div : Binary64 → Binary64 → Binary64
  | finite s m p, finite t n q =>
    if n = 0 then nan else ofQuotient (s != t) (m * powerOfTwo p) (n * powerOfTwo q)
  | _, _ => nan

end Binary64

end OpenApiCodegen
