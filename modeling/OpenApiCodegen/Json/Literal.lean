import OpenApiCodegen.Json.Value
import OpenApiCodegen.Markup.CoreScalar

namespace OpenApiCodegen.Json

structure NumberLiteral where
  negative : Bool
  whole : List Char
  places : List Char
  exponentNegative : Bool
  exponent : List Char
  isWhole : Bool

def largestSignificand : Nat := powerOfTwo 64 - 1

/-- Takes digits into the significand while it stays within 64 bits; the second part holds the
digits left over. -/
def takeDigits (significand : Nat) : List Char → Nat × List Char
  | [] => (significand, [])
  | c :: rest =>
    let next := 10 * significand + (c.toNat - '0'.toNat)
    if largestSignificand < next then (significand, c :: rest) else takeDigits next rest

def largestPower : Nat := 308

def divideByPower (x : Binary64) (n : Nat) : Binary64 :=
  if n ≤ largestPower then x.div (Binary64.ofNat false (powerOfTen n))
  else if x.isZero then x
  else divideByPower (x.div (Binary64.ofNat false (powerOfTen largestPower))) (n - largestPower)
termination_by n
decreasing_by simp [largestPower] at *; omega

/-- `significand * 10^exponent`, each factor being rounded before the product or quotient is; none
if the result is too large. -/
def scaled? (significand : Nat) (exponent : Int) : Option Binary64 :=
  let x := Binary64.ofNat false significand
  if exponent < 0 then some (divideByPower x exponent.natAbs)
  else if x.isZero then some x
  else if largestPower < exponent.toNat then none
  else (some (x.mul (Binary64.ofNat false (powerOfTen exponent.toNat)))).filter Binary64.isFinite

def withSign (negative : Bool) : Binary64 → Binary64
  | .finite _ m p => .finite negative m p
  | x => x

def NumberLiteral.exponent? (lit : NumberLiteral) : Option Int :=
  let n := (Markup.digitsValue? 10 lit.exponent).getD 0
  if powerOfTwo 31 ≤ n then none else some (if lit.exponentNegative then -(n : Int) else n)

def NumberLiteral.real? (lit : NumberLiteral) : Option Binary64 :=
  let (whole, wholeLeft) := takeDigits 0 lit.whole
  let (significand, placesLeft) := takeDigits whole lit.places
  let start : Int := (wholeLeft.length : Int) - (lit.places.length - placesLeft.length : Nat)
  match lit.exponent? with
  | some exponent => (scaled? significand (start + exponent)).map (withSign lit.negative)
  | none =>
    if significand ≠ 0 ∧ !lit.exponentNegative then none
    else some (Binary64.zero lit.negative)

/-- A number without point and exponent is whole as long as it fits 64 bits with its sign. The zero
with a sign is not. -/
def NumberLiteral.value? (lit : NumberLiteral) : Option Number :=
  let (n, left) := takeDigits 0 lit.whole
  if lit.isWhole ∧ left = [] ∧ !lit.negative then some (.whole n)
  else if lit.isWhole ∧ left = [] ∧ 0 < n ∧ n ≤ powerOfTwo 63 then some (.whole (-(n : Int)))
  else lit.real?.map .real

def isSurrogate (code : Nat) : Bool :=
  0xD800 ≤ code && code ≤ 0xDFFF

/-- The characters that a list of code points and surrogates spells; none if a surrogate is not
part of a pair. -/
def spell? : List Nat → Option (List Char)
  | [] => some []
  | [code] => if isSurrogate code then none else some [Char.ofNat code]
  | high :: low :: rest =>
    if isSurrogate high then
      if high < 0xDC00 ∧ 0xDC00 ≤ low ∧ low ≤ 0xDFFF then
        (spell? rest).map (Char.ofNat (0x10000 + (high - 0xD800) * 0x400 + (low - 0xDC00)) :: ·)
      else none
    else (spell? (low :: rest)).map (Char.ofNat high :: ·)

end OpenApiCodegen.Json
