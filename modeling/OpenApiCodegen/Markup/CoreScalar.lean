import OpenApiCodegen.Markup.Node
import OpenApiCodegen.Number.Power
import OpenApiCodegen.Text.Basic

namespace OpenApiCodegen.Markup

def coreTag (name : String) : String :=
  "tag:yaml.org,2002:" ++ name

def isNullText (text : String) : Bool :=
  ["null", "Null", "NULL", "~"].contains text

def boolText? (text : String) : Option Bool :=
  if ["true", "True", "TRUE"].contains text then some true
  else if ["false", "False", "FALSE"].contains text then some false
  else none

def digitValue? (radix : Nat) (c : Char) : Option Nat :=
  let value? :=
    if c.isDigit then some (c.toNat - '0'.toNat)
    else if 'a' ≤ c ∧ c ≤ 'f' then some (c.toNat - 'a'.toNat + 10)
    else if 'A' ≤ c ∧ c ≤ 'F' then some (c.toNat - 'A'.toNat + 10)
    else none
  value?.filter (· < radix)

def digitsValueFrom (radix acc : Nat) : List Char → Option Nat
  | [] => some acc
  | c :: rest => do digitsValueFrom radix (radix * acc + (← digitValue? radix c)) rest

def digitsValue? (radix : Nat) : List Char → Option Nat
  | [] => none
  | cs => digitsValueFrom radix 0 cs

def magnitude? : List Char → Option Nat
  | '0' :: 'x' :: rest => digitsValue? 16 rest
  | '0' :: 'o' :: rest => digitsValue? 8 rest
  | '0' :: 'b' :: rest => digitsValue? 2 rest
  | cs => digitsValue? 10 cs

def dropSign : List Char → List Char
  | '+' :: rest => rest
  | '-' :: rest => rest
  | cs => cs

def isZeroPadded (cs : List Char) : Bool :=
  match dropSign cs with
  | '0' :: d :: rest => (d :: rest).all Char.isDigit
  | _ => false

inductive WholeNumber where
  | value (n : Int)
  | tooLarge

def wholeInRange (n : Int) : Option WholeNumber :=
  if (-powerOfTwo 63 : Int) ≤ n ∧ n < powerOfTwo 64 then some (.value n)
  else if (-powerOfTwo 127 : Int) ≤ n ∧ n < powerOfTwo 128 then some .tooLarge
  else none

def wholeNumber? (cs : List Char) : Option WholeNumber :=
  if isZeroPadded cs then none
  else match cs with
    | '-' :: rest => (magnitude? rest).bind fun n => wholeInRange (-(n : Int))
    | '+' :: rest => (magnitude? rest).bind fun n => wholeInRange n
    | cs => (magnitude? cs).bind fun n => wholeInRange n

def signed : List Char → Bool × List Char
  | '-' :: rest => (true, rest)
  | '+' :: rest => (false, rest)
  | cs => (false, cs)

/-- `e` or `E` and a whole number; nothing at all is the exponent zero. -/
def exponentPart? : List Char → Option Int
  | [] => some 0
  | c :: rest =>
    if c = 'e' ∨ c = 'E' then
      let (negative, digits) := signed rest
      (digitsValue? 10 digits).map fun n => if negative then -(n : Int) else n
    else none

def fraction? (negative : Bool) (cs : List Char) : Option Binary64 :=
  let whole := cs.takeWhile Char.isDigit
  let afterWhole := cs.dropWhile Char.isDigit
  let (places, rest) := match afterWhole with
    | '.' :: r => (r.takeWhile Char.isDigit, r.dropWhile Char.isDigit)
    | r => ([], r)
  do
    let digits ← digitsValue? 10 (whole ++ places)
    let exponent ← exponentPart? rest
    some (Binary64.ofDecimal negative digits (exponent - places.length))

/-- A number with a fraction or an exponent, an infinity or the undefined number. A decimal that is
too large for a number is none. -/
def realNumber? (cs : List Char) : Option Binary64 :=
  let text := String.ofList cs
  if [".nan", ".NaN", ".NAN"].contains text then some .nan
  else
    let (negative, rest) := signed cs
    if [".inf", ".Inf", ".INF"].contains (String.ofList rest) then some (.infinite negative)
    else (fraction? negative rest).filter Binary64.isFinite

def plainNode (text : String) : Node :=
  let cs := text.toList
  if text.isEmpty || isNullText text then .null
  else match boolText? text with
    | some b => .bool b
    | none =>
      match wholeNumber? cs with
      | some (.value n) => .number (.whole n)
      | some .tooLarge => .damaged
      | none =>
        if isZeroPadded cs then .text text
        else match realNumber? cs with
          | some x => .number (.real x)
          | none => .text text

def boolNode (text : String) : Node :=
  ((boolText? text).map Node.bool).getD .damaged

def intNode (text : String) : Node :=
  match wholeNumber? text.toList with
  | some (.value n) => .number (.whole n)
  | _ => .damaged

def floatNode (text : String) : Node :=
  ((realNumber? text.toList).map fun x => Node.number (.real x)).getD .damaged

def nullNode (text : String) : Node :=
  if isNullText text then .null else .damaged

def isApplicationTag (tag : String) : Bool :=
  tag.toList.head? = some '!'

def Scalar.leaf (s : Scalar) : Node :=
  match s.tag with
  | none => if s.style = .plain then plainNode s.text else .text s.text
  | some tag =>
    if isApplicationTag tag then .damaged
    else if tag = coreTag "bool" then boolNode s.text
    else if tag = coreTag "int" then intNode s.text
    else if tag = coreTag "float" then floatNode s.text
    else if tag = coreTag "null" then nullNode s.text
    else .text s.text

/-- Whether the scalar stands for no value; `none` when a null tag is on something else. -/
def Scalar.absent? (s : Scalar) : Option Bool :=
  if s.style ≠ .plain then some false
  else match s.tag with
    | none => some (s.text.isEmpty || isNullText s.text)
    | some tag =>
      if tag = coreTag "null" then (if isNullText s.text then some true else none)
      else some false

def Scalar.flag? (s : Scalar) : Option Bool :=
  if s.style = .plain ∨ (s.style = .literal ∧ s.tag = some (coreTag "bool")) then boolText? s.text
  else none

def Scalar.isBlank (s : Scalar) : Bool :=
  s.style == .plain && s.text.isEmpty

end OpenApiCodegen.Markup
