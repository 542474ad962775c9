import OpenApiCodegen.Json.Literal

namespace OpenApiCodegen.Json

open Markup (Node Document)

def isBlank (c : Char) : Bool :=
  c == ' ' || c == '\n' || c == '\t' || c == '\r'

def skipBlanks (cs : List Char) : List Char :=
  cs.dropWhile isBlank

def simpleEscape? (c : Char) : Option Nat :=
  match c with
  | '"' => some 0x22
  | '\\' => some 0x5C
  | '/' => some 0x2F
  | 'b' => some 0x08
  | 'f' => some 0x0C
  | 'n' => some 0x0A
  | 'r' => some 0x0D
  | 't' => some 0x09
  | _ => none

def stringCodes? : List Char → Option (List Nat × List Char)
  | [] => none
  | '"' :: rest => some ([], rest)
  | '\\' :: 'u' :: a :: b :: c :: d :: rest => do
    let code ← Markup.digitsValue? 16 [a, b, c, d]
    let (codes, left) ← stringCodes? rest
    some (code :: codes, left)
  | '\\' :: c :: rest => do
    let code ← simpleEscape? c
    let (codes, left) ← stringCodes? rest
    some (code :: codes, left)
  | c :: rest => do
    if c.toNat < 0x20 then none
    else
      let (codes, left) ← stringCodes? rest
      some (c.toNat :: codes, left)

def stringNode (codes : List Nat) : Node :=
  match spell? codes with
  | some cs => .text (String.ofList cs)
  | none => .damaged

def digits? (cs : List Char) : Option (List Char × List Char) :=
  match cs.takeWhile Char.isDigit with
  | [] => none
  | ds => some (ds, cs.dropWhile Char.isDigit)

def wholePart? (cs : List Char) : Option (List Char × List Char) := do
  let (ds, rest) ← digits? cs
  if ds.head? = some '0' ∧ 1 < ds.length then none else some (ds, rest)

def placesPart? : List Char → Option (List Char × List Char)
  | '.' :: rest => digits? rest
  | cs => some ([], cs)

def exponentPart? : List Char → Option (Bool × List Char × List Char)
  | c :: rest =>
    if c = 'e' ∨ c = 'E' then do
      let (negative, unsigned) := Markup.signed rest
      let (ds, left) ← digits? unsigned
      some (negative, ds, left)
    else some (false, [], c :: rest)
  | [] => some (false, [], [])

def number? (negative : Bool) (cs : List Char) : Option (Node × List Char) := do
  let (whole, rest) ← wholePart? cs
  let (places, rest) ← placesPart? rest
  let (exponentNegative, exponent, rest) ← exponentPart? rest
  let lit : NumberLiteral :=
    { negative, whole, places, exponentNegative, exponent
      isWhole := places.isEmpty && exponent.isEmpty }
  let node := match lit.value? with
    | some n => Node.number n
    | none => .damaged
  some (node, rest)

def word? (word : String) (node : Node) (cs : List Char) : Option (Node × List Char) :=
  (Text.dropStart? word.toList cs).map fun rest => (node, rest)

mutual

/-- One value and what follows it. The first argument bounds the number of nested calls. -/
def value? : Nat → List Char → Option (Node × List Char)
  | 0, _ => none
  | n + 1, cs =>
    match cs with
    | [] => none
    | '"' :: rest => (stringCodes? rest).map fun (codes, left) => (stringNode codes, left)
    | '[' :: rest =>
      match skipBlanks rest with
      | ']' :: left => some (.sequence true [], left)
      | inner => (items? n inner).map fun (items, left) => (.sequence true items, left)
    | '\x7b' :: rest =>
      match skipBlanks rest with
      | '\x7d' :: left => some (.mapping [], left)
      | inner => (members? n inner).map fun (members, left) => (.mapping members, left)
    | '-' :: rest => number? true rest
    | 't' :: _ => word? "true" (.bool true) cs
    | 'f' :: _ => word? "false" (.bool false) cs
    | 'n' :: _ => word? "null" .null cs
    | _ => number? false cs

def items? : Nat → List Char → Option (List Node × List Char)
  | 0, _ => none
  | n + 1, cs => do
    let (item, rest) ← value? n cs
    match skipBlanks rest with
    | ',' :: more => do
      let (items, left) ← items? n (skipBlanks more)
      some (item :: items, left)
    | ']' :: left => some ([item], left)
    | _ => none

def members? : Nat → List Char → Option (List (Node × Node) × List Char)
  | 0, _ => none
  | n + 1, cs =>
    match cs with
    | '"' :: afterQuote => do
      let (codes, rest) ← stringCodes? afterQuote
      match skipBlanks rest with
      | ':' :: afterColon => do
        let (value, rest) ← value? n (skipBlanks afterColon)
        let member := (stringNode codes, value)
        match skipBlanks rest with
        | ',' :: more => do
          let (members, left) ← members? n (skipBlanks more)
          some (member :: members, left)
        | '\x7d' :: left => some ([member], left)
        | _ => none
      | _ => none
    | _ => none

end

def maxDepth : Nat := 127

def read? (text : String) : Option Document := do
  let cs := skipBlanks text.toList
  let (root, rest) ← value? (2 * cs.length + 2) cs
  if (skipBlanks rest).isEmpty then some ⟨root, [], maxDepth, 0⟩ else none

end OpenApiCodegen.Json
