import OpenApiCodegen.Toml.Scalar
import OpenApiCodegen.Toml.Table

namespace OpenApiCodegen.Toml

def isBlank (c : Char) : Bool :=
  c == ' ' || c == '\t'

def skipBlanks (cs : List Char) : List Char :=
  cs.dropWhile isBlank

def afterLine? (cs : List Char) : Option (List Char) :=
  match skipBlanks cs with
  | [] => some []
  | '\n' :: rest => some rest
  | '#' :: comment =>
    match comment.dropWhile isTextChar with
    | [] => some []
    | '\n' :: rest => some rest
    | _ => none
  | _ => none

def skipGaps (inComment : Bool) : List Char → List Char
  | [] => []
  | c :: rest =>
    if c = '\n' then skipGaps false rest
    else if inComment then if isTextChar c then skipGaps true rest else c :: rest
    else if isBlank c then skipGaps false rest
    else if c = '#' then skipGaps true rest
    else c :: rest

def isKeyChar (c : Char) : Bool :=
  c.isAlphanum || c == '_' || c == '-'

def simpleKey? (cs : List Char) : Option (String × List Char) :=
  match cs with
  | '"' :: rest => (basicText? rest).map fun (key, left) => (String.ofList key, left)
  | '\x27' :: rest => (literalText? rest).map fun (key, left) => (String.ofList key, left)
  | cs =>
    match cs.takeWhile isKeyChar with
    | [] => none
    | key => some (String.ofList key, cs.dropWhile isKeyChar)

/-- The parts of a key, with blanks around each. The first argument bounds their number. -/
def key? : Nat → List Char → Option (List String × List Char)
  | 0, _ => none
  | n + 1, cs => do
    let (part, rest) ← simpleKey? (skipBlanks cs)
    match skipBlanks rest with
    | '.' :: more => do
      let (parts, left) ← key? n more
      some (part :: parts, left)
    | left => some ([part], left)

def maxDepth : Nat := 79

mutual

/-- One value and what follows it. The first argument bounds the number of nested calls. -/
def value? : Nat → (depth : Nat) → List Char → Option (Value × List Char)
  | 0, _, _ => none
  | n + 1, depth, cs =>
    match cs with
    | '"' :: _ => (string? cs).map fun (text, left) => (.text (String.ofList text), left)
    | '\x27' :: _ => (string? cs).map fun (text, left) => (.text (String.ofList text), left)
    | '[' :: rest =>
      if depth = 0 then none
      else (items? n (depth - 1) rest).map fun (items, left) => (.array items, left)
    | '\x7b' :: rest =>
      if depth = 0 then none
      else
        match skipBlanks rest with
        | '\x7d' :: left => some (.table [], left)
        | inner => do
          let (pairs, left) ← pairs? n (depth - 1) inner
          some (← inlineTable? pairs, left)
    | cs =>
      let word := String.ofList (cs.takeWhile isWordChar)
      if word = "true" then some (.flag true, cs.dropWhile isWordChar)
      else if word = "false" then some (.flag false, cs.dropWhile isWordChar)
      else (afterNumberOrTime? cs).map fun left => (.other, left)

/-- The items up to the closing bracket. There may be a comma after the last. -/
def items? : Nat → (depth : Nat) → List Char → Option (List Value × List Char)
  | 0, _, _ => none
  | n + 1, depth, cs =>
    match skipGaps false cs with
    | ']' :: left => some ([], left)
    | start => do
      let (item, rest) ← value? n depth start
      match skipGaps false rest with
      | ',' :: more => do
        let (items, left) ← items? n depth more
        some (item :: items, left)
      | ']' :: left => some ([item], left)
      | _ => none

def pairs? : Nat → (depth : Nat) → List Char → Option (List (List String × Value) × List Char)
  | 0, _, _ => none
  | n + 1, depth, cs => do
    let (path, rest) ← key? maxDepth cs
    match rest with
    | '=' :: afterSign => do
      let (value, rest) ← value? n depth (skipBlanks afterSign)
      match skipBlanks rest with
      | ',' :: more => do
        let (pairs, left) ← pairs? n depth more
        some ((path, value) :: pairs, left)
      | '\x7d' :: left => some ([(path, value)], left)
      | _ => none
    | _ => none

end

def header? (close : List Char) (cs : List Char) : Option (List String × List Char) := do
  let (path, rest) ← key? maxDepth cs
  some (path, ← afterLine? (← Text.dropStart? close rest))

def statement? (n : Nat) (cs : List Char) : Option (Statement × List Char) :=
  match cs with
  | '[' :: '[' :: rest =>
    (header? [']', ']'] rest).map fun (path, left) => (.item path, left)
  | '[' :: rest => (header? [']'] rest).map fun (path, left) => (.table path, left)
  | cs => do
    let (path, rest) ← key? maxDepth cs
    match rest with
    | '=' :: afterSign => do
      let (value, rest) ← value? n maxDepth (skipBlanks afterSign)
      some (.pair path value, ← afterLine? rest)
    | _ => none

/-- All statements. The first argument bounds their number and that of nested calls. -/
def statements? : Nat → List Char → Option (List Statement)
  | 0, _ => none
  | n + 1, cs =>
    match skipBlanks cs with
    | [] => some []
    | '\n' :: rest => statements? n rest
    | '#' :: rest => do statements? n (← afterLine? ('#' :: rest))
    | start => do
      let (statement, left) ← statement? n start
      some (statement :: (← statements? n left))

def unifyBreaks : List Char → List Char
  | '\r' :: '\n' :: rest => '\n' :: unifyBreaks rest
  | c :: rest => c :: unifyBreaks rest
  | [] => []

def dropByteOrderMark : List Char → List Char
  | '\ufeff' :: rest => rest
  | cs => cs

def read? (text : String) : Option Value := do
  let cs := unifyBreaks (dropByteOrderMark text.toList)
  tableOf? (← statements? (2 * cs.length + 2) cs)

end OpenApiCodegen.Toml
