import OpenApiCodegen.Markup.CoreScalar

namespace OpenApiCodegen.Yaml

def isBreak (c : Char) : Bool :=
  c == '\n' || c == '\r' || c == '\u0085' || c == '\u2028' || c == '\u2029'

def isBlank (c : Char) : Bool :=
  c == ' ' || c == '\t'

def isWordChar (c : Char) : Bool :=
  c.isAlphanum || c == '_' || c == '-'

def isPrintable (c : Char) : Bool :=
  let n := c.toNat
  n == 0x09 || n == 0x0A || n == 0x0D || (0x20 ≤ n && n ≤ 0x7E) || n == 0x85 ||
    (0xA0 ≤ n && n ≤ 0xD7FF) || (0xE000 ≤ n && n ≤ 0xFFFD) || 0x10000 ≤ n

def byteOrderMark : Char := '\ufeff'

def endsWord : List Char → Bool
  | [] => true
  | c :: _ => isBlank c || isBreak c

def endsLine : List Char → Bool
  | [] => true
  | c :: _ => isBreak c

structure Cursor where
  size : Nat
  rest : List Char
  index : Nat
  line : Nat
  column : Nat

namespace Cursor

def start (cs : List Char) : Cursor := ⟨cs.length, cs, 0, 0, 0⟩

def advance (c : Cursor) (n : Nat) : Cursor :=
  { c with rest := c.rest.drop n, index := c.index + n, column := c.column + n }

def head? (c : Cursor) : Option Char :=
  c.rest.head?

def startsWith (c : Cursor) (ch : Char) : Bool :=
  c.rest.head? == some ch

def takeWhile (p : Char → Bool) (c : Cursor) : List Char × Cursor :=
  let taken := c.rest.takeWhile p
  (taken, c.advance taken.length)

def skipWhile (p : Char → Bool) (c : Cursor) : Cursor :=
  (c.takeWhile p).2

def skipBlanks (c : Cursor) : Cursor :=
  c.skipWhile isBlank

def skipToLineEnd (c : Cursor) : Cursor :=
  c.skipWhile fun ch => !isBreak ch

def skipComment (c : Cursor) : Cursor :=
  if c.startsWith '#' then c.skipToLineEnd else c

def nextLine (c : Cursor) (n : Nat) : Cursor :=
  { c with rest := c.rest.drop n, index := c.index + n, line := c.line + 1, column := 0 }

/-- The line break here as it counts in a scalar; nothing if there is none. -/
def readBreak (c : Cursor) : List Char × Cursor :=
  match c.rest with
  | '\r' :: '\n' :: _ => (['\n'], c.nextLine 2)
  | ch :: _ =>
    if ch = '\u2028' ∨ ch = '\u2029' then ([ch], c.nextLine 1)
    else if isBreak ch then (['\n'], c.nextLine 1)
    else ([], c)
  | [] => ([], c)

def skipBreak (c : Cursor) : Cursor :=
  c.readBreak.2

def atBreak (c : Cursor) : Bool :=
  c.rest.head?.any isBreak

def atBlank (c : Cursor) : Bool :=
  c.rest.head?.any isBlank

def atEnd (c : Cursor) : Bool :=
  c.rest.isEmpty

def atMarker (c : Cursor) (ch : Char) : Bool :=
  c.column == 0 && c.rest.take 3 == [ch, ch, ch] && endsWord (c.rest.drop 3)

def atDocumentMarker (c : Cursor) : Bool :=
  c.atMarker '-' || c.atMarker '.'

end Cursor

end OpenApiCodegen.Yaml
