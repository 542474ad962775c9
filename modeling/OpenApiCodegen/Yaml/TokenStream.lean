import OpenApiCodegen.Number.Power
import OpenApiCodegen.Yaml.ScalarText

namespace OpenApiCodegen.Yaml

open Markup (ScalarStyle)

/-- Where a key may have started. A `required` one has to turn out to be a key. -/
structure PossibleKey where
  position : Nat
  required : Bool
  index : Nat
  line : Nat
  column : Nat

/-- `keys` holds a possible key for each open flow collection, innermost first, and one for the
blocks around them. `indents` are the indentations of the blocks around the current one. -/
structure Scan where
  cursor : Cursor
  tokens : Array Token
  keys : List (Option PossibleKey)
  keyAllowed : Bool
  indent : Int
  indents : List Int

namespace Scan

def start (cs : List Char) : Scan :=
  { cursor := Cursor.start cs, tokens := #[], keys := [none], keyAllowed := true
    indent := -1, indents := [] }

def inFlow (s : Scan) : Bool :=
  s.keys.length != 1

def emit (s : Scan) (token : Token) : Scan :=
  { s with tokens := s.tokens.push token }

def insert (s : Scan) (position : Nat) (token : Token) : Scan :=
  { s with tokens := s.tokens.insertIdxIfInBounds position token }

def advance (s : Scan) (n : Nat) : Scan :=
  { s with cursor := s.cursor.advance n }

def maxKeyLength : Nat := 1024

def isStale (s : Scan) (key : PossibleKey) : Bool :=
  key.line < s.cursor.line || key.index + maxKeyLength < s.cursor.index

/-- Gives up the possible keys that the text has left behind; a required one may not be. -/
def dropStaleKeys (s : Scan) : Option Scan := do
  let keys ← s.keys.mapM fun key? =>
    match key? with
    | some key =>
      if s.isStale key then (if key.required then none else some none) else some (some key)
    | none => some none
  some { s with keys }

def dropKey (s : Scan) : Option Scan :=
  match s.keys with
  | [] => some s
  | key? :: outer =>
    if key?.any (·.required) then none else some { s with keys := none :: outer }

def markKey (s : Scan) : Option Scan :=
  if s.keyAllowed then do
    let c := s.cursor
    let key : PossibleKey :=
      { position := s.tokens.size
        required := !s.inFlow && s.indent == c.column
        index := c.index, line := c.line, column := c.column }
    let s ← s.dropKey
    some { s with keys := some key :: s.keys.tail }
  else some s

def openBlock (s : Scan) (column : Nat) (position : Option Nat) (token : Token) : Scan :=
  if s.inFlow || column ≤ s.indent then s
  else
    let s := { s with indents := s.indent :: s.indents, indent := column }
    match position with
    | some p => s.insert p token
    | none => s.emit token

def closeBlocksFrom (column : Int) : List Int → Scan → Scan
  | [], s => s
  | outer :: more, s =>
    if column < s.indent then
      closeBlocksFrom column more { s.emit .blockEnd with indent := outer, indents := more }
    else s

def closeBlocks (s : Scan) (column : Int) : Scan :=
  if s.inFlow then s else closeBlocksFrom column s.indents s

def skipMark (s : Scan) : Scan :=
  if s.cursor.column = 0 ∧ s.cursor.startsWith byteOrderMark then s.advance 1 else s

/-- Passes over white space and comments. A tab may stand where no key may start. -/
def toNextToken : Nat → Scan → Scan
  | 0, s => s
  | n + 1, s =>
    let s := s.skipMark
    let tabs := s.inFlow || !s.keyAllowed
    let c := (s.cursor.skipWhile fun ch => ch == ' ' || (tabs && ch == '\t')).skipComment
    if c.atBreak then
      toNextToken n { s with cursor := c.skipBreak, keyAllowed := s.keyAllowed || !s.inFlow }
    else { s with cursor := c }

def streamEnd (s : Scan) : Option Scan := do
  let s ← (s.closeBlocks (-1)).dropKey
  some ({ s with keyAllowed := false }.emit .streamEnd)

def readVersionPart (c : Cursor) : Option (Nat × Cursor) := do
  let (digits, c) := c.takeWhile Char.isDigit
  if 9 < digits.length then none else some (← Markup.digitsValue? 10 digits, c)

def readVersion (c : Cursor) : Option (Token × Cursor) := do
  let (major, c) ← readVersionPart c.skipBlanks
  if !c.startsWith '.' then none
  else
    let (minor, c) ← readVersionPart (c.advance 1)
    some (.version major minor, c)

def isUriChar (c : Char) : Bool :=
  isWordChar c || [';', '/', '?', ':', '@', '&', '=', '+', '$', '.', '%', '!', '~', '*', '\x27',
    '(', ')'].contains c

def isVerbatimUriChar (c : Char) : Bool :=
  isUriChar c || [',', '[', ']'].contains c

def byteCount? (first : Nat) : Option Nat :=
  if first < 0x80 then some 1
  else if 0xC0 ≤ first ∧ first < 0xE0 then some 2
  else if 0xE0 ≤ first ∧ first < 0xF0 then some 3
  else if 0xF0 ≤ first ∧ first < 0xF8 then some 4
  else none

def percentByte? : List Char → Option (Nat × List Char)
  | '%' :: a :: b :: rest => (Markup.digitsValue? 16 [a, b]).map fun n => (n, rest)
  | _ => none

def percentTail : Nat → Nat → List Char → Option (Nat × List Char)
  | 0, code, cs => some (code, cs)
  | n + 1, code, cs => do
    let (byte, rest) ← percentByte? cs
    if byte / 0x40 ≠ 2 then none else percentTail n (code * 0x40 + byte % 0x40) rest

def percentChar? (cs : List Char) : Option (Char × Nat) := do
  let (first, rest) ← percentByte? cs
  let count ← byteCount? first
  let head := if count = 1 then first else first % powerOfTwo (7 - count)
  let (code, _) ← percentTail (count - 1) head rest
  some (Char.ofNat code, 3 * count)

def readUri (verbatim : Bool) : Nat → Cursor → Option (List Char × Cursor)
  | 0, c => some ([], c)
  | n + 1, c =>
    match c.rest with
    | [] => some ([], c)
    | ch :: _ =>
      if !(if verbatim then isVerbatimUriChar ch else isUriChar ch) then some ([], c)
      else do
        let (image, length) ← if ch = '%' then percentChar? c.rest else some (ch, 1)
        let (more, left) ← readUri verbatim n (c.advance length)
        some (image :: more, left)

/-- A tag handle: `!`, `!!` or `!word!`. Without the closing mark it is the start of a tag. -/
def readHandle (c : Cursor) : Option (List Char × Cursor) :=
  if !c.startsWith '!' then none
  else
    let (word, c) := (c.advance 1).takeWhile isWordChar
    if c.startsWith '!' then some ('!' :: word ++ ['!'], c.advance 1)
    else some ('!' :: word, c)

def isHandle (handle : List Char) : Bool :=
  1 < handle.length && handle.getLast? == some '!'

def readTagHandle (c : Cursor) : Option (Token × Cursor) := do
  let (handle, c) ← readHandle c.skipBlanks
  if !(isHandle handle || handle == ['!']) || !c.atBlank then none
  else
    let (start, c) ← readUri true c.size c.skipBlanks
    if start.isEmpty || !endsWord c.rest then none
    else some (.tagHandle (String.ofList handle) (String.ofList start), c)

def directive (s : Scan) : Option Scan := do
  let s ← (s.closeBlocks (-1)).dropKey
  let (name, c) := (s.cursor.advance 1).takeWhile isWordChar
  if name.isEmpty || !endsWord c.rest then none
  else
    let (token, c) ←
      if name = ['Y', 'A', 'M', 'L'] then readVersion c
      else if name = ['T', 'A', 'G'] then readTagHandle c
      else none
    let c := c.skipBlanks.skipComment
    if !endsLine c.rest then none
    else some ({ s with cursor := c.skipBreak, keyAllowed := false }.emit token)

def documentMarker (s : Scan) (token : Token) : Option Scan := do
  let s ← (s.closeBlocks (-1)).dropKey
  some (({ s with keyAllowed := false }.advance 3).emit token)

def openFlow (s : Scan) (token : Token) : Option Scan := do
  let s ← s.markKey
  some (({ s with keys := none :: s.keys, keyAllowed := true }.advance 1).emit token)

def closeFlow (s : Scan) (token : Token) : Option Scan := do
  let s ← s.dropKey
  let keys := if s.inFlow then s.keys.tail else s.keys
  some (({ s with keys, keyAllowed := false }.advance 1).emit token)

def flowEntry (s : Scan) : Option Scan := do
  let s ← s.dropKey
  some (({ s with keyAllowed := true }.advance 1).emit .flowEntry)

def blockEntry (s : Scan) : Option Scan := do
  if !s.inFlow && !s.keyAllowed then none
  else
    let s ← (s.openBlock s.cursor.column none .blockSequence).dropKey
    some (({ s with keyAllowed := true }.advance 1).emit .blockEntry)

def explicitKey (s : Scan) : Option Scan := do
  if !s.inFlow && !s.keyAllowed then none
  else
    let s ← (s.openBlock s.cursor.column none .blockMapping).dropKey
    some (({ s with keyAllowed := !s.inFlow }.advance 1).emit .key)

def value (s : Scan) : Option Scan :=
  match s.keys with
  | some key :: outer =>
    let s := (s.insert key.position .key).openBlock key.column (some key.position) .blockMapping
    some (({ s with keys := none :: outer, keyAllowed := false }.advance 1).emit .value)
  | _ =>
    if !s.inFlow && !s.keyAllowed then none
    else
      let s := s.openBlock s.cursor.column none .blockMapping
      some (({ s with keyAllowed := !s.inFlow }.advance 1).emit .value)

def nameEnds (cs : List Char) : Bool :=
  endsWord cs || cs.head?.any ['?', ':', ',', ']', '\x7d', '%', '@', '\x60'].contains

def anchorName (s : Scan) (token : String → Token) : Option Scan := do
  let s ← s.markKey
  let (name, c) := (s.cursor.advance 1).takeWhile isWordChar
  if name.isEmpty || !nameEnds c.rest then none
  else some ({ s with cursor := c, keyAllowed := false }.emit (token (String.ofList name)))

def readVerbatimTag (c : Cursor) : Option (Token × Cursor) := do
  let (uri, c) ← readUri true c.size (c.advance 2)
  if uri.isEmpty || !c.startsWith '>' then none
  else some (.tag "" (String.ofList uri), c.advance 1)

def readShorthandTag (c : Cursor) : Option (Token × Cursor) := do
  let (handle, c) ← readHandle c
  let (uri, c) ← readUri false c.size c
  if isHandle handle then
    if uri.isEmpty then none
    else some (.tag (String.ofList handle) (String.ofList uri), c)
  else
    let suffix := handle.tail ++ uri
    if suffix.isEmpty then some (.tag "" "!", c)
    else some (.tag "!" (String.ofList suffix), c)

def tag (s : Scan) : Option Scan := do
  let s ← s.markKey
  let (token, c) ←
    if s.cursor.rest[1]? = some '<' then readVerbatimTag s.cursor else readShorthandTag s.cursor
  if endsWord c.rest || (s.inFlow && c.startsWith ',') then
    some ({ s with cursor := c, keyAllowed := false }.emit token)
  else none

def blockScalar (s : Scan) (literal : Bool) : Option Scan := do
  let s ← s.dropKey
  let (text, c) ← readBlock literal s.indent (s.cursor.advance 1)
  let style : ScalarStyle := if literal then .literal else .folded
  some ({ s with cursor := c, keyAllowed := true }.emit (.scalar (String.ofList text) style))

def quotedScalar (s : Scan) (single : Bool) : Option Scan := do
  let s ← s.markKey
  let (text, c) ← readQuoted single (s.cursor.size + 1) [] (s.cursor.advance 1)
  some ({ s with cursor := c, keyAllowed := false }.emit (.scalar (String.ofList text) .quoted))

def plainScalar (s : Scan) : Option Scan := do
  let s ← s.markKey
  let (text, broken, c) ←
    readPlain s.inFlow (s.indent + 1) (s.cursor.size + 1) [] Gap.empty s.cursor
  some ({ s with cursor := c, keyAllowed := broken }.emit (.scalar (String.ofList text) .plain))

def indicators : List Char :=
  ['-', '?', ':', ',', '[', ']', '\x7b', '\x7d', '#', '&', '*', '!', '|', '>', '\x27', '"', '%',
    '@', '\x60']

def startsPlain (s : Scan) (ch : Char) (rest : List Char) : Bool :=
  !(isBlank ch || isBreak ch || indicators.contains ch) ||
    (ch == '-' && !rest.head?.any isBlank) ||
    (!s.inFlow && (ch == '?' || ch == ':') && !endsWord rest)

def next (s : Scan) : Option Scan :=
  match s.cursor.rest with
  | [] => s.streamEnd
  | ch :: rest =>
    if s.cursor.column = 0 ∧ ch = '%' then s.directive
    else if s.cursor.atMarker '-' then s.documentMarker .documentStart
    else if s.cursor.atMarker '.' then s.documentMarker .documentEnd
    else if ch = '[' then s.openFlow .flowSequence
    else if ch = '\x7b' then s.openFlow .flowMapping
    else if ch = ']' then s.closeFlow .flowSequenceEnd
    else if ch = '\x7d' then s.closeFlow .flowMappingEnd
    else if ch = ',' then s.flowEntry
    else if ch = '-' ∧ endsWord rest then s.blockEntry
    else if ch = '?' ∧ (s.inFlow || endsWord rest) then s.explicitKey
    else if ch = ':' ∧ (s.inFlow || endsWord rest) then s.value
    else if ch = '*' then s.anchorName .aliasOf
    else if ch = '&' then s.anchorName .anchor
    else if ch = '!' then s.tag
    else if ch = '|' ∧ !s.inFlow then s.blockScalar true
    else if ch = '>' ∧ !s.inFlow then s.blockScalar false
    else if ch = singleQuote then s.quotedScalar true
    else if ch = '"' then s.quotedScalar false
    else if s.startsPlain ch rest then s.plainScalar
    else none

/-- Reads tokens to the end of the text. The first argument bounds their number. -/
def run : Nat → Scan → Option (Array Token)
  | 0, _ => none
  | n + 1, s => do
    let s ← (s.toNextToken (s.cursor.size + 1)).dropStaleKeys
    let s := s.closeBlocks s.cursor.column
    let atEnd := s.cursor.atEnd
    let s ← s.next
    if atEnd then some s.tokens else run n s

end Scan

def tokens? (text : String) : Option (List Token) :=
  let cs := text.toList
  if cs.all isPrintable then (Scan.run (cs.length + 2) (Scan.start cs)).map (·.toList) else none

end OpenApiCodegen.Yaml
