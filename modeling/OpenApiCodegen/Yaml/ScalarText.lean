import OpenApiCodegen.Yaml.Token

namespace OpenApiCodegen.Yaml

/-- White space inside a scalar. `broken` says that it holds a line break; the blanks around line
breaks do not count. -/
structure Gap where
  broken : Bool
  blanks : List Char
  firstBreak : List Char
  moreBreaks : List Char

namespace Gap

def empty : Gap := ⟨false, [], [], []⟩

def escaped : Gap := ⟨true, [], [], []⟩

def text (gap : Gap) : List Char :=
  if gap.broken then
    if gap.firstBreak = ['\n'] then
      if gap.moreBreaks.isEmpty then [' '] else gap.moreBreaks
    else gap.firstBreak ++ gap.moreBreaks
  else gap.blanks

end Gap

/-- Reads white space. Within the first `minColumn` columns of a line there may be no tab. The
first argument bounds the number of characters. -/
def readGap (minColumn : Int) : Nat → Gap → Cursor → Option (Gap × Cursor)
  | 0, gap, c => some (gap, c)
  | n + 1, gap, c =>
    match c.rest with
    | [] => some (gap, c)
    | ch :: _ =>
      if isBlank ch then
        if gap.broken then
          if c.column < minColumn ∧ ch = '\t' then none
          else readGap minColumn n gap (c.advance 1)
        else readGap minColumn n { gap with blanks := gap.blanks ++ [ch] } (c.advance 1)
      else if isBreak ch then
        let (text, next) := c.readBreak
        if gap.broken then
          readGap minColumn n { gap with moreBreaks := gap.moreBreaks ++ text } next
        else readGap minColumn n ⟨true, [], text, []⟩ next
      else some (gap, c)

def flowEndChars : List Char := [',', '[', ']', '\x7b', '\x7d']

/-- The characters of a plain scalar up to white space or an indicator. Inside a flow collection a
colon right before an indicator is refused. -/
def plainRun (inFlow : Bool) : List Char → Option (List Char × List Char)
  | [] => some ([], [])
  | c :: rest =>
    if isBlank c || isBreak c then some ([], c :: rest)
    else if inFlow && c == ':' && rest.head?.any ('?' :: flowEndChars).contains then none
    else if c == ':' && endsWord rest then some ([], c :: rest)
    else if inFlow && flowEndChars.contains c then some ([], c :: rest)
    else (plainRun inFlow rest).map fun (run, left) => (c :: run, left)

/-- A plain scalar whose lines are indented by `minColumn` at least. The result says whether the
scalar ends behind a line break. -/
def readPlain (inFlow : Bool) (minColumn : Int) :
    Nat → List Char → Gap → Cursor → Option (List Char × Bool × Cursor)
  | 0, text, gap, c => some (text, gap.broken, c)
  | n + 1, text, gap, c => do
    if c.atDocumentMarker || c.startsWith '#' then some (text, gap.broken, c)
    else
      let (run, _) ← plainRun inFlow c.rest
      let text := if run.isEmpty then text else text ++ gap.text ++ run
      let gap := if run.isEmpty then gap else Gap.empty
      let c := c.advance run.length
      if !(c.atBlank || c.atBreak) then some (text, gap.broken, c)
      else
        let (gap, c) ← readGap minColumn c.size gap c
        if !inFlow && c.column < minColumn then some (text, gap.broken, c)
        else readPlain inFlow minColumn n text gap c

/-- The character of a code point; none for surrogates and beyond the range. -/
def codePoint? (n : Nat) : Option Char :=
  if (0xD800 ≤ n ∧ n ≤ 0xDFFF) ∨ 0x10FFFF < n then none else some (Char.ofNat n)

def namedEscape? (c : Char) : Option Char :=
  match c with
  | '0' => some '\x00'
  | 'a' => some '\x07'
  | 'b' => some '\x08'
  | 't' => some '\t'
  | '\t' => some '\t'
  | 'n' => some '\n'
  | 'v' => some '\x0b'
  | 'f' => some '\x0c'
  | 'r' => some '\r'
  | 'e' => some '\x1b'
  | ' ' => some ' '
  | '"' => some '"'
  | '/' => some '/'
  | '\\' => some '\\'
  | 'N' => some '\u0085'
  | '_' => some '\u00a0'
  | 'L' => some '\u2028'
  | 'P' => some '\u2029'
  | _ => none

def hexEscapeLength? (c : Char) : Option Nat :=
  match c with
  | 'x' => some 2
  | 'u' => some 4
  | 'U' => some 8
  | _ => none

def escape? : List Char → Option (Char × Nat)
  | [] => none
  | c :: rest =>
    match namedEscape? c, hexEscapeLength? c with
    | some ch, _ => some (ch, 1)
    | none, some n => do
      let digits := rest.take n
      if digits.length < n then none
      else
        let ch ← codePoint? (← Markup.digitsValue? 16 digits)
        some (ch, n + 1)
    | none, none => none

def singleQuote : Char := '\x27'

def quoteChar (single : Bool) : Char :=
  if single then singleQuote else '"'

/-- The characters of a quoted scalar up to white space or the closing quote, and whether the run
ends with an escaped line break. -/
def quotedRun (single : Bool) : Nat → Cursor → Option (List Char × Bool × Cursor)
  | 0, _ => none
  | n + 1, c =>
    let go (image : Char) (length : Nat) : Option (List Char × Bool × Cursor) :=
      (quotedRun single n (c.advance length)).map fun (run, escapedBreak, next) =>
        (image :: run, escapedBreak, next)
    match c.rest with
    | [] => some ([], false, c)
    | ch :: rest =>
      if isBlank ch || isBreak ch then some ([], false, c)
      else if single then
        if ch ≠ singleQuote then go ch 1
        else if rest.head? = some singleQuote then go singleQuote 2
        else some ([], false, c)
      else if ch = '"' then some ([], false, c)
      else if ch ≠ '\\' then go ch 1
      else if rest.head?.any isBreak then some ([], true, (c.advance 1).skipBreak)
      else (escape? rest).bind fun (image, length) => go image (length + 1)

def readQuoted (single : Bool) : Nat → List Char → Cursor → Option (List Char × Cursor)
  | 0, _, _ => none
  | n + 1, text, c => do
    if c.atDocumentMarker || c.atEnd then none
    else
      let (run, escapedBreak, c) ← quotedRun single (c.size + 1) c
      let text := text ++ run
      if c.startsWith (quoteChar single) then some (text, c.advance 1)
      else
        let gap := if escapedBreak then Gap.escaped else Gap.empty
        let (gap, c) ← readGap 0 c.size gap c
        readQuoted single n (text ++ gap.text) c

inductive Chomping where
  | strip
  | clip
  | keep
  deriving DecidableEq

def chomping? (c : Char) : Option Chomping :=
  match c with
  | '+' => some .keep
  | '-' => some .strip
  | _ => none

def readChomping (c : Cursor) : Option Chomping × Cursor :=
  match c.head?.bind chomping? with
  | some chomping => (some chomping, c.advance 1)
  | none => (none, c)

/-- An indentation given by a digit, zero for none. The digit zero is refused. -/
def readIncrement (c : Cursor) : Option (Nat × Cursor) :=
  match c.head?.bind (Markup.digitValue? 10) with
  | some 0 => none
  | some n => some (n, c.advance 1)
  | none => some (0, c)

def readBlockHeader (c : Cursor) : Option (Chomping × Nat × Cursor) :=
  match readChomping c with
  | (some chomping, c) => do
    let (increment, c) ← readIncrement c
    some (chomping, increment, c)
  | (none, c) => do
    let (increment, c) ← readIncrement c
    if increment = 0 then some (.clip, 0, c)
    else
      let (chomping, c) := readChomping c
      some (chomping.getD .clip, increment, c)

/-- Reads the empty lines and the indentation in front of the next line. An `indent` of zero is not
known yet; then the deepest indentation met is reported. -/
def readBlockBreaks (indent : Nat) :
    Nat → (deepest : Nat) → List Char → Cursor → Option (Nat × List Char × Cursor)
  | 0, _, _, _ => none
  | n + 1, deepest, breaks, c =>
    let blanks := c.rest.takeWhile (· == ' ')
    let width := if indent = 0 then blanks.length else min blanks.length (indent - c.column)
    let c := c.advance width
    let deepest := max deepest c.column
    if (indent = 0 ∨ c.column < indent) ∧ c.startsWith '\t' then none
    else if c.atBreak then
      let (text, next) := c.readBreak
      readBlockBreaks indent n deepest (breaks ++ text) next
    else some (deepest, breaks, c)

/-- The lines of a block scalar. `leading` is the line break before the current line, and
`leadingBlank` says that the previous line started with a blank; between lines that start otherwise
a folded scalar joins by a blank. -/
def readBlockLines (literal : Bool) (indent : Nat) :
    Nat → (text leading trailing : List Char) → (leadingBlank : Bool) → Cursor →
      Option (List Char × List Char × List Char × Cursor)
  | 0, _, _, _, _, _ => none
  | n + 1, text, leading, trailing, leadingBlank, c => do
    if c.column ≠ indent ∨ c.atEnd then some (text, leading, trailing, c)
    else
      let blank := c.atBlank
      let fold := !literal && leading == ['\n'] && !leadingBlank && !blank
      let joint := if fold then (if trailing.isEmpty then [' '] else []) else leading
      let (line, c) := c.takeWhile fun ch => !isBreak ch
      let (leading, c) := c.readBreak
      let (_, after, c) ← readBlockBreaks indent (c.size + 1) 0 [] c
      readBlockLines literal indent n (text ++ joint ++ trailing ++ line) leading after blank c

def readBlock (literal : Bool) (parent : Int) (c : Cursor) : Option (List Char × Cursor) := do
  let (chomping, increment, c) ← readBlockHeader c
  let c := c.skipBlanks.skipComment
  if !endsLine c.rest then none
  else
    let c := c.skipBreak
    let given : Nat := if increment = 0 then 0 else (max parent 0).toNat + increment
    let (deepest, trailing, c) ← readBlockBreaks given (c.size + 1) 0 [] c
    let indent := if given = 0 then max deepest (max (parent + 1) 1).toNat else given
    let (text, leading, trailing, c) ←
      readBlockLines literal indent (c.size + 1) [] [] trailing false c
    match chomping with
    | .strip => some (text, c)
    | .clip => some (text ++ leading, c)
    | .keep => some (text ++ leading ++ trailing, c)

end OpenApiCodegen.Yaml
