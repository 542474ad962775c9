import OpenApiCodegen.Text.CharacterClass

namespace OpenApiCodegen.Text

/-- The pieces between the separators; there is one piece more than there are separators. -/
def splitOn (separator : Char) : List Char → List (List Char)
  | [] => [[]]
  | c :: rest =>
    match splitOn separator rest with
    | [] => [[c]]
    | piece :: pieces =>
      if c = separator then [] :: piece :: pieces else (c :: piece) :: pieces

def joinWith (separator : List Char) : List (List Char) → List Char
  | [] => []
  | [piece] => piece
  | piece :: pieces => piece ++ separator ++ joinWith separator pieces

def trimStart (cs : List Char) : List Char :=
  cs.dropWhile isWhitespace

def trimEnd (cs : List Char) : List Char :=
  (cs.reverse.dropWhile isWhitespace).reverse

def trim (cs : List Char) : List Char :=
  trimEnd (trimStart cs)

def dropCarriageReturn (line : List Char) : List Char :=
  if line.getLast? = some '\r' then line.dropLast else line

/-- The lines of a text. A line ends at LF or CR LF; an end of line at the very end opens no
further line, and a last line without LF keeps its CR. -/
def lines (cs : List Char) : List (List Char) :=
  let pieces := splitOn '\n' cs
  let ended := pieces.dropLast.map dropCarriageReturn
  match pieces.getLast? with
  | some last => if last.isEmpty then ended else ended ++ [last]
  | none => ended

def replacePair (first second : Char) (image : List Char) : List Char → List Char
  | [] => []
  | [c] => [c]
  | c :: d :: rest =>
    if c = first ∧ d = second then image ++ replacePair first second image rest
    else c :: replacePair first second image (d :: rest)

def occursIn (pattern : List Char) : List Char → Bool
  | [] => pattern.isEmpty
  | c :: rest => pattern.isPrefixOf (c :: rest) || occursIn pattern rest

def cutAt (c : Char) : List Char → Option (List Char × List Char)
  | [] => none
  | d :: rest => if d = c then some ([], rest) else (cutAt c rest).map fun (a, b) => (d :: a, b)

def dropStart? : (start cs : List Char) → Option (List Char)
  | [], cs => some cs
  | _ :: _, [] => none
  | s :: start, c :: cs => if s = c then dropStart? start cs else none

def mentions (text part : String) : Bool :=
  occursIn part.toList text.toList

def beginsWith (text start : String) : Bool :=
  start.toList.isPrefixOf text.toList

def withoutStart (start text : String) : String :=
  match dropStart? start.toList text.toList with
  | some rest => String.ofList rest
  | none => text

def mapAscii (f : Char → Char) (text : String) : String :=
  String.ofList (text.toList.map f)

def asciiLower (text : String) : String :=
  mapAscii Char.toLower text

def asciiUpper (text : String) : String :=
  mapAscii Char.toUpper text

end OpenApiCodegen.Text
