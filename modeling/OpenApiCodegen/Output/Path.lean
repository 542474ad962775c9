import OpenApiCodegen.Text.Basic

namespace OpenApiCodegen.Output

def segments (dir : String) : List (List Char) :=
  (Text.splitOn '/' dir.toList).filter fun part => !part.isEmpty && part != ['.']

def dropCommon {α : Type} [BEq α] : List α → List α → List α × List α
  | a :: as, b :: bs => if a == b then dropCommon as bs else (a :: as, b :: bs)
  | as, bs => (as, bs)

def slashed (parts : List (List Char)) : String :=
  String.ofList (Text.joinWith ['/'] parts)

def parent : List Char := ['.', '.']

/-- The way from one directory to another. It begins with a dot. -/
def relativePath (source destination : String) : String :=
  let (up, down) := dropCommon (segments source) (segments destination)
  match up.map (fun _ => parent) ++ down with
  | [] => "."
  | first :: rest =>
    if first = parent then slashed (first :: rest) else "./" ++ slashed (first :: rest)

def dropSlashes (dir : String) : String :=
  String.ofList (dir.toList.reverse.dropWhile (· == '/')).reverse

def joinPath (dir file : String) : String :=
  let dir := dropSlashes dir
  if dir.isEmpty || dir == "." then file else dir ++ "/" ++ file

end OpenApiCodegen.Output
