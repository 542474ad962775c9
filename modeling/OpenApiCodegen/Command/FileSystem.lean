import OpenApiCodegen.Text.Basic

namespace OpenApiCodegen.Command

inductive FileError where
  | missing
  | exists
  | notDirectory
  | isDirectory
  | nameTooLong
  | notText
  | other (message : String)
  deriving DecidableEq

def FileError.message : FileError → String
  | missing => "No such file or directory (os error 2)"
  | «exists» => "File exists (os error 17)"
  | notDirectory => "Not a directory (os error 20)"
  | isDirectory => "Is a directory (os error 21)"
  | nameTooLong => "File name too long (os error 36)"
  | notText => "stream did not contain valid UTF-8"
  | other message => message

/-- Files and the output of a command. `createDirectory` makes one directory in an existing one. -/
class FileSystem (m : Type → Type) where
  readText : (path : String) → m (Except FileError String)
  writeText : (path contents : String) → m (Except FileError Unit)
  createDirectory : (path : String) → m (Except FileError Unit)
  isDirectory : (path : String) → m Bool
  printLine : (line : String) → m Unit
  printError : (line : String) → m Unit

/-- A command that may fail works on the same files. -/
instance {ε : Type} {m : Type → Type} [Monad m] [FileSystem m] : FileSystem (ExceptT ε m) where
  readText path := ExceptT.lift (FileSystem.readText path)
  writeText path contents := ExceptT.lift (FileSystem.writeText path contents)
  createDirectory path := ExceptT.lift (FileSystem.createDirectory path)
  isDirectory path := ExceptT.lift (FileSystem.isDirectory path)
  printLine line := ExceptT.lift (FileSystem.printLine line)
  printError line := ExceptT.lift (FileSystem.printError line)

namespace Path

/-- A path below a directory; one that begins at the root stays as it is. -/
def join (dir path : String) : String :=
  if Text.beginsWith path "/" || dir.isEmpty then path
  else if dir.toList.getLast? = some '/' then dir ++ path
  else dir ++ "/" ++ path

def pieces (path : String) : List (List Char) :=
  (Text.splitOn '/' path.toList).reverse

def isVoid (piece : List Char) : Bool :=
  piece.isEmpty || piece == ['.']

def chain : List (List Char) → List (List (List Char))
  | [] => []
  | [first] => if first.isEmpty then [] else [[first]]
  | piece :: rest => if isVoid piece then chain rest else (piece :: rest) :: chain rest

def withParents (path : String) : List String :=
  (chain (pieces path)).map fun pieces => String.ofList (Text.joinWith ['/'] pieces.reverse)

def parents (path : String) : List String :=
  (withParents path).drop 1

end Path

variable {m : Type → Type} [Monad m] [FileSystem m]

def ensureDirectory (path : String) (created : Except FileError Unit) :
    m (Except FileError Unit) := do
  match created with
  | .error .exists =>
    if ← FileSystem.isDirectory path then pure (.ok ()) else pure (.error .exists)
  | created => pure created

def createDirectories : List String → m (Except FileError Unit)
  | [] => pure (.ok ())
  | path :: above => do
    match ← FileSystem.createDirectory path with
    | .error .missing =>
      match ← createDirectories above with
      | .ok () => ensureDirectory path (← FileSystem.createDirectory path)
      | .error error => pure (.error error)
    | created => ensureDirectory path created

end OpenApiCodegen.Command
