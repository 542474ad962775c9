import OpenApiCodegen.Command.FileSystem

namespace OpenApiCodegen.Command

inductive Anchor where
  | root
  | working (above : Nat)
  deriving DecidableEq

structure Location where
  anchor : Anchor
  names : List String
  deriving DecidableEq

def Location.up (location : Location) : Location :=
  match location.names, location.anchor with
  | _ :: names, anchor => ⟨anchor, names⟩
  | [], .root => ⟨.root, []⟩
  | [], .working above => ⟨.working (above + 1), []⟩

def Location.enter (location : Location) (name : String) : Location :=
  if name = ".." then location.up else ⟨location.anchor, name :: location.names⟩

inductive Entry where
  | directory
  | file (contents : ByteArray)

def Entry.isDirectory : Entry → Bool
  | directory => true
  | file _ => false

structure FileTree where
  entries : List (Location × Entry)

namespace FileTree

def entry? (tree : FileTree) (location : Location) : Option Entry :=
  if location.names.isEmpty then some .directory else tree.entries.lookup location

def put (tree : FileTree) (location : Location) (entry : Entry) : FileTree :=
  ⟨(location, entry) :: tree.entries.filter fun (other, _) => other != location⟩

def maxNameSize : Nat := 255

/-- Follows the pieces of a path. Every place on the way has to be a directory. -/
def walk (tree : FileTree) (location : Location) : List (List Char) → Except FileError Location
  | [] => .ok location
  | piece :: rest =>
    match tree.entry? location with
    | none => .error .missing
    | some (.file _) => .error .notDirectory
    | some .directory =>
      if Path.isVoid piece then tree.walk location rest
      else
        let name := String.ofList piece
        if maxNameSize < name.utf8ByteSize then .error .nameTooLong
        else tree.walk (location.enter name) rest

def locate (tree : FileTree) (path : String) : Except FileError Location :=
  let start := if Text.beginsWith path "/" then Anchor.root else .working 0
  tree.walk ⟨start, []⟩ (Text.splitOn '/' path.toList)

def readText (tree : FileTree) (path : String) : Except FileError String := do
  match tree.entry? (← tree.locate path) with
  | none => .error .missing
  | some .directory => .error .isDirectory
  | some (.file contents) =>
    match String.fromUTF8? contents with
    | some text => .ok text
    | none => .error .notText

def write (tree : FileTree) (path : String) (contents : ByteArray) :
    Except FileError FileTree := do
  let location ← tree.locate path
  match tree.entry? location with
  | some .directory => .error .isDirectory
  | _ => .ok (tree.put location (.file contents))

def createDirectory (tree : FileTree) (path : String) : Except FileError FileTree := do
  let location ← tree.locate path
  match tree.entry? location with
  | some _ => .error .exists
  | none => .ok (tree.put location .directory)

def isDirectory (tree : FileTree) (path : String) : Bool :=
  match tree.locate path with
  | .ok location => (tree.entry? location).any Entry.isDirectory
  | .error _ => false

def path? (location : Location) : Option String :=
  if location.anchor = .working 0 then some (String.intercalate "/" location.names.reverse)
  else none

def files (tree : FileTree) : List (String × ByteArray) :=
  tree.entries.filterMap fun (location, entry) =>
    match path? location, entry with
    | some path, .file contents => some (path, contents)
    | _, _ => none

end FileTree

structure World where
  tree : FileTree
  printed : List String
  errors : List String

def changeTree (change : FileTree → Except FileError FileTree) :
    StateM World (Except FileError Unit) := do
  let world ← get
  match change world.tree with
  | .ok tree => do
    set { world with tree }
    pure (.ok ())
  | .error error => pure (.error error)

instance : FileSystem (StateM World) where
  readText path := do return (← get).tree.readText path
  writeText path contents := changeTree fun tree => tree.write path contents.toUTF8
  createDirectory path := changeTree fun tree => tree.createDirectory path
  isDirectory path := do return (← get).tree.isDirectory path
  printLine line := modify fun world => { world with printed := line :: world.printed }
  printError line := modify fun world => { world with errors := line :: world.errors }

def addFile (path : String) (contents : ByteArray) : StateM World Unit := do
  let _ ← createDirectories (Path.parents path)
  let _ ← changeTree fun tree => tree.write path contents

def worldOf (files : List (String × ByteArray)) : World :=
  ((files.forM fun (path, contents) => addFile path contents).run ⟨⟨[]⟩, [], []⟩).2

end OpenApiCodegen.Command
