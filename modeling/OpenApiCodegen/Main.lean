import OpenApiCodegen.Command.Generate

namespace OpenApiCodegen.Command

def systemCode? : IO.Error → Option Nat
  | .alreadyExists _ code _ => some code.toNat
  | .noFileOrDirectory _ code _ => some code.toNat
  | .inappropriateType _ code _ => some code.toNat
  | .invalidArgument _ code _ => some code.toNat
  | .permissionDenied _ code _ => some code.toNat
  | _ => none

def fileError (error : IO.Error) : FileError :=
  match systemCode? error with
  | some 2 => .missing
  | some 13 => .other "Permission denied (os error 13)"
  | some 17 => .exists
  | some 20 => .notDirectory
  | some 21 => .isDirectory
  | some 36 => .nameTooLong
  | _ => .other (toString error)

def attempt {α : Type} (action : IO α) : IO (Except FileError α) := do
  match ← action.toBaseIO with
  | .ok a => pure (.ok a)
  | .error error => pure (.error (fileError error))

def decodeText (contents : ByteArray) : Except FileError String :=
  match String.fromUTF8? contents with
  | some text => .ok text
  | none => .error .notText

instance : FileSystem IO where
  readText path := do return (← attempt (IO.FS.readBinFile path)).bind decodeText
  writeText path contents := attempt (IO.FS.writeFile path contents)
  createDirectory path := attempt (IO.FS.createDir path)
  isDirectory path := do
    match ← attempt (IO.FS.realPath path) with
    | .ok real => real.isDir
    | .error _ => pure false
  printLine line := IO.println line
  printError line := IO.eprintln line

end OpenApiCodegen.Command

def main (arguments : List String) : IO UInt32 := do
  let code : Nat ← OpenApiCodegen.Command.run arguments
  return code.toUInt32
