import OpenApiCodegen.Command.FileSystem
import OpenApiCodegen.Command.Options
import OpenApiCodegen.Config.Reader
import OpenApiCodegen.Generation
import OpenApiCodegen.OpenApi.Reader

namespace OpenApiCodegen.Command

open Output (Artifact)

inductive CommandError where
  | unreadable (path : String) (error : FileError)
  | generation (error : GenerationError)
  | uncreatable (path : String) (error : FileError)
  | unwritable (path : String) (error : FileError)

def CommandError.message : CommandError → String
  | unreadable path error => s!"Failed to read {path}: {error.message}"
  | generation error => error.message
  | uncreatable path error => s!"Failed to create {path}: {error.message}"
  | unwritable path error => s!"Failed to write {path}: {error.message}"

def configOf (text : String) : Except GenerationError Config :=
  match Config.read? text with
  | some config => .ok config
  | none => .error .configuration

def sourceOf (text : String) : Except GenerationError Source :=
  let format := OpenApi.TextFormat.of text
  match OpenApi.Document.read? format text with
  | some doc => Source.of doc
  | none => .error (.malformed format)

variable {m : Type → Type} [Monad m] [FileSystem m]

def readFile (path : String) : ExceptT CommandError m String := do
  match ← FileSystem.readText path with
  | .ok text => pure text
  | .error error => throw (.unreadable path error)

def accept {α : Type} (result : Except GenerationError α) : ExceptT CommandError m α :=
  match result with
  | .ok a => pure a
  | .error error => throw (.generation error)

def writeArtifact (dir : String) (artifact : Artifact) : ExceptT CommandError m Unit := do
  let path := Path.join dir artifact.path
  let parents := Path.parents path
  match ← createDirectories parents with
  | .ok () => pure ()
  | .error error => throw (.uncreatable (parents.headD "") error)
  match ← FileSystem.writeText path artifact.contents with
  | .ok () => pure ()
  | .error error => throw (.unwritable path error)

def writeCode (out : String) (code : GeneratedCode) : ExceptT CommandError m Unit := do
  let target := code.target.name
  let dir := Path.join out target
  code.artifacts.forM (writeArtifact dir)
  code.excluded.forM fun exclusion =>
    FileSystem.printLine s!"{target}: skipped {exclusion.operation} ({exclusion.reason.message})"
  FileSystem.printLine s!"{target}: wrote {code.artifacts.length} files to {dir}"

/-- Reads the configuration and the document, generates the code for the targets, and writes it for
one target after the other. -/
def runGenerate (options : GenerateOptions) : ExceptT CommandError m Unit := do
  let config ← match options.config with
    | some path => accept (configOf (← readFile path))
    | none => pure {}
  let source ← accept (sourceOf (← readFile options.input))
  let results := options.targets.map fun target => generate target config source
  results.forM fun result => do writeCode options.out (← accept result)

def versionLine : String := "apigen 0.1.0"

def helpLines : List String :=
  ["Generate a Dart client, a Go server scaffold and a TypeScript client from one OpenAPI document",
    "",
    "Usage: apigen [--log-level FILTER] generate --input FILE --out DIR [OPTIONS]",
    "",
    "  -i, --input FILE      OpenAPI document, JSON or YAML",
    "  -o, --out DIR         directory below which each target has one of its own",
    "  -t, --target TARGET   mobile, server, web or all, which is the default",
    "      --config FILE     TOML configuration",
    "  -h, --help            print this text",
    "  -V, --version         print the version"]

/-- Does what the arguments ask for. The result is the exit code. -/
def run (arguments : List String) : m Nat := do
  match request arguments with
  | .error error => do
    FileSystem.printError ("error: " ++ error.message)
    pure 2
  | .ok .help => do
    helpLines.forM FileSystem.printLine
    pure 0
  | .ok .version => do
    FileSystem.printLine versionLine
    pure 0
  | .ok (.generate options) => do
    match ← (runGenerate options).run with
    | .ok () => pure 0
    | .error error => do
      FileSystem.printError error.message
      pure 1

end OpenApiCodegen.Command
