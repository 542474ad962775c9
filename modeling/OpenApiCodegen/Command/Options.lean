import OpenApiCodegen.Target

namespace OpenApiCodegen.Command

inductive Flag where
  | help
  | version
  | logLevel
  | input
  | target
  | out
  | config
  deriving DecidableEq

namespace Flag

def name : Flag → String
  | help => "help"
  | version => "version"
  | logLevel => "log-level"
  | input => "input"
  | target => "target"
  | out => "out"
  | config => "config"

def letter? : Flag → Option Char
  | help => some 'h'
  | version => some 'V'
  | input => some 'i'
  | target => some 't'
  | out => some 'o'
  | _ => none

def takesValue : Flag → Bool
  | help => false
  | version => false
  | _ => true

def isPath : Flag → Bool
  | input => true
  | out => true
  | config => true
  | _ => false

def general : List Flag := [logLevel, help, version]

def ofGenerate : List Flag := [input, target, out, config, logLevel, help]

end Flag

structure GenerateOptions where
  input : String
  targets : List Target
  out : String
  config : Option String

inductive Request where
  | help
  | version
  | generate (options : GenerateOptions)

inductive UsageError where
  | unexpected (argument : String)
  | missingValue (flag : Flag)
  | needlessValue (flag : Flag)
  | emptyValue (flag : Flag)
  | repeated (flag : Flag)
  | unknownTarget (name : String)
  | missing (flags : List Flag)

def UsageError.message : UsageError → String
  | unexpected argument => s!"unexpected argument '{argument}'"
  | missingValue flag => s!"--{flag.name} needs a value"
  | needlessValue flag => s!"--{flag.name} takes no value"
  | emptyValue flag => s!"the value of --{flag.name} is empty"
  | repeated flag => s!"--{flag.name} cannot be used several times"
  | unknownTarget name => Target.unknownMessage name
  | missing flags =>
    "missing: " ++ String.intercalate ", " (flags.map fun flag => "--" ++ flag.name)

inductive Stop where
  | request (asked : Request)
  | fault (error : UsageError)

abbrev Given := List (Flag × String)

def targets? (name : String) : Option (List Target) :=
  if Text.asciiLower name = "all" then some Target.all
  else (Target.ofName? name).map fun target => [target]

def Given.add (given : Given) (flag : Flag) (value : String) : Except Stop Given :=
  if (given.lookup flag).isSome then .error (.fault (.repeated flag))
  else if flag.isPath && value.isEmpty then .error (.fault (.emptyValue flag))
  else if flag = .target && (targets? value).isNone then .error (.fault (.unknownTarget value))
  else .ok (given ++ [(flag, value)])

def Given.settle (given : Given) : Option (Flag × String) → Except Stop Given
  | some (flag, value) => given.add flag value
  | none => .ok given

/-- Two hyphens and a name, or one and letters; everything else is plain. -/
inductive Argument where
  | long (name : String) (value : Option String)
  | short (letter : Char) (rest : List Char)
  | plain

def Argument.of (argument : String) : Argument :=
  match argument.toList with
  | '-' :: '-' :: cs =>
    match Text.cutAt '=' cs with
    | some (name, value) => long (String.ofList name) (some (String.ofList value))
    | none => long (String.ofList cs) none
  | '-' :: letter :: rest => short letter rest
  | _ => plain

def attachedValue? : List Char → Option String
  | [] => none
  | '=' :: value => some (String.ofList value)
  | value => some (String.ofList value)

def flagOf? (flags : List Flag) : Argument → Option (Flag × Option String)
  | .long name value => (flags.find? (·.name = name)).map fun flag => (flag, value)
  | .short letter rest =>
    (flags.find? (·.letter? = some letter)).map fun flag =>
      (flag, if flag.takesValue then attachedValue? rest else none)
  | .plain => none

def requestOf? : Flag → Option Request
  | .help => some .help
  | .version => some .version
  | _ => none

/-- What has been read, with the last value still to be accepted, and the command that ends it with
its own arguments. -/
structure Reading where
  given : Given
  pending : Option (Flag × String)
  command : Option (String × List String)

def startsWithHyphen (value : String) : Bool :=
  match Argument.of value with
  | .plain => false
  | _ => true

def readFlags (flags : List Flag) (commands : List String) (given : Given)
    (pending : Option (Flag × String)) : List String → Except Stop Reading
  | [] => .ok ⟨given, pending, none⟩
  | argument :: rest =>
    if commands.contains argument then .ok ⟨given, pending, some (argument, rest)⟩
    else if argument = "--" then
      match rest with
      | [] => .ok ⟨given, pending, none⟩
      | extra :: _ => .error (.fault (.unexpected extra))
    else
      match flagOf? flags (Argument.of argument) with
      | none => .error (.fault (.unexpected argument))
      | some (flag, attached) => do
        if !flag.takesValue && attached.isSome then throw (.fault (.needlessValue flag))
        let given ← given.settle pending
        match requestOf? flag, attached, rest with
        | some asked, _, _ => throw (.request asked)
        | none, some value, rest => readFlags flags commands (← given.add flag value) none rest
        | none, none, value :: rest =>
          if startsWithHyphen value then throw (.fault (.missingValue flag))
          else readFlags flags commands given (some (flag, value)) rest
        | none, none, [] => throw (.fault (.missingValue flag))

def generateOptions (given : Given) : Except Stop GenerateOptions :=
  match given.lookup .input, given.lookup .out with
  | some input, some out =>
    .ok
      { input
        targets := ((given.lookup .target).bind targets?).getD Target.all
        out
        config := given.lookup .config }
  | input, out =>
    .error (.fault (.missing
      ((if input.isNone then [.input] else []) ++ if out.isNone then [.out] else [])))

def readGenerate (arguments : List String) : Except Stop Request := do
  let reading ← readFlags Flag.ofGenerate [] [] none arguments
  let given ← reading.given.settle reading.pending
  pure (.generate (← generateOptions given))

def readHelp : List String → Except Stop Request
  | [] => .error (.request .help)
  | topic :: rest =>
    if topic = "generate" ∨ topic = "help" then
      match rest with
      | [] => .error (.request .help)
      | extra :: _ => .error (.fault (.unexpected extra))
    else .error (.fault (.unexpected topic))

def readCommand : Option (String × List String) → Except Stop Request
  | none => .ok .help
  | some (command, arguments) =>
    if command = "help" then readHelp arguments else readGenerate arguments

def readArguments (arguments : List String) : Except Stop Request := do
  let reading ← readFlags Flag.general ["generate", "help"] [] none arguments
  let asked ← readCommand reading.command
  let _ ← reading.given.settle reading.pending
  pure asked

def request (arguments : List String) : Except UsageError Request :=
  match readArguments arguments with
  | .ok asked => .ok asked
  | .error (.request asked) => .ok asked
  | .error (.fault error) => .error error

end OpenApiCodegen.Command
