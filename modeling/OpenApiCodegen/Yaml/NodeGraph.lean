import OpenApiCodegen.Yaml.TokenStream

namespace OpenApiCodegen.Yaml

open Markup (Node Document Scalar)

/-- What is known while nodes are put together. `names` gives the number that an anchor has at the
moment, `places` the event at which the bearer of a number starts, `bearers` the node that started
at an event. -/
structure Assembly where
  tokens : List Token
  handles : List (String × String)
  names : List (String × Nat)
  places : List (Nat × Nat)
  bearers : List (Nat × Node)
  events : Nat

abbrev Assemble := StateT Assembly Option

namespace Assemble

def peek : Assemble Token := do
  match (← get).tokens with
  | [] => failure
  | token :: _ => pure token

def skip : Assemble Unit :=
  modify fun a => { a with tokens := a.tokens.tail }

def expect (token : Token) : Assemble Unit := do
  if (← peek) = token then skip else failure

def countEvent : Assemble Unit :=
  modify fun a => { a with events := a.events + 1 }

def distinctNames (names : List (String × Nat)) : Nat :=
  (names.map (·.1)).eraseDups.length

/-- Starts a node and answers the event at which it starts. A repeated anchor takes a number that
the next new anchor will take too. -/
def beginNode (anchor : Option String) : Assemble Nat := do
  let a ← get
  countEvent
  match anchor with
  | none => pure ()
  | some name =>
    let number := distinctNames a.names
    modify fun a =>
      { a with names := (name, number) :: a.names, places := (number, a.events - 1) :: a.places }
  pure a.events

def finishNode (place : Nat) (anchor : Option String) (node : Node) : Assemble Node := do
  if anchor.isSome then modify fun a => { a with bearers := (place, node) :: a.bearers }
  pure node

def emptyNode : Assemble Node := do
  countEvent
  pure .blank

def resolveTag (handle suffix : String) : Assemble String := do
  if handle.isEmpty then pure suffix
  else
    match (← get).handles.lookup handle with
    | some start => pure (start ++ suffix)
    | none => failure

def anchor? : Assemble (Option String) := do
  match ← peek with
  | .anchor name => do
    skip
    pure (some name)
  | _ => pure none

def tag? : Assemble (Option String) := do
  match ← peek with
  | .tag handle suffix => do
    skip
    some <$> resolveTag handle suffix
  | _ => pure none

def properties : Assemble (Option String × Option String) := do
  match ← anchor? with
  | some name => pure (some name, ← tag?)
  | none => do
    let tag ← tag?
    pure (← anchor?, tag)

def collection (tag : Option String) (node : Node) : Assemble Node := do
  countEvent
  pure (if tag.any Markup.isApplicationTag then .marked node else node)

def scalarTag (tag : Option String) : Option String :=
  tag.filter (· != "!")

def aliasNode (name : String) : Assemble Node := do
  skip
  countEvent
  match (← get).names.lookup name with
  | some number => pure (.aliasOf number)
  | none => failure

mutual

/-- One node. `block` admits block collections, `indentless` a sequence at the indentation of the
mapping around it. The number bounds the depth of calls. -/
def node (block indentless : Bool) : Nat → Assemble Node
  | 0 => failure
  | n + 1 => do
    match ← peek with
    | .aliasOf name => aliasNode name
    | _ =>
      let (anchor, tag) ← properties
      let place ← beginNode anchor
      finishNode place anchor (← content block indentless (anchor.isSome || tag.isSome) tag n)

def content (block indentless bare : Bool) (tag : Option String) : Nat → Assemble Node
  | 0 => failure
  | n + 1 => do
    let elseEmpty : Assemble Node :=
      if bare then pure (.scalar ⟨"", .plain, tag⟩) else failure
    match ← peek with
    | .scalar text style => do
      skip
      pure (.scalar ⟨text, style, scalarTag tag⟩)
    | .blockEntry =>
      if indentless then do collection tag (.sequence false (← indentlessItems n)) else elseEmpty
    | .flowSequence => do
      skip
      collection tag (.sequence false (← flowItems true n))
    | .flowMapping => do
      skip
      collection tag (.mapping (← flowEntries true n))
    | .blockSequence =>
      if block then do
        skip
        collection tag (.sequence false (← blockItems n))
      else elseEmpty
    | .blockMapping =>
      if block then do
        skip
        collection tag (.mapping (← blockEntries n))
      else elseEmpty
    | _ => elseEmpty

def blockItems : Nat → Assemble (List Node)
  | 0 => failure
  | n + 1 => do
    match ← peek with
    | .blockEntry => do
      skip
      let item ← match ← peek with
        | .blockEntry | .blockEnd => emptyNode
        | _ => node true false n
      pure (item :: (← blockItems n))
    | .blockEnd => do
      skip
      pure []
    | _ => failure

def indentlessItems : Nat → Assemble (List Node)
  | 0 => failure
  | n + 1 => do
    match ← peek with
    | .blockEntry => do
      skip
      let item ← match ← peek with
        | .blockEntry | .key | .value | .blockEnd => emptyNode
        | _ => node true false n
      pure (item :: (← indentlessItems n))
    | _ => pure []

def blockEntries : Nat → Assemble (List (Node × Node))
  | 0 => failure
  | n + 1 => do
    match ← peek with
    | .key => do
      skip
      let key ← match ← peek with
        | .key | .value | .blockEnd => emptyNode
        | _ => node true true n
      let value ← blockValue n
      pure ((key, value) :: (← blockEntries n))
    | .blockEnd => do
      skip
      pure []
    | _ => failure

def blockValue : Nat → Assemble Node
  | 0 => failure
  | n + 1 => do
    match ← peek with
    | .value => do
      skip
      match ← peek with
      | .key | .value | .blockEnd => emptyNode
      | _ => node true true n
    | _ => emptyNode

/-- The items up to the closing bracket. An item can be a single entry without braces. -/
def flowItems (first : Bool) : Nat → Assemble (List Node)
  | 0 => failure
  | n + 1 => do
    if (← peek) = .flowSequenceEnd then
      skip
      pure []
    else
      if !first then expect .flowEntry
      match ← peek with
      | .flowSequenceEnd => do
        skip
        pure []
      | .key => do
        skip
        countEvent
        let key ← match ← peek with
          | .value | .flowEntry | .flowSequenceEnd => do
            skip
            emptyNode
          | _ => node false false n
        let value ← flowValue .flowSequenceEnd n
        countEvent
        pure (.mapping [(key, value)] :: (← flowItems false n))
      | _ =>
        let item ← node false false n
        pure (item :: (← flowItems false n))

def flowValue (close : Token) : Nat → Assemble Node
  | 0 => failure
  | n + 1 => do
    if (← peek) = .value then
      skip
      let token ← peek
      if token = .flowEntry ∨ token = close then emptyNode else node false false n
    else emptyNode

def flowEntries (first : Bool) : Nat → Assemble (List (Node × Node))
  | 0 => failure
  | n + 1 => do
    if (← peek) = .flowMappingEnd then
      skip
      pure []
    else
      if !first then expect .flowEntry
      match ← peek with
      | .flowMappingEnd => do
        skip
        pure []
      | .key => do
        skip
        let key ← match ← peek with
          | .value | .flowEntry | .flowMappingEnd => emptyNode
          | _ => node false false n
        let value ← flowValue .flowMappingEnd n
        pure ((key, value) :: (← flowEntries false n))
      | _ =>
        let key ← node false false n
        let value ← emptyNode
        pure ((key, value) :: (← flowEntries false n))

end

/-- Reads a `%TAG` line; the two usual handles may be given another meaning, but only once. -/
def putHandle (handle start : String) : Assemble Unit := do
  skip
  let a ← get
  if (a.handles.lookup handle).isSome then failure
  else set { a with handles := (handle, start) :: a.handles }

def directives (versioned : Bool) : Nat → Assemble Unit
  | 0 => failure
  | n + 1 => do
    match ← peek with
    | .version major minor =>
      if versioned ∨ major ≠ 1 ∨ (minor ≠ 1 ∧ minor ≠ 2) then failure
      else do
        skip
        directives true n
    | .tagHandle handle start => do
      putHandle handle start
      directives versioned n
    | _ => pure ()

def usualHandles : List (String × String) :=
  [("!", "!"), ("!!", Markup.coreTag "")]

def completeHandles : Assemble Unit :=
  modify fun a => { a with handles := a.handles ++ usualHandles }

def explicitContent (n : Nat) : Assemble Node := do
  match ← peek with
  | .version .. | .tagHandle .. | .documentStart | .documentEnd | .streamEnd => emptyNode
  | _ => node true false n

def documentRoot (n : Nat) : Assemble Node := do
  match ← peek with
  | .streamEnd => emptyNode
  | .version .. | .tagHandle .. | .documentStart => do
    directives false n
    completeHandles
    expect .documentStart
    explicitContent n
  | _ => do
    completeHandles
    node true false n

def onlyEnds : List Token → Bool
  | [.streamEnd] => true
  | .documentEnd :: rest => onlyEnds rest
  | _ => false

end Assemble

def Assembly.anchors (a : Assembly) : List (Nat × Node) :=
  a.places.filterMap fun (number, place) => (a.bearers.lookup place).map fun node => (number, node)

def maxDepth : Nat := 128

def jumpsPerEvent : Nat := 100

def read? (text : String) : Option Document := do
  let tokens ← tokens? text
  let start : Assembly := ⟨tokens, [], [], [], [], 0⟩
  let (root, a) ← (Assemble.documentRoot (3 * tokens.length + 3)).run start
  if Assemble.onlyEnds a.tokens then
    some ⟨root, a.anchors, maxDepth, a.events * jumpsPerEvent⟩
  else none

end OpenApiCodegen.Yaml
