import OpenApiCodegen.Markup.CoreScalar

namespace OpenApiCodegen.Markup

/-- A reading against the anchored nodes of a document, counting down the aliases that may still be
followed. It says only whether it succeeds. -/
abbrev Decode (α : Type) := ReaderT (List (Nat × Node)) (StateT Nat Option) α

def Decode.run {α : Type} (reading : Decode α) (doc : Document) : Option α :=
  ((ReaderT.run reading doc.anchors).run doc.jumps).map (·.1)

def spendJump : Decode Unit := do
  match ← get with
  | 0 => failure
  | n + 1 => set n

def target (node : Node) : Decode Node :=
  match node with
  | .aliasOf anchor => do
    spendJump
    match (← read).lookup anchor with
    | some found => pure found
    | none => failure
  | node => pure node

def unwrap (node : Node) : Decode Node := do
  match ← target node with
  | .marked inner => pure inner
  | inner => pure inner

def readText (node : Node) : Decode String := do
  match ← unwrap node with
  | .text s => pure s
  | .scalar s => pure s.text
  | _ => failure

def readFlag (node : Node) : Decode Bool := do
  match ← unwrap node with
  | .bool b => pure b
  | .scalar s => s.flag?.elim failure pure
  | _ => failure

def isAbsent (node : Node) : Decode Bool :=
  match node with
  | .null => pure true
  | .scalar s => s.absent?.elim failure pure
  | _ => pure false

def readOption {α : Type} (readValue : Node → Decode α) (node : Node) : Decode (Option α) := do
  let node ← target node
  if ← isAbsent node then pure none else some <$> readValue node

/-- The items of a sequence; the readings of the items may enter one level less. -/
def readItems (depth : Nat) (node : Node) : Decode (List Node) := do
  match ← unwrap node with
  | .sequence _ items => if depth = 0 then failure else pure items
  | .scalar s => if s.isBlank then pure [] else failure
  | _ => failure

def readEntries (depth : Nat) (node : Node) : Decode (List (Node × Node)) := do
  match ← unwrap node with
  | .mapping entries => if depth = 0 then failure else pure entries
  | .scalar s => if s.isBlank then pure [] else failure
  | _ => failure

def readList {α : Type} (readValue : Node → Decode α) (depth : Nat) (node : Node) :
    Decode (List α) := do
  (← readItems depth node).mapM readValue

def readTable {α : Type} (readValue : Node → Decode α) (depth : Nat) (node : Node) :
    Decode (List (String × α)) := do
  let pairs ← (← readEntries depth node).mapM fun (key, value) => do
    pure (← readText key, ← readValue value)
  pure (Json.collectMembers pairs)

def settledLeaf (node : Node) : Decode Node :=
  match node with
  | .scalar s =>
    match s.leaf with
    | .damaged => failure
    | leaf => pure leaf
  | .damaged => failure
  | .marked _ => failure
  | node => pure node

/-- The node with every leaf given its kind and every alias followed. Sequences of a settled node
are positional. -/
def settle : Nat → Node → Decode Node
  | 0, node => do
    match ← target node with
    | .sequence _ _ => failure
    | .mapping _ => failure
    | leaf => settledLeaf leaf
  | depth + 1, node => do
    match ← target node with
    | .sequence _ items => .sequence true <$> items.mapM (settle depth)
    | .mapping entries =>
      .mapping <$> entries.mapM fun (key, value) => do
        pure (← settle depth key, ← settle depth value)
    | leaf => settledLeaf leaf

def leafJson (node : Node) : Decode Json.Value := do
  match ← settledLeaf node with
  | .null => pure .null
  | .bool b => pure (.bool b)
  | .number (.real x) => pure (if x.isFinite then .number (.real x) else .null)
  | .number n => pure (.number n)
  | .text s => pure (.string s)
  | _ => failure

/-- The node as a JSON value; a number that is not finite becomes `null`. -/
def readJson : Nat → Node → Decode Json.Value
  | 0, node => do
    match ← target node with
    | .sequence _ _ => failure
    | .mapping _ => failure
    | leaf => leafJson leaf
  | depth + 1, node => do
    match ← target node with
    | .sequence _ items => .array <$> items.mapM (readJson depth)
    | .mapping entries => do
      let members ← entries.mapM fun (key, value) => do
        pure (← readText key, ← readJson depth value)
      pure (.object (Json.collectMembers members))
    | leaf => leafJson leaf

/-- The fields of a record in the order of its declaration. A `positional` record was written
without names. -/
structure Fields where
  positional : Bool
  slots : List (Option Node)

/-- Which of the declared fields a key names. In a settled document a whole number names a field by
its place. -/
def fieldIndex (names : List String) (key : Node) : Decode (Option Nat) := do
  match ← unwrap key with
  | .text s => pure (names.idxOf? s)
  | .scalar s => pure (names.idxOf? s.text)
  | .number (.whole n) =>
    if n < 0 then failure
    else pure (if n.toNat < names.length then some n.toNat else none)
  | _ => failure

def putField (slots : List (Option Node)) (index : Nat) (value : Node) :
    Decode (List (Option Node)) :=
  match slots[index]? with
  | some none => pure (slots.set index (some value))
  | _ => failure

def putEntry (names : List String) (slots : List (Option Node)) (entry : Node × Node) :
    Decode (List (Option Node)) := do
  match ← fieldIndex names entry.1 with
  | some index => putField slots index entry.2
  | none => pure slots

/-- The values of the declared fields. Other keys are passed over; a declared one may not come
twice. -/
def readFields (names : List String) (depth : Nat) (node : Node) : Decode Fields := do
  let empty : List (Option Node) := names.map fun _ => none
  match ← unwrap node with
  | .mapping entries =>
    if depth = 0 then failure
    else do
      let slots ← entries.foldlM (putEntry names) empty
      pure ⟨false, slots⟩
  | .sequence true items =>
    if depth = 0 ∨ names.length < items.length then failure
    else pure ⟨true, (items.map some) ++ empty.drop items.length⟩
  | .scalar s => if s.isBlank then pure ⟨false, empty⟩ else failure
  | _ => failure

def Fields.slot (fields : Fields) (index : Nat) : Option Node :=
  fields.slots[index]?.join

def Fields.required {α : Type} (fields : Fields) (index : Nat) (readValue : Node → Decode α) :
    Decode α :=
  match fields.slot index with
  | some node => readValue node
  | none => failure

/-- A field that may be absent. A positional record has to spell it out. -/
def Fields.optional {α : Type} (fields : Fields) (index : Nat) (readValue : Node → Decode α) :
    Decode (Option α) :=
  match fields.slot index with
  | some node => readOption readValue node
  | none => if fields.positional then failure else pure none

def Fields.withDefault {α : Type} (fields : Fields) (index : Nat) (value : α)
    (readValue : Node → Decode α) : Decode α :=
  match fields.slot index with
  | some node => readValue node
  | none => pure value

end OpenApiCodegen.Markup
