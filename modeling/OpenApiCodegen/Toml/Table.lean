import OpenApiCodegen.Toml.Value

namespace OpenApiCodegen.Toml

/-- How a table came into being: by a header of its own, as the parent of another header's table, or
by a key with dots. -/
inductive Origin where
  | header
  | parent
  | dotted
  deriving DecidableEq

inductive Entry where
  | value (given : Value)
  | table (origin : Origin) (members : List (String × Entry))
  | tables (items : List (List (String × Entry)))

abbrev Members := List (String × Entry)

namespace Members

def update? (f : Option Entry → Option Entry) (key : String) : Members → Option Members
  | [] => (f none).map fun entry => [(key, entry)]
  | (k, entry) :: rest =>
    if k = key then (f (some entry)).map fun entry => (k, entry) :: rest
    else (update? f key rest).map ((k, entry) :: ·)

def updateLast? (f : Members → Option Members) (items : List Members) : Option (List Members) :=
  match items.getLast? with
  | some last => (f last).map fun last => items.dropLast ++ [last]
  | none => none

/-- Goes into a table to change it; where there is none, it is made. -/
def enter? (f : Members → Option Members) : Option Entry → Option Entry
  | none => (f []).map (.table .parent)
  | some (.table origin members) => (f members).map (.table origin)
  | some (.tables items) => (updateLast? f items).map .tables
  | some (.value _) => none

def at? (f : Members → Option Members) : List String → Members → Option Members
  | [], members => f members
  | key :: path, members => members.update? (enter? (at? f path)) key

/-- A table gets a header once. It may be the parent of earlier ones. -/
def openTable? : Option Entry → Option Entry
  | none => some (.table .header [])
  | some (.table .parent members) => some (.table .header members)
  | _ => none

def openItem? : Option Entry → Option Entry
  | none => some (.tables [[]])
  | some (.tables items) => some (.tables (items ++ [[]]))
  | _ => none

def fill? (value : Value) : Option Entry → Option Entry
  | none => some (.value value)
  | some _ => none

/-- Puts a value under a key with dots. Tables with a header take no dotted keys, and the last
table on the way must come from such a key. -/
def place? (value : Value) : List String → Members → Option Members
  | [], _ => none
  | [key], members => members.update? (fill? value) key
  | key :: path, members =>
    let further := 1 < path.length
    members.update?
      (fun
        | none => (place? value path []).map (.table .dotted)
        | some (.table .dotted members) => (place? value path members).map (.table .dotted)
        | some (.table .parent members) =>
          if further then (place? value path members).map (.table .parent) else none
        | some (.tables items) =>
          if further then (updateLast? (place? value path) items).map .tables else none
        | some (.table .header _) => none
        | some (.value _) => none)
      key

end Members

mutual

def Entry.toValue : Entry → Value
  | .value given => given
  | .table _ members => .table (memberValues members)
  | .tables items => .array (itemValues items)

def memberValues : List (String × Entry) → List (String × Value)
  | [] => []
  | (key, entry) :: rest => (key, entry.toValue) :: memberValues rest

def itemValues : List (List (String × Entry)) → List Value
  | [] => []
  | members :: rest => .table (memberValues members) :: itemValues rest

end

/-- The line that a text is made of: a header, a header in double brackets, or a key with a
value. Keys with dots are lists. -/
inductive Statement where
  | table (path : List String)
  | item (path : List String)
  | pair (path : List String) (value : Value)

def openAt? (f : Option Entry → Option Entry) (path : List String) (root : Members) :
    Option Members :=
  match path.getLast? with
  | some key => root.at? (Members.update? f key) path.dropLast
  | none => none

def addStatement? (state : Members × List String) : Statement → Option (Members × List String)
  | .table path => (openAt? Members.openTable? path state.1).map fun root => (root, path)
  | .item path => (openAt? Members.openItem? path state.1).map fun root => (root, path)
  | .pair path value =>
    (state.1.at? (Members.place? value path) state.2).map fun root => (root, state.2)

def tableOf? (statements : List Statement) : Option Value :=
  (statements.foldlM addStatement? ([], [])).map fun (root, _) => .table (memberValues root)

def inlineTable? (pairs : List (List String × Value)) : Option Value :=
  tableOf? (pairs.map fun (path, value) => .pair path value)

end OpenApiCodegen.Toml
