import OpenApiCodegen.Number.Decimal

namespace OpenApiCodegen.Json

/-- Whole numbers keep their value; every other number is a floating-point number. -/
inductive Number where
  | whole (n : Int)
  | real (x : Binary64)
  deriving DecidableEq

inductive Value where
  | null
  | bool (b : Bool)
  | number (n : Number)
  | string (s : String)
  | array (items : List Value)
  | object (members : List (String × Value))

instance : Inhabited Value := ⟨.null⟩

def insertMember {α : Type} (key : String) (value : α) : List (String × α) → List (String × α)
  | [] => [(key, value)]
  | (k, v) :: rest =>
    if k = key then (key, value) :: rest else (k, v) :: insertMember key value rest

def collectMembers {α : Type} (members : List (String × α)) : List (String × α) :=
  members.foldl (fun table (key, value) => insertMember key value table) []

def Number.text : Number → String
  | .whole n => toString n
  | .real x => x.jsonText

def hexDigit (n : Nat) : Char :=
  (Nat.digitChar n)

def escapedChar (c : Char) : List Char :=
  match c with
  | '"' => ['\\', '"']
  | '\\' => ['\\', '\\']
  | '\x08' => ['\\', 'b']
  | '\x0c' => ['\\', 'f']
  | '\n' => ['\\', 'n']
  | '\r' => ['\\', 'r']
  | '\t' => ['\\', 't']
  | c =>
    if c.toNat < 0x20 then ['\\', 'u', '0', '0', hexDigit (c.toNat / 16), hexDigit (c.toNat % 16)]
    else [c]

def quote (s : String) : String :=
  String.ofList ('"' :: s.toList.flatMap escapedChar ++ ['"'])

mutual

def Value.compact : Value → String
  | .null => "null"
  | .bool true => "true"
  | .bool false => "false"
  | .number n => n.text
  | .string s => quote s
  | .array items => "[" ++ compactItems items ++ "]"
  | .object members => "\x7b" ++ compactMembers members ++ "\x7d"

def compactItems : List Value → String
  | [] => ""
  | [item] => item.compact
  | item :: rest => item.compact ++ "," ++ compactItems rest

def compactMembers : List (String × Value) → String
  | [] => ""
  | [(key, value)] => quote key ++ ":" ++ value.compact
  | (key, value) :: rest => quote key ++ ":" ++ value.compact ++ "," ++ compactMembers rest

end

def newline (depth : Nat) : String :=
  "\n" ++ String.ofList (List.replicate (2 * depth) ' ')

mutual

def Value.indented (depth : Nat) : Value → String
  | .array [] => "[]"
  | .array items => "[" ++ indentedItems (depth + 1) items ++ newline depth ++ "]"
  | .object [] => "\x7b\x7d"
  | .object members => "\x7b" ++ indentedMembers (depth + 1) members ++ newline depth ++ "\x7d"
  | value => value.compact

def indentedItems (depth : Nat) : List Value → String
  | [] => ""
  | [item] => newline depth ++ item.indented depth
  | item :: rest => newline depth ++ item.indented depth ++ "," ++ indentedItems depth rest

def indentedMembers (depth : Nat) : List (String × Value) → String
  | [] => ""
  | [(key, value)] => newline depth ++ quote key ++ ": " ++ value.indented depth
  | (key, value) :: rest =>
    newline depth ++ quote key ++ ": " ++ value.indented depth ++ "," ++
      indentedMembers depth rest

end

def Value.member? (key : String) : Value → Option Value
  | .object members => members.lookup key
  | _ => none

def Value.at? (value : Value) : List String → Option Value
  | [] => some value
  | key :: path => (value.member? key).bind (·.at? path)

def Value.members? : Value → Option (List (String × Value))
  | .object members => some members
  | _ => none

def Value.text? : Value → Option String
  | .string s => some s
  | _ => none

end OpenApiCodegen.Json
