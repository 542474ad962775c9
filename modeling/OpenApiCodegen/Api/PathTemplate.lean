import OpenApiCodegen.Text.Basic

namespace OpenApiCodegen.Api.PathTemplate

open Text (splitOn cutAt)

/-- The segment that a placeholder fills, the empty one in front of the first slash included, and
its place among the placeholders. -/
structure Position where
  segment : Nat
  ordinal : Nat
  deriving DecidableEq

def placeholder? : List Char → Option (List Char)
  | '\x7b' :: rest => if rest.getLast? = some '\x7d' then some rest.dropLast else none
  | _ => none

def positionFrom? (name : List Char) (segment ordinal : Nat) : List (List Char) → Option Position
  | [] => none
  | part :: rest =>
    match placeholder? part with
    | none => positionFrom? name (segment + 1) ordinal rest
    | some token =>
      if token = name then some ⟨segment, ordinal⟩
      else positionFrom? name (segment + 1) (ordinal + 1) rest

def position? (path name : String) : Option Position :=
  positionFrom? name.toList 0 0 (splitOn '/' path.toList)

def patternSpecials : List Char :=
  ['.', '+', '*', '?', '(', ')', '[', ']', '\x7d', '|', '^', '$', '\\']

def segmentPattern : List Char :=
  ['[', '^', '/', ']', '+']

/-- Translates a template from inside or outside of a placeholder. One that is not closed reaches
to the end. -/
def patternFrom : (inside : Bool) → List Char → List Char
  | _, [] => []
  | true, c :: rest => patternFrom (c != '\x7d') rest
  | false, c :: rest =>
    if c = '\x7b' then segmentPattern ++ patternFrom true rest
    else if c ∈ patternSpecials then '\\' :: c :: patternFrom false rest
    else c :: patternFrom false rest

def pattern (path : String) : String :=
  String.ofList ('^' :: patternFrom false path.toList ++ ['$'])

inductive Piece where
  | fixed (text : List Char)
  | placeholder (token : List Char)
  deriving DecidableEq

theorem length_of_cutAt {c : Char} {cs before after : List Char}
    (h : cutAt c cs = some (before, after)) : after.length < cs.length := by
  induction cs generalizing before after with
  | nil => simp [cutAt] at h
  | cons d rest ih =>
    unfold cutAt at h
    split at h
    · simp at h
      simp [h.2]
    · obtain ⟨⟨a, b⟩, found, same⟩ := Option.map_eq_some_iff.1 h
      simp at same
      have := ih found
      simp [← same.2]
      omega

/-- Cuts a template at its placeholders. A brace that is not closed belongs to the fixed text. -/
def pieces (cs : List Char) : List Piece :=
  match opened : cutAt '\x7b' cs with
  | none => [.fixed cs]
  | some (before, after) =>
    match closed : cutAt '\x7d' after with
    | none => [.fixed cs]
    | some (token, rest) =>
      have : rest.length < cs.length :=
        Nat.lt_trans (length_of_cutAt closed) (length_of_cutAt opened)
      .fixed before :: .placeholder token :: pieces rest
termination_by cs.length

end OpenApiCodegen.Api.PathTemplate
