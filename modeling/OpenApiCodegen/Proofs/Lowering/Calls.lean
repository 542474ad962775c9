import Mathlib.Logic.Relation
import OpenApiCodegen.Proofs.Lowering.Models

namespace OpenApiCodegen.Lowering

open OpenApi (Schema SchemaKind componentName)

/-- A call, without what matters for names only. `active` are the keys of the components that are
being made. -/
inductive Call where
  | type (schema : Schema) (depth : Nat) (active : List String)
  | model (kind : SchemaKind) (schema : Schema) (depth : Nat) (active : List String)
  | member (key : String) (depth : Nat) (active : List String)
  | component (key : String) (schema : Schema) (depth : Nat) (active : List String)

inductive Calls (components : List (String × Schema)) : Call → Call → Prop
  | onward {schema next : Schema} {depth : Nat} {active : List String} {passage : Passage} :
      plan components schema depth = .onward passage next →
        Calls components (.type schema depth active) (.type next (passage.depth depth) active)
  | made {schema : Schema} {depth : Nat} {active : List String} {kind : SchemaKind} :
      plan components schema depth = .make kind →
        Calls components (.type schema depth active) (.model kind schema (depth + 1) active)
  | content {schema part : Schema} {depth : Nat} {active : List String} {kind : SchemaKind} :
      part ∈ schema.contentsAs kind →
        Calls components (.model kind schema depth active) (.type part 0 active)
  | reference {schema : Schema} {depth : Nat} {active : List String} {key : String} :
      key ∈ schema.memberKeys →
        Calls components (.model .composition schema depth active) (.member key depth active)
  | hop {target : Schema} {depth : Nat} {active : List String} {key inner : String} :
      depth ≤ maxDepth → components.lookup key = some target → target.kind = .typeAlias →
        aliasTarget? target = some inner →
          Calls components (.member key depth active) (.member inner (depth + 1) active)
  | lower {target : Schema} {depth : Nat} {active : List String} {key : String} :
      depth ≤ maxDepth → components.lookup key = some target → target.kind ≠ .typeAlias →
        Calls components (.member key depth active) (.component key target (depth + 1) active)
  | entered {schema : Schema} {depth : Nat} {active : List String} {key : String} :
      key ∉ active → schema.kind ≠ .typeAlias →
        Calls components (.component key schema depth active)
          (.model schema.kind schema depth (key :: active))

def Call.next (components : List (String × Schema)) : Call → List Call
  | .type schema depth active =>
    match plan components schema depth with
    | .settled _ => []
    | .onward passage next => [.type next (passage.depth depth) active]
    | .make kind => [.model kind schema (depth + 1) active]
  | .model kind schema depth active =>
    let members := if kind = .composition then schema.memberKeys else []
    (schema.contentsAs kind).map (.type · 0 active) ++ members.map (.member · depth active)
  | .member key depth active =>
    match components.lookup key with
    | none => []
    | some target =>
      if maxDepth < depth then []
      else if target.kind = .typeAlias then
        (aliasTarget? target).toList.map (.member · (depth + 1) active)
      else [.component key target (depth + 1) active]
  | .component key schema depth active =>
    if active.contains key || schema.kind = .typeAlias then []
    else [.model schema.kind schema depth (key :: active)]

theorem Calls.mem_next {components : List (String × Schema)} {call call' : Call}
    (calls : Calls components call call') : call' ∈ call.next components := by
  cases calls with
  | onward planned => simp [Call.next, planned]
  | made planned => simp [Call.next, planned]
  | content mem => simp [Call.next, mem]
  | reference mem => simp [Call.next, mem]
  | hop shallow looked kind hop => simp [Call.next, looked, kind, hop, Nat.not_lt.2 shallow]
  | lower shallow looked kind => simp [Call.next, looked, kind, Nat.not_lt.2 shallow]
  | entered free kind => simp [Call.next, free, kind]

/-- Whether a call and all that it leads to have a property. It must lead no further than `steps`. -/
def Call.always (components : List (String × Schema)) (p : Call → Bool) : (steps : Nat) → Call → Bool
  | 0, _ => false
  | steps + 1, call => p call && (call.next components).all (always components p steps)

theorem Call.of_always {components : List (String × Schema)} {p : Call → Bool} {steps : Nat}
    {call : Call} (always : call.always components p steps = true) :
    p call = true ∧ ∃ fewer, ∀ call' ∈ call.next components, call'.always components p fewer = true := by
  cases steps with
  | zero => cases always
  | succ fewer =>
    simp only [Call.always, Bool.and_eq_true, List.all_eq_true] at always
    exact ⟨always.1, fewer, always.2⟩

theorem Call.holds_of_always {components : List (String × Schema)} {p : Call → Bool} {steps : Nat}
    {call call' : Call} (always : call.always components p steps = true)
    (path : Relation.ReflTransGen (Calls components) call call') : p call' = true := by
  have still : ∃ steps, call'.always components p steps = true := by
    induction path with
    | refl => exact ⟨steps, always⟩
    | tail _ calls ih =>
      obtain ⟨steps, always⟩ := ih
      obtain ⟨-, fewer, after⟩ := Call.of_always always
      exact ⟨fewer, after _ calls.mem_next⟩
  obtain ⟨steps, always⟩ := still
  exact (Call.of_always always).1

def Closed (components : List (String × Schema)) (begun : Call → Prop) : Prop :=
  ∀ {call call'}, begun call → Calls components call call' → begun call'

theorem Closed.of_path {components : List (String × Schema)} {begun : Call → Prop} {call call' : Call}
    (closed : Closed components begun) (start : begun call)
    (path : Relation.ReflTransGen (Calls components) call call') : begun call' := by
  induction path with
  | refl => exact start
  | tail _ calls ih => exact closed ih calls

theorem mem_of_lookup {components : List (String × Schema)} {key : String} {schema : Schema}
    (looked : components.lookup key = some schema) : (key, schema) ∈ components := by
  obtain ⟨before, after, split, -⟩ := List.lookup_eq_some_iff.1 looked
  simp [split]

def Listed (components : List (String × Schema)) : Call → Prop
  | .component key schema _ _ => (key, schema) ∈ components
  | _ => True

theorem closed_listed (components : List (String × Schema)) : Closed components (Listed components) := by
  intro call call' _ calls
  cases calls with
  | lower _ looked _ => exact mem_of_lookup looked
  | _ => trivial

end OpenApiCodegen.Lowering
