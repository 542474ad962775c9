import Mathlib.Data.List.Nodup
import OpenApiCodegen.Markup.Decode

namespace OpenApiCodegen

namespace Json

variable {α : Type} {key : String} {value : α} {table : List (String × α)}

theorem mem_insertMember {entry : String × α} (mem : entry ∈ insertMember key value table) :
    entry = (key, value) ∨ entry ∈ table := by
  induction table with
  | nil => exact .inl (List.mem_singleton.1 mem)
  | cons first rest ih =>
    unfold insertMember at mem
    split at mem
    · exact (List.mem_cons.1 mem).imp_right (List.mem_cons_of_mem first)
    · rcases List.mem_cons.1 mem with rfl | later
      · exact .inr List.mem_cons_self
      · exact (ih later).imp_right (List.mem_cons_of_mem first)

theorem nodup_insertMember (key : String) (value : α) (distinct : (table.map (·.1)).Nodup) :
    ((insertMember key value table).map (·.1)).Nodup := by
  induction table with
  | nil => exact List.nodup_singleton key
  | cons first rest ih =>
    obtain ⟨absent, distinct⟩ := List.nodup_cons.1 distinct
    unfold insertMember
    split
    · rename_i same
      subst same
      exact List.nodup_cons.2 ⟨absent, distinct⟩
    · rename_i other
      refine List.nodup_cons.2 ⟨fun again => ?_, ih distinct⟩
      obtain ⟨entry, mem, same⟩ := List.mem_map.1 again
      rcases mem_insertMember mem with rfl | mem
      · exact other same.symm
      · exact absent (same ▸ List.mem_map_of_mem mem)

theorem collectMembers_spec (members : List (String × α)) :
    ((collectMembers members).map (·.1)).Nodup ∧
      ∀ entry ∈ collectMembers members, entry ∈ members := by
  suffices folded : ∀ (members : List (String × α)) table, (table.map (·.1)).Nodup →
      ((members.foldl (fun table entry => insertMember entry.1 entry.2 table) table).map (·.1)).Nodup ∧
        ∀ entry ∈ members.foldl (fun table entry => insertMember entry.1 entry.2 table) table,
          entry ∈ table ∨ entry ∈ members by
    obtain ⟨distinct, known⟩ := folded members [] List.nodup_nil
    exact ⟨distinct, fun entry mem => (known entry mem).resolve_left List.not_mem_nil⟩
  intro members
  induction members with
  | nil => exact fun table distinct => ⟨distinct, fun entry mem => .inl mem⟩
  | cons first rest ih =>
    intro table distinct
    obtain ⟨distinct, known⟩ := ih _ (nodup_insertMember first.1 first.2 distinct)
    refine ⟨distinct, fun entry mem => ?_⟩
    rcases known entry mem with before | later
    · rcases mem_insertMember before with rfl | before
      · exact .inr List.mem_cons_self
      · exact .inl before
    · exact .inr (List.mem_cons_of_mem first later)

end Json

namespace Markup

variable {α β : Type} {reading : Decode α} {Q : α → Prop} {Q' : β → Prop}

/-- Whatever the reading results in has the property. -/
def Yields (reading : Decode α) (Q : α → Prop) : Prop :=
  ∀ anchors jumps a left, (reading anchors) jumps = some (a, left) → Q a

namespace Yields

theorem run {doc : Document} {a : α} (yields : Yields reading Q) (result : reading.run doc = some a) :
    Q a := by
  obtain ⟨⟨found, left⟩, run, rfl⟩ := Option.map_eq_some_iff.1 result
  exact yields _ _ _ left run

theorem any (reading : Decode α) : Yields reading fun _ => True :=
  fun _ _ _ _ _ => trivial

theorem mono {Q' : α → Prop} (yields : Yields reading Q) (weaker : ∀ a, Q a → Q' a) :
    Yields reading Q' :=
  fun anchors jumps a left run => weaker a (yields anchors jumps a left run)

theorem pure {a : α} (holds : Q a) : Yields (pure a) Q := by
  rintro _ _ _ _ ⟨⟩
  exact holds

theorem failure : Yields (failure : Decode α) Q := by
  rintro _ _ _ _ ⟨⟩

theorem bind {next : α → Decode β} (first : Yields reading Q) (second : ∀ a, Q a → Yields (next a) Q') :
    Yields (reading >>= next) Q' := by
  intro anchors jumps b left run
  have unfolded : (reading >>= next) anchors jumps =
      ((reading anchors) jumps).bind fun found => (next found.1 anchors) found.2 := rfl
  rw [unfolded] at run
  obtain ⟨⟨a, middle⟩, one, two⟩ := Option.bind_eq_some_iff.1 run
  exact second a (first _ _ _ _ one) _ _ _ _ two

theorem map {f : α → β} (first : Yields reading Q) (holds : ∀ a, Q a → Q' (f a)) :
    Yields (f <$> reading) Q' := by
  rw [map_eq_pure_bind]
  exact first.bind fun a held => .pure (holds a held)

theorem mapM {f : α → Decode β} (each : ∀ a, Yields (f a) Q') (items : List α) :
    Yields (items.mapM f) fun results => ∀ b ∈ results, Q' b := by
  induction items with
  | nil => exact .pure (by simp)
  | cons item rest ih =>
    rw [List.mapM_cons]
    refine (each item).bind fun b holds => ih.bind fun results all => .pure ?_
    exact List.forall_mem_cons.2 ⟨holds, all⟩

variable {readValue : Node → Decode α}

theorem readOption (each : ∀ node, Yields (readValue node) Q) (node : Node) :
    Yields (readOption readValue node) fun found => ∀ a ∈ found, Q a := by
  unfold Markup.readOption
  refine (any _).bind fun followed _ => (any _).bind fun absent _ => ?_
  split
  · exact .pure (by simp)
  · exact (each followed).map (by simp)

theorem readList (each : ∀ node, Yields (readValue node) Q) (depth : Nat) (node : Node) :
    Yields (readList readValue depth node) fun items => ∀ a ∈ items, Q a :=
  (any _).bind fun items _ => mapM each items

theorem readTable (each : ∀ node, Yields (readValue node) Q) (depth : Nat) (node : Node) :
    Yields (readTable readValue depth node) fun table =>
      (table.map (·.1)).Nodup ∧ ∀ entry ∈ table, Q entry.2 := by
  unfold Markup.readTable
  have pair : ∀ entry : Node × Node, Yields (do
      let key ← readText entry.1
      let value ← readValue entry.2
      Pure.pure (key, value)) fun pair : String × α => Q pair.2 :=
    fun entry => (any _).bind fun key _ => (each entry.2).bind fun value holds => .pure holds
  refine (any _).bind fun entries _ => (mapM pair entries).bind fun pairs all => .pure ?_
  obtain ⟨distinct, known⟩ := Json.collectMembers_spec pairs
  exact ⟨distinct, fun entry mem => all entry (known entry mem)⟩

variable {fields : Fields} {index : Nat}

theorem optional (each : ∀ node, Yields (readValue node) Q) :
    Yields (fields.optional index readValue) fun found => ∀ a ∈ found, Q a := by
  unfold Fields.optional
  split
  · exact readOption each _
  · split
    · exact failure
    · exact .pure (by simp)

theorem withDefault {default : α} (plain : Q default) (each : ∀ node, Yields (readValue node) Q) :
    Yields (fields.withDefault index default readValue) Q := by
  unfold Fields.withDefault
  split
  · exact each _
  · exact .pure plain

end Yields

end Markup

end OpenApiCodegen
