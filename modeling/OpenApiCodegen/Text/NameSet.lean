namespace OpenApiCodegen

def insertAscending (name : String) : List String → List String
  | [] => [name]
  | first :: rest =>
    if name < first then name :: first :: rest
    else if name = first then first :: rest
    else first :: insertAscending name rest

theorem mem_insertAscending {name x : String} {names : List String} :
    x ∈ insertAscending name names ↔ x = name ∨ x ∈ names := by
  induction names with
  | nil => simp [insertAscending]
  | cons first rest ih =>
    unfold insertAscending
    split
    · simp
    · split
      · rename_i h
        simp [h]
      · simp only [List.mem_cons, ih]
        constructor <;> rintro (h | h | h) <;> simp [h]

theorem pairwise_insertAscending {name : String} {names : List String}
    (sorted : names.Pairwise (· < ·)) : (insertAscending name names).Pairwise (· < ·) := by
  induction names with
  | nil => simp [insertAscending]
  | cons first rest ih =>
    have ⟨below, restSorted⟩ := List.pairwise_cons.1 sorted
    unfold insertAscending
    split
    · rename_i h
      refine List.pairwise_cons.2 ⟨fun x hx => ?_, sorted⟩
      rcases List.mem_cons.1 hx with rfl | hx
      · exact h
      · exact String.lt_trans h (below x hx)
    · split
      · exact sorted
      · rename_i notLess notSame
        refine List.pairwise_cons.2 ⟨fun x hx => ?_, ih restSorted⟩
        rcases mem_insertAscending.1 hx with rfl | hx
        · refine Decidable.byContradiction fun notGreater => notSame ?_
          exact String.le_antisymm (String.not_lt.1 notGreater) (String.not_lt.1 notLess)
        · exact below x hx

structure NameSet where
  names : List String
  sorted : names.Pairwise (· < ·)

namespace NameSet

def empty : NameSet := ⟨[], .nil⟩

instance : Inhabited NameSet := ⟨empty⟩

instance : Membership String NameSet := ⟨fun set name => name ∈ set.names⟩

def contains (set : NameSet) (name : String) : Bool :=
  set.names.contains name

def insert (set : NameSet) (name : String) : NameSet :=
  ⟨insertAscending name set.names, pairwise_insertAscending set.sorted⟩

def insertAll (set : NameSet) (names : List String) : NameSet :=
  names.foldl insert set

def ofList (names : List String) : NameSet :=
  empty.insertAll names

def union (a b : NameSet) : NameSet :=
  a.insertAll b.names

def erase (set : NameSet) (name : String) : NameSet :=
  ⟨set.names.filter (· != name), set.sorted.filter _⟩

def filter (p : String → Bool) (set : NameSet) : NameSet :=
  ⟨set.names.filter p, set.sorted.filter _⟩

theorem mem_def {set : NameSet} {x : String} : x ∈ set ↔ x ∈ set.names :=
  Iff.rfl

@[simp] theorem mem_empty {x : String} : x ∈ empty ↔ False := by
  simp [mem_def, empty]

@[simp] theorem mem_insert {set : NameSet} {name x : String} :
    x ∈ set.insert name ↔ x = name ∨ x ∈ set :=
  mem_insertAscending

@[simp] theorem mem_insertAll {set : NameSet} {names : List String} {x : String} :
    x ∈ set.insertAll names ↔ x ∈ names ∨ x ∈ set := by
  induction names generalizing set with
  | nil => simp [insertAll]
  | cons name rest ih =>
    have step : set.insertAll (name :: rest) = (set.insert name).insertAll rest := rfl
    rw [step, ih, mem_insert, List.mem_cons, or_left_comm, or_assoc]

@[simp] theorem mem_ofList {names : List String} {x : String} : x ∈ ofList names ↔ x ∈ names := by
  simp [ofList]

@[simp] theorem mem_union {a b : NameSet} {x : String} : x ∈ a.union b ↔ x ∈ b ∨ x ∈ a :=
  mem_insertAll

@[simp] theorem mem_erase {set : NameSet} {name x : String} :
    x ∈ set.erase name ↔ x ∈ set ∧ x ≠ name := by
  simp [mem_def, erase]

@[simp] theorem mem_filter {p : String → Bool} {set : NameSet} {x : String} :
    x ∈ set.filter p ↔ x ∈ set ∧ p x = true := by
  simp [mem_def, filter]

end NameSet

end OpenApiCodegen
