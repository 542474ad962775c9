import OpenApiCodegen.Proofs.Lowering.Termination

namespace OpenApiCodegen.Lowering

open OpenApi (Schema SchemaKind Document componentName)

section Inside

variable {components : List (String × Schema)} {schema next part : Schema} {depth : Nat}
  {passage : Passage} {kind : SchemaKind}

theorem mem_children_of_soleMember {member : Schema} (sole : schema.soleMember? = some member) :
    member ∈ schema.children := by
  unfold Schema.soleMember? at sole
  rcases Option.or_eq_some_iff.1 sole with first | ⟨-, first⟩
  · have mem := List.mem_of_mem_filter (List.mem_of_head? first)
    simp [Schema.children, mem]
  · have mem := List.mem_of_mem_filter (List.mem_of_head? first)
    simp only [Schema.alternatives, List.mem_append] at mem
    simp only [Schema.children, List.mem_append]
    tauto

theorem mem_children_of_planWritten (planned : planWritten schema = .onward passage next) :
    next ∈ schema.children := by
  have items : ∀ items ∈ schema.items, items ∈ schema.children := by
    intro items written
    simp [Schema.children, Option.mem_def.1 written]
  have value : ∀ value, schema.additional = some (.schema value) → value ∈ schema.children := by
    intro value written
    simp [Schema.children, Schema.valueSchemas, written]
  have sole : ∀ member ∈ schema.soleMember?, member ∈ schema.children :=
    fun member sole => mem_children_of_soleMember sole
  unfold planWritten planObject at planned
  grind

theorem plan_onward (planned : plan components schema depth = .onward passage next) :
    (∃ key, components.lookup key = some next) ∨ next ∈ schema.children := by
  unfold plan at planned
  split at planned
  · cases planned
  · cases written : schema.ref with
    | none =>
      rw [written] at planned
      exact .inr (mem_children_of_planWritten planned)
    | some ref =>
      rw [written] at planned
      dsimp only at planned
      cases looked : components.lookup (componentName ref) with
      | none =>
        rw [looked] at planned
        cases planned
      | some target =>
        rw [looked] at planned
        dsimp only at planned
        split at planned
        · cases planned
          exact .inl ⟨_, looked⟩
        · cases planned

theorem planWritten_of_plan (planned : plan components schema depth = .make kind) :
    planWritten schema = .make kind := by
  unfold plan at planned
  split at planned
  · cases planned
  · cases written : schema.ref with
    | none => rwa [written] at planned
    | some ref =>
      rw [written] at planned
      dsimp only at planned
      split at planned
      · cases planned
      · split at planned <;> cases planned

theorem le_maxDepth_of_plan (planned : plan components schema depth ≠ .settled .any) :
    depth ≤ maxDepth := by
  by_contra deep
  exact planned (if_pos (by omega))

theorem contents_subset_children (schema : Schema) : schema.contents ⊆ schema.children := by
  intro part mem
  simp only [Schema.contents, List.mem_append] at mem
  simp only [Schema.children, List.mem_append]
  tauto

theorem mem_children_of_contentsAs (mem : part ∈ schema.contentsAs kind) :
    part ∈ schema.children ∨ ∃ member ∈ schema.children, part ∈ member.children := by
  have own : ∀ part ∈ schema.contents, part ∈ schema.children := contents_subset_children schema
  cases kind with
  | enumeration => cases mem
  | union => exact .inl (own part (List.mem_append_left _ mem))
  | composition =>
    rcases List.mem_append.1 mem with inside | mem
    · obtain ⟨member, inline, inside⟩ := List.mem_flatMap.1 inside
      have listed := List.mem_of_mem_filter inline
      exact .inr ⟨member, by simp [Schema.children, listed], contents_subset_children member inside⟩
    · exact .inl (own part mem)
  | record => exact .inl (own part mem)
  | typeAlias => exact .inl (own part mem)
  | unsupported reason => cases mem

end Inside

section Rank

variable {components : List (String × Schema)} {places : List Place} {place next : Place}

open Classical in
noncomputable def rank (components : List (String × Schema)) (places : List Place) (place : Place) : Nat :=
  (places.toFinset.filter (Relation.ReflTransGen (Needs components) place)).card

theorem rank_le_length : rank components places place ≤ places.length := by
  classical
  exact (Finset.card_filter_le _ _).trans places.toFinset_card_le

theorem rank_lt (mem : place ∈ places) (needs : Needs components place next)
    (acyclic : ¬ Relation.TransGen (Needs components) place place) :
    rank components places next < rank components places place := by
  classical
  apply Finset.card_lt_card
  rw [Finset.ssubset_iff_of_subset]
  · refine ⟨place, by simp [mem, Relation.ReflTransGen.refl], ?_⟩
    simp only [Finset.mem_filter, not_and]
    exact fun _ back => acyclic (Relation.TransGen.head' needs back)
  · intro other reached
    simp only [Finset.mem_filter] at reached ⊢
    exact ⟨reached.1, .head needs reached.2⟩

end Rank

def placesOf (schema : Schema) : List Place :=
  (List.range (maxDepth + 1)).map (.type schema) ++
    .model schema.kind schema ::
      match planWritten schema with
      | .make kind => [.model kind schema]
      | _ => []

theorem length_placesOf_le (schema : Schema) : (placesOf schema).length ≤ maxDepth + 3 := by
  unfold placesOf
  cases planWritten schema <;> simp

def idle (components : List (String × Schema)) (active : List String) : Nat :=
  (components.filter fun entry => !active.contains entry.1).length

theorem idle_cons_lt {components : List (String × Schema)} {key : String} {schema : Schema}
    {active : List String} (mem : (key, schema) ∈ components) (free : key ∉ active) :
    idle components (key :: active) < idle components active := by
  have others : components.filter (fun entry => !(key :: active).contains entry.1) =
      (components.filter fun entry => !active.contains entry.1).filter fun entry => entry.1 != key := by
    rw [List.filter_filter]
    congr 1
    funext entry
    rw [List.contains_cons, Bool.not_or]
    rfl
  unfold idle
  rw [others, List.length_filter_lt_length_iff_exists]
  exact ⟨(key, schema), List.mem_filter.2 ⟨mem, by simp [free]⟩, by simp⟩

section Measure

variable {doc : Document}

def allPlaces (doc : Document) : List Place :=
  doc.allSchemas.flatMap placesOf

theorem length_allPlaces_le (doc : Document) :
    (allPlaces doc).length ≤ (documentWeight doc + 1) * (maxDepth + 3) := by
  have each : ∀ schemas : List Schema,
      (schemas.flatMap placesOf).length ≤ schemas.length * (maxDepth + 3) := by
    intro schemas
    induction schemas with
    | nil => simp
    | cons schema rest ih =>
      have head := length_placesOf_le schema
      rw [List.flatMap_cons, List.length_append, List.length_cons, Nat.succ_mul]
      omega
  exact (each doc.allSchemas).trans (Nat.mul_le_mul_right _ doc.length_allSchemas_le)

noncomputable def placeRank (doc : Document) (place : Place) : Nat :=
  rank doc.components (allPlaces doc) place

def span (doc : Document) : Nat :=
  (allPlaces doc).length + (maxDepth + 4)

noncomputable def callMeasure (doc : Document) : Call → Nat
  | .type schema depth active =>
    idle doc.components active * span doc + placeRank doc (.type schema depth) + (maxDepth + 4)
  | .model kind schema _ active =>
    idle doc.components active * span doc + placeRank doc (.model kind schema) + (maxDepth + 4)
  | .member _ depth active => idle doc.components active * span doc + (maxDepth + 3 - depth)
  | .component _ _ _ active => idle doc.components active * span doc + 1

def Sound (doc : Document) : Call → Prop
  | .type schema depth _ => schema ∈ doc.allSchemas ∧ ¬ Endless doc.components (.type schema depth)
  | .model kind schema _ _ =>
    schema ∈ doc.allSchemas ∧ Place.model kind schema ∈ placesOf schema ∧
      ¬ Endless doc.components (.model kind schema)
  | .member _ _ _ => True
  | .component key schema _ _ => (key, schema) ∈ doc.components

/-- No component has a model that expands without end. -/
def Bounded (doc : Document) : Prop :=
  ∀ entry ∈ doc.components, entry.2.kind ≠ .typeAlias →
    ¬ Endless doc.components (.model entry.2.kind entry.2)

theorem mem_allSchemas_of_component {key : String} {schema : Schema}
    (mem : (key, schema) ∈ doc.components) : schema ∈ doc.allSchemas := by
  refine OpenApi.Document.mem_allSchemas_of_root ?_
  simp only [OpenApi.Document.roots, List.append_assoc, List.mem_append]
  exact .inl (List.mem_map_of_mem mem)

theorem closed_sound (bounded : Bounded doc) : Closed doc.components (Sound doc) := by
  intro call call' sound calls
  cases calls with
  | onward planned =>
    refine ⟨?_, fun endless => sound.2 (endless.of_needs (.onward planned))⟩
    rcases plan_onward planned with ⟨key, looked⟩ | inside
    · exact mem_allSchemas_of_component (mem_of_lookup looked)
    · exact OpenApi.Document.children_subset_allSchemas sound.1 inside
  | made planned =>
    refine ⟨sound.1, ?_, fun endless => sound.2 (endless.of_needs (.made planned))⟩
    have written := planWritten_of_plan planned
    simp [placesOf, written]
  | content mem =>
    refine ⟨?_, fun endless => sound.2.2 (endless.of_needs (.content mem))⟩
    rcases mem_children_of_contentsAs mem with inside | ⟨member, between, inside⟩
    · exact OpenApi.Document.children_subset_allSchemas sound.1 inside
    · have middle := OpenApi.Document.children_subset_allSchemas sound.1 between
      exact OpenApi.Document.children_subset_allSchemas middle inside
  | reference mem => trivial
  | hop shallow looked kind hop => trivial
  | lower shallow looked kind => exact mem_of_lookup looked
  | entered free kind =>
    exact ⟨mem_allSchemas_of_component sound, by simp [placesOf], bounded _ sound kind⟩

theorem mem_allPlaces {schema : Schema} {place : Place} (mem : schema ∈ doc.allSchemas)
    (inside : place ∈ placesOf schema) : place ∈ allPlaces doc :=
  List.mem_flatMap.2 ⟨schema, mem, inside⟩

theorem placeRank_lt {schema : Schema} {place next : Place} (mem : schema ∈ doc.allSchemas)
    (inside : place ∈ placesOf schema) (finite : ¬ Endless doc.components place)
    (needs : Needs doc.components place next) : placeRank doc next < placeRank doc place :=
  rank_lt (mem_allPlaces mem inside) needs fun loop => finite ⟨place, .refl, loop⟩

theorem mem_placesOf_type {components : List (String × Schema)} {schema : Schema} {depth : Nat}
    (planned : plan components schema depth ≠ .settled .any) :
    Place.type schema depth ∈ placesOf schema := by
  have shallow := le_maxDepth_of_plan planned
  refine List.mem_append_left _ (List.mem_map.2 ⟨depth, ?_, rfl⟩)
  rw [List.mem_range]
  omega

theorem callMeasure_lt {call call' : Call} (sound : Sound doc call)
    (calls : Calls doc.components call call') : callMeasure doc call' < callMeasure doc call := by
  cases calls with
  | onward planned =>
    have inside := mem_placesOf_type (by rw [planned]; simp)
    have lower := placeRank_lt sound.1 inside sound.2 (.onward planned)
    simp only [callMeasure]
    omega
  | made planned =>
    have inside := mem_placesOf_type (by rw [planned]; simp)
    have lower := placeRank_lt sound.1 inside sound.2 (.made planned)
    simp only [callMeasure]
    omega
  | content mem =>
    have lower := placeRank_lt sound.1 sound.2.1 sound.2.2 (.content mem)
    simp only [callMeasure]
    omega
  | reference mem =>
    simp only [callMeasure]
    omega
  | hop shallow looked kind hop =>
    simp only [callMeasure]
    omega
  | lower shallow looked kind =>
    simp only [callMeasure]
    omega
  | @entered schema _ active key free kind =>
    have fewer := idle_cons_lt sound free
    have counted : placeRank doc (.model schema.kind schema) ≤ (allPlaces doc).length := rank_le_length
    have room := Nat.mul_le_mul_right (span doc) fewer
    rw [Nat.succ_mul] at room
    simp only [callMeasure]
    unfold span at *
    omega

end Measure

end OpenApiCodegen.Lowering
