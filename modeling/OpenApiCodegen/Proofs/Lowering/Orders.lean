import OpenApiCodegen.Proofs.Lowering.HalfMade

namespace OpenApiCodegen.Lowering

open OpenApi (Schema Document NormalDocument componentName)

/-- The components have names of their own, nothing inherits from itself, only records and
compositions are inherited from, and the limit of nesting is not met. -/
structure Hereditary (components : List (String × Schema)) : Prop where
  distinct : (components.map fun entry => typeName entry.1).Nodup
  acyclic : ∀ key, ¬ Relation.TransGen (Inherits components) key key
  plain : ∀ {heir member}, Inherits components heir member →
    ∃ schema, components.lookup member = some schema ∧
      (schema.kind = .record ∨ schema.kind = .composition)
  shallow : Shallow components

section Orders

variable {components components' : List (String × Schema)}

theorem Hereditary.inheritable (hereditary : Hereditary components) {key : String}
    (apart : ∀ heir member, Ancestor components key heir → Inherits components heir member →
      ¬ Demands components member heir) : Inheritable components key where
  plain _ inherits := hereditary.plain inherits
  shallow _ _ reached := hereditary.shallow reached
  apart ancestor inherits := apart _ _ ancestor inherits

theorem OnlyThrough.of_lookup (same : ∀ key, components'.lookup key = components.lookup key)
    {heir member wire : String} (only : OnlyThrough components heir member wire) :
    OnlyThrough components' heir member wire := by
  constructor
  · intro schema looked
    exact only.own schema (same heir ▸ looked)
  · intro schema looked
    exact only.inline schema (same heir ▸ looked)
  · intro other names inherits apart merged
    exact only.others (inherits.of_lookup same) apart (merged.of_lookup same)

end Orders

/-- Inheritance is complete in every order of the components when no component demands one that
inherits from it. When one does, an order that begins with it leaves its heir without the names that
only it brings. -/
theorem inheritance_of_order (doc : NormalDocument) (hereditary : Hereditary doc.document.components) :
    (∀ key schema, (key, schema) ∈ doc.document.components → schema.kind = .composition →
      (∀ heir member, Ancestor doc.document.components key heir →
        Inherits doc.document.components heir member → ¬ Demands doc.document.components member heir) →
        ∀ doc' api, doc'.document.components.Perm doc.document.components → lower doc' = .ok api →
          ∃ names model, Merged doc.document.components key names ∧
            api.model? (typeName key) = some model ∧ wireNames model.properties = names) ∧
    ∀ heir member wire names, Inherits doc.document.components heir member →
      Demands doc.document.components member heir → Merged doc.document.components heir names →
        wire ∈ names → OnlyThrough doc.document.components heir member wire →
          ∀ doc' api target rest, doc'.document.components.Perm doc.document.components →
            doc'.document.components = (member, target) :: rest → lower doc' = .ok api →
              ∃ model, api.model? (typeName heir) = some model ∧ wire ∉ wireNames model.properties := by
  constructor
  · intro key schema listed kind apart doc' api order run
    exact names_inherited hereditary.distinct listed kind (hereditary.inheritable apart) order run
  · intro heir member wire names inherits demands merged mem only doc' api target rest order first run
    have same := lookup_eq_of_perm hereditary.distinct order
    have same' : ∀ key, doc.document.components.lookup key = doc'.document.components.lookup key :=
      fun key => (same key).symm
    have distinct' : (doc'.document.components.map fun entry => typeName entry.1).Nodup :=
      (order.map _).nodup_iff.2 hereditary.distinct
    have shallow' : Shallow doc'.document.components :=
      fun reached => hereditary.shallow (reached.of_perm same order)
    have other : heir ≠ member := by
      rintro rfl
      exact hereditary.acyclic heir (.single inherits)
    exact name_missing distinct' shallow' other (inherits.of_lookup same')
      (demands.of_perm same' order.symm) (merged.of_lookup same') (only.of_lookup same) first run

def animal (more : List (String × Schema)) : Schema :=
  { typeNames := some (.single "object")
    properties := some (("name", { typeNames := some (.single "string") }) :: more) }

def dog : Schema :=
  { allOf := some
      [{ ref := some "#/components/schemas/Animal" },
        { typeNames := some (.single "object")
          properties := some [("bark", { typeNames := some (.single "boolean") })] }] }

def friend : String × Schema :=
  ("friend",
    { allOf := some
        [{ ref := some "#/components/schemas/Dog" },
          { typeNames := some (.single "object")
            properties := some [("since", { typeNames := some (.single "string") })] }] })

def kennel (more : List (String × Schema)) : List (String × Schema) :=
  [("Animal", animal more), ("Dog", dog)]

section Kennel

variable {more : List (String × Schema)}

theorem kind_animal : (animal more).kind = .record := rfl

theorem kennel_inherits {heir member : String} (inherits : Inherits (kennel more) heir member) :
    heir = "Dog" ∧ member = "Animal" := by
  obtain ⟨schema, looked, kind, mem⟩ := inherits
  rcases List.mem_cons.1 (mem_of_lookup looked) with same | later
  · cases same
    rw [kind_animal] at kind
    cases kind
  · cases List.mem_singleton.1 later
    have members : dog.memberKeys = ["Animal"] := by rfl
    rw [members] at mem
    exact ⟨rfl, List.mem_singleton.1 mem⟩

def Call.isFollowed : Call → Bool
  | .member _ depth _ => depth ≤ maxDepth
  | _ => true

theorem shallow_of_always {components : List (String × Schema)} {steps : Nat}
    (followed : ∀ entry ∈ components,
      (Call.component entry.1 entry.2 0 []).always components Call.isFollowed steps = true) :
    Shallow components := by
  rintro key depth active ⟨first, schema, listed, path⟩
  have holds := Call.holds_of_always (followed _ listed) path
  simpa [Call.isFollowed] using holds

theorem kennel_hereditary (more : List (String × Schema))
    (distinct : ((kennel more).map fun entry => typeName entry.1).Nodup)
    (followed : ∀ entry ∈ kennel more,
      (Call.component entry.1 entry.2 0 []).always (kennel more) Call.isFollowed 20 = true) :
    Hereditary (kennel more) := by
  constructor
  · exact distinct
  · intro key cycle
    obtain ⟨_, first, -⟩ := Relation.TransGen.head'_iff.1 cycle
    obtain ⟨_, -, last⟩ := Relation.TransGen.tail'_iff.1 cycle
    have one := (kennel_inherits first).1
    have other := (kennel_inherits last).2
    rw [one] at other
    simp at other
  · intro heir member inherits
    obtain ⟨-, rfl⟩ := kennel_inherits inherits
    exact ⟨animal more, rfl, .inl kind_animal⟩
  · exact shallow_of_always followed

end Kennel

theorem kennel_merged (more : List (String × Schema)) :
    Merged (kennel more) "Dog" (firsts (propertyKeys (animal more) ++ (["bark"] ++ []) ++ propertyKeys dog)) := by
  have named : componentName "#/components/schemas/Animal" = "Animal" := by rfl
  have inherited : Merged (kennel more) (componentName "#/components/schemas/Animal")
      (propertyKeys (animal more)) := by
    rw [named]
    exact .record rfl kind_animal
  refine .composition rfl (by decide) (.reference rfl inherited ?_)
  exact .inline (by decide) rfl .nil

/-- The declared order leaves the dog without what it inherits, as the animal is half made when the
dog is needed for its friend. -/
theorem kennel_incomplete :
    Hereditary (NormalDocument.of (declaring (kennel [friend]))).document.components ∧
      Merged (NormalDocument.of (declaring (kennel [friend]))).document.components "Dog"
          ["name", "friend", "bark"] ∧
        (lower (.of (declaring (kennel [friend])))).toOption.bind (fun api =>
            (api.model? "Dog").map fun model => wireNames model.properties) = some ["bark"] := by
  have same : (NormalDocument.of (declaring (kennel [friend]))).document.components =
      kennel [friend] := rfl
  have names : firsts (propertyKeys (animal [friend]) ++ (["bark"] ++ []) ++ propertyKeys dog) =
      ["name", "friend", "bark"] := by
    rfl
  rw [same]
  refine ⟨kennel_hereditary [friend] (by decide) (by decide), names ▸ kennel_merged [friend], ?_⟩
  rfl

theorem friend_demanded : Demands (kennel [friend]) "Animal" "Dog" := by
  refine ⟨animal [friend], 0, [], dog, 2, ["Animal"], List.mem_cons_self, ?_⟩
  have plain : (animal [friend]).kind ≠ .typeAlias := by simp [kind_animal]
  have content : friend.2 ∈ (animal [friend]).contentsAs (animal [friend]).kind := by
    rw [kind_animal]
    exact List.mem_cons_of_mem _ List.mem_cons_self
  have planned : plan (kennel [friend]) friend.2 0 = .make .composition := rfl
  have member : "Dog" ∈ friend.2.memberKeys := by decide
  have lowered : Calls (kennel [friend]) (.member "Dog" 1 ["Animal"]) (.component "Dog" dog 2 ["Animal"]) :=
    .lower (by decide) rfl (by decide)
  exact .head (.entered List.not_mem_nil plain) (.head (.content content) (.head (.made planned)
    (.head (.reference member) (.single lowered))))

theorem friend_onlyThrough : OnlyThrough (kennel [friend]) "Dog" "Animal" "name" := by
  have looked : (kennel [friend]).lookup "Dog" = some dog := rfl
  have own : "name" ∉ propertyKeys dog := by decide
  have inline : ∀ part ∈ dog.inlineMembers, "name" ∉ propertyKeys part := by decide
  constructor
  · simpa [looked] using own
  · simpa [looked] using inline
  · intro other names inherits apart
    exact absurd (kennel_inherits inherits).2 apart

def Call.isSolitary : Call → Prop
  | .component key schema _ _ => key = "Animal" ∧ schema = animal []
  | .model kind schema _ _ => kind = .record ∧ schema = animal []
  | .type schema _ _ => schema = { typeNames := some (.single "string") }
  | .member _ _ _ => False

theorem closed_isSolitary {components : List (String × Schema)} :
    Closed components Call.isSolitary := by
  intro call call' solitary calls
  have settled : ∀ depth, ∃ type,
      plan components { typeNames := some (.single "string") } depth = .settled type := by
    intro depth
    unfold plan
    by_cases deep : maxDepth < depth
    · exact ⟨.any, if_pos deep⟩
    · exact ⟨.text, if_neg deep⟩
  cases calls with
  | @onward _ _ depth _ _ planned =>
    obtain rfl := solitary
    obtain ⟨type, same⟩ := settled depth
    rw [same] at planned
    cases planned
  | @made _ depth _ _ planned =>
    obtain rfl := solitary
    obtain ⟨type, same⟩ := settled depth
    rw [same] at planned
    cases planned
  | content mem =>
    obtain ⟨rfl, rfl⟩ := solitary
    exact List.mem_singleton.1 mem
  | reference mem => cases solitary.1
  | hop => cases solitary
  | lower => cases solitary
  | entered free kind =>
    obtain ⟨rfl, rfl⟩ := solitary
    exact ⟨kind_animal, rfl⟩

theorem not_demands_solitary : ¬ Demands (kennel []) "Animal" "Dog" := by
  rintro ⟨schema, depth, active, schema', depth', active', listed, path⟩
  have start : (Call.component "Animal" schema depth active).isSolitary := by
    rcases List.mem_cons.1 listed with same | later
    · cases same
      exact ⟨rfl, rfl⟩
    · have same := List.mem_singleton.1 later
      simp at same
  have finish := closed_isSolitary.of_path start path
  exact absurd finish.1 (by decide)

/-- Without friends the dog inherits from the animal though it is declared first; with a friend it does
not though the animal is declared first. -/
theorem kennel_orders :
    (∃ api names model, lower (.of (declaring (kennel []).reverse)) = .ok api ∧
      Merged (kennel []) "Dog" names ∧ api.model? (typeName "Dog") = some model ∧
        wireNames model.properties = names) ∧
    ∃ api model, lower (.of (declaring (kennel [friend]))) = .ok api ∧
      api.model? (typeName "Dog") = some model ∧ "name" ∉ wireNames model.properties := by
  obtain ⟨api, run⟩ : ∃ api, lower (.of (declaring (kennel []).reverse)) = .ok api :=
    exists_of_toOption (by rfl)
  obtain ⟨api', run'⟩ : ∃ api, lower (.of (declaring (kennel [friend]))) = .ok api :=
    exists_of_toOption (by rfl)
  constructor
  · have hereditary : Hereditary (NormalDocument.of (declaring (kennel []))).document.components :=
      kennel_hereditary [] (by decide) (by decide)
    have complete := (inheritance_of_order _ hereditary).1 "Dog" dog
      (List.mem_cons_of_mem _ List.mem_cons_self) (by decide)
    have apart : ∀ heir member, Ancestor (kennel []) "Dog" heir → Inherits (kennel []) heir member →
        ¬ Demands (kennel []) member heir := by
      intro heir member _ inherits
      obtain ⟨rfl, rfl⟩ := kennel_inherits inherits
      exact not_demands_solitary
    have order : (NormalDocument.of (declaring (kennel []).reverse)).document.components.Perm
        (NormalDocument.of (declaring (kennel []))).document.components :=
      (List.reverse_perm (kennel []) : (kennel []).reverse.Perm (kennel []))
    obtain ⟨names, model, merged, answer, same⟩ :=
      complete apart (.of (declaring (kennel []).reverse)) api order run
    exact ⟨api, names, model, run, merged, answer, same⟩
  · have hereditary : Hereditary (NormalDocument.of (declaring (kennel [friend]))).document.components :=
      kennel_hereditary [friend] (by decide) (by decide)
    have inherits : Inherits (kennel [friend]) "Dog" "Animal" :=
      ⟨dog, rfl, by decide, by decide⟩
    have name : "name" ∈ firsts (propertyKeys (animal [friend]) ++ (["bark"] ++ []) ++ propertyKeys dog) := by
      decide
    obtain ⟨model, answer, missing⟩ := (inheritance_of_order _ hereditary).2 "Dog" "Animal" "name" _
      inherits friend_demanded (kennel_merged [friend]) name friend_onlyThrough
      (.of (declaring (kennel [friend]))) api' _ _ (List.Perm.refl _) rfl run'
    exact ⟨api', model, run', answer, missing⟩

end OpenApiCodegen.Lowering
