import OpenApiCodegen.Lowering.Operations
import OpenApiCodegen.Proofs.Lowering.Plan

namespace OpenApiCodegen

section Total

variable {α β : Type} (size : α → Nat)

theorem total_append (items others : List α) :
    total size (items ++ others) = total size items + total size others := by
  induction items with
  | nil => simp [total]
  | cons item rest ih => simp [total, ih, Nat.add_assoc]

theorem total_map (f : β → α) (items : List β) :
    total size (items.map f) = total (fun item => size (f item)) items := by
  induction items with
  | nil => rfl
  | cons item rest ih => simp [total, ih]

theorem total_flatMap (f : β → List α) (items : List β) :
    total size (items.flatMap f) = total (fun item => total size (f item)) items := by
  induction items with
  | nil => rfl
  | cons item rest ih => simp [total, total_append, ih]

theorem total_filterMap (f : β → Option α) (items : List β) :
    total size (items.filterMap f) = total (fun item => ((f item).map size).getD 0) items := by
  induction items with
  | nil => rfl
  | cons item rest ih => cases kept : f item <;> simp [total, kept, ih]

theorem le_total {item : α} {items : List α} (mem : item ∈ items) :
    size item ≤ total size items := by
  induction items with
  | nil => cases mem
  | cons first rest ih =>
    rcases List.mem_cons.1 mem with rfl | mem
    · exact Nat.le_add_right _ _
    · exact Nat.le_trans (ih mem) (Nat.le_add_left _ _)

theorem length_flatMap_le_total {f : α → List β} {items : List α}
    (bounded : ∀ item ∈ items, (f item).length ≤ size item) :
    (items.flatMap f).length ≤ total size items := by
  induction items with
  | nil => simp [total]
  | cons item rest ih =>
    have head := bounded item (by simp)
    have tail := ih fun item mem => bounded item (by simp [mem])
    simp only [List.flatMap_cons, List.length_append, total]
    omega

end Total

namespace OpenApi

namespace Schema

def children (schema : Schema) : List Schema :=
  schema.propertySchemas ++ schema.items.toList ++ schema.anyOf.getD [] ++ schema.oneOf.getD [] ++
    schema.allOf.getD [] ++ schema.valueSchemas

theorem listWeight_eq (schemas : List Schema) : listWeight schemas = total weight schemas := by
  induction schemas with
  | nil => rfl
  | cons schema rest ih => simp [listWeight, total, ih]

theorem entriesWeight_eq (entries : List (String × Schema)) :
    entriesWeight entries = total weight (entries.map (·.2)) := by
  induction entries with
  | nil => rfl
  | cons entry rest ih => simp [entriesWeight, total, ih]

theorem tableWeight_eq (properties : Option (List (String × Schema))) :
    tableWeight properties = total weight ((properties.getD []).map (·.2)) := by
  cases properties <;> simp [tableWeight, entriesWeight_eq, total]

theorem itemWeight_eq (items : Option Schema) : itemWeight items = total weight items.toList := by
  cases items <;> simp [itemWeight, total]

theorem membersWeight_eq (members : Option (List Schema)) :
    membersWeight members = total weight (members.getD []) := by
  cases members <;> simp [membersWeight, listWeight_eq, total]

theorem additionalWeight_eq (schema : Schema) :
    additionalWeight schema.additional = total weight schema.valueSchemas := by
  unfold valueSchemas
  rcases schema.additional with _ | (_ | value) <;> simp [additionalWeight, total]

theorem weight_eq (schema : Schema) : schema.weight = 1 + total weight schema.children := by
  have values := additionalWeight_eq schema
  obtain ⟨_, _, _, _, properties, _, items, _, anyOf, oneOf, allOf, additional, _, _, _, _, _, _⟩ :=
    schema
  rw [weight, tableWeight_eq, itemWeight_eq, membersWeight_eq, membersWeight_eq, membersWeight_eq,
    values]
  simp only [children, propertySchemas, total_append]
  omega

theorem weight_lt_of_mem_children {schema child : Schema} (mem : child ∈ schema.children) :
    child.weight < schema.weight := by
  have part := le_total weight mem
  rw [weight_eq schema]
  omega

def subschemas : (depth : Nat) → Schema → List Schema
  | 0, _ => []
  | depth + 1, schema => schema :: schema.children.flatMap (subschemas depth)

theorem length_subschemas_le (depth : Nat) (schema : Schema) :
    (schema.subschemas depth).length ≤ schema.weight := by
  induction depth generalizing schema with
  | zero => simp [subschemas]
  | succ depth ih =>
    have below := length_flatMap_le_total weight fun child (_ : child ∈ schema.children) => ih child
    rw [subschemas, List.length_cons, weight_eq]
    omega

theorem mem_subschemas_self {depth : Nat} {schema : Schema} (deep : schema.weight ≤ depth) :
    schema ∈ schema.subschemas depth := by
  have positive : 0 < schema.weight := by
    rw [weight_eq]
    omega
  cases depth with
  | zero => omega
  | succ depth => exact List.mem_cons_self

theorem children_subset_subschemas {depth : Nat} {root schema : Schema}
    (deep : root.weight ≤ depth) (mem : schema ∈ root.subschemas depth) :
    schema.children ⊆ root.subschemas depth := by
  induction depth generalizing root with
  | zero => cases mem
  | succ depth ih =>
    rcases List.mem_cons.1 mem with rfl | mem
    · intro child inside
      have lighter := weight_lt_of_mem_children inside
      exact List.mem_cons_of_mem _ (List.mem_flatMap.2 ⟨child, inside, mem_subschemas_self (by omega)⟩)
    · obtain ⟨middle, inside, mem⟩ := List.mem_flatMap.1 mem
      have lighter := weight_lt_of_mem_children inside
      intro child below
      exact List.mem_cons_of_mem _
        (List.mem_flatMap.2 ⟨middle, inside, ih (by omega) mem below⟩)

end Schema

def parameterSchemas (parameters : List Parameter) : List Schema :=
  parameters.filterMap (·.schema)

def Content.schemas (content : Content) : List Schema :=
  content.filterMap (·.2)

def Operation.schemas (op : Operation) : List Schema :=
  parameterSchemas (op.parameters.getD []) ++ (op.requestBody.map (·.content.schemas)).getD [] ++
    op.responses.flatMap (·.2.content.schemas)

namespace Document

def roots (doc : Document) : List Schema :=
  doc.components.map (·.2) ++
    doc.paths.flatMap (fun entry => parameterSchemas (entry.2.parameters.getD [])) ++
      doc.operations.flatMap fun entry => entry.2.2.2.schemas

theorem total_roots (doc : Document) :
    total Schema.weight doc.roots = Lowering.documentWeight doc := by
  have parameters : ∀ parameters : List Parameter,
      total Schema.weight (parameterSchemas parameters) = Lowering.parametersWeight parameters :=
    fun parameters => total_filterMap Schema.weight _ parameters
  have content : ∀ content : Content,
      total Schema.weight content.schemas = Lowering.contentWeight content :=
    fun content => total_filterMap Schema.weight _ content
  have operation : ∀ op : Operation,
      total Schema.weight op.schemas = Lowering.operationWeight op := by
    intro op
    rw [Operation.schemas, total_append, total_append, parameters, total_flatMap]
    simp only [content]
    unfold Lowering.operationWeight
    cases op.requestBody <;> simp [content, total]
  rw [roots, total_append, total_append, total_map, total_flatMap, total_flatMap]
  simp only [parameters, operation]
  rfl

/-- All schemas of a document, and the empty one, which stands for one that is missing. -/
def allSchemas (doc : Document) : List Schema :=
  .empty :: doc.roots.flatMap fun root => root.subschemas root.weight

theorem length_allSchemas_le (doc : Document) :
    doc.allSchemas.length ≤ Lowering.documentWeight doc + 1 := by
  have bound := length_flatMap_le_total Schema.weight fun root (_ : root ∈ doc.roots) =>
    root.length_subschemas_le root.weight
  rw [total_roots] at bound
  simpa [allSchemas] using bound

theorem children_subset_allSchemas {doc : Document} {schema : Schema}
    (mem : schema ∈ doc.allSchemas) : schema.children ⊆ doc.allSchemas := by
  rcases List.mem_cons.1 mem with rfl | mem
  · have childless : Schema.empty.children = [] := rfl
    simp [childless]
  · obtain ⟨root, top, mem⟩ := List.mem_flatMap.1 mem
    intro child inside
    exact List.mem_cons_of_mem _ (List.mem_flatMap.2
      ⟨root, top, Schema.children_subset_subschemas (Nat.le_refl _) mem inside⟩)

theorem mem_allSchemas_of_root {doc : Document} {schema : Schema} (root : schema ∈ doc.roots) :
    schema ∈ doc.allSchemas :=
  List.mem_cons_of_mem _
    (List.mem_flatMap.2 ⟨schema, root, Schema.mem_subschemas_self (Nat.le_refl _)⟩)

end Document

end OpenApi

end OpenApiCodegen
