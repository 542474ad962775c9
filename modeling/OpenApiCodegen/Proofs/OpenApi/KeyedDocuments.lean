import OpenApiCodegen.OpenApi.Reader
import OpenApiCodegen.Proofs.Lowering.Subschemas
import OpenApiCodegen.Proofs.Markup.Readings
import OpenApiCodegen.Proofs.OpenApi.EnumExtraction

namespace OpenApiCodegen.OpenApi

open Markup

/-- No property is listed twice, here and in all schemas inside. -/
inductive Schema.Keyed : Schema → Prop
  | intro {schema : Schema} : ((schema.properties.getD []).map (·.1)).Nodup →
      (∀ child ∈ schema.children, child.Keyed) → schema.Keyed

/-- No schema of the document lists a property twice. -/
def Document.Keyed (doc : Document) : Prop :=
  ∀ schema ∈ doc.roots, schema.Keyed

namespace Schema

variable {schema : Schema}

theorem Keyed.distinct (keyed : schema.Keyed) : ((schema.properties.getD []).map (·.1)).Nodup := by
  obtain ⟨distinct, -⟩ := keyed
  exact distinct

theorem Keyed.child (keyed : schema.Keyed) {child : Schema} (mem : child ∈ schema.children) :
    child.Keyed := by
  obtain ⟨-, inside⟩ := keyed
  exact inside child mem

theorem keyed_empty : empty.Keyed :=
  ⟨List.nodup_nil, fun _ mem => nomatch mem⟩

theorem Keyed.of_parts (distinct : ((schema.properties.getD []).map (·.1)).Nodup)
    (properties : ∀ entry ∈ schema.properties.getD [], entry.2.Keyed)
    (items : ∀ part ∈ schema.items, part.Keyed) (anyOf : ∀ part ∈ schema.anyOf.getD [], part.Keyed)
    (oneOf : ∀ part ∈ schema.oneOf.getD [], part.Keyed) (allOf : ∀ part ∈ schema.allOf.getD [], part.Keyed)
    (values : ∀ part ∈ schema.valueSchemas, part.Keyed) : schema.Keyed := by
  refine ⟨distinct, fun child mem => ?_⟩
  simp only [children, propertySchemas, List.mem_append, List.mem_map, Option.mem_toList] at mem
  rcases mem with ((((⟨entry, inside, rfl⟩ | inside) | inside) | inside) | inside) | inside
  · exact properties entry inside
  · exact items child inside
  · exact anyOf child inside
  · exact oneOf child inside
  · exact allOf child inside
  · exact values child inside

end Schema

section Documents

variable {doc : Document}

theorem Document.Keyed.of_mem_allSchemas (keyed : doc.Keyed) {schema : Schema}
    (mem : schema ∈ doc.allSchemas) : schema.Keyed := by
  have inside : ∀ depth (root schema : Schema), root.Keyed → schema ∈ root.subschemas depth →
      schema.Keyed := by
    intro depth
    induction depth with
    | zero => intro root schema _ mem; cases mem
    | succ depth ih =>
      intro root schema keyed mem
      rcases List.mem_cons.1 mem with rfl | mem
      · exact keyed
      · obtain ⟨child, listed, mem⟩ := List.mem_flatMap.1 mem
        exact ih child schema (keyed.child listed) mem
  rcases List.mem_cons.1 mem with rfl | mem
  · exact Schema.keyed_empty
  · obtain ⟨root, top, mem⟩ := List.mem_flatMap.1 mem
    exact inside _ root schema (keyed root top) mem

theorem Document.keyed_of_allSchemas
    (distinct : ∀ schema ∈ doc.allSchemas, ((schema.properties.getD []).map (·.1)).Nodup) : doc.Keyed := by
  suffices below : ∀ size (schema : Schema), schema.weight ≤ size → schema ∈ doc.allSchemas → schema.Keyed from
    fun schema root => below _ schema (Nat.le_refl _) (mem_allSchemas_of_root root)
  intro size
  induction size with
  | zero =>
    intro schema small
    rw [Schema.weight_eq] at small
    omega
  | succ size ih =>
    refine fun schema small mem => ⟨distinct schema mem, fun child inside => ?_⟩
    have lighter := Schema.weight_lt_of_mem_children inside
    exact ih child (by omega) (children_subset_allSchemas mem inside)

end Documents

section Reading

variable {readItem readMember : Node → Decode Schema} {depth : Nat}

theorem forall_getD {α : Type} {Q : α → Prop} {found : Option (List α)}
    (all : ∀ items ∈ found, ∀ a ∈ items, Q a) : ∀ a ∈ found.getD [], Q a := by
  cases found with
  | none => simp
  | some items => exact all items rfl

theorem readAdditional_yields (item : ∀ node, Yields (readItem node) Schema.Keyed) (node : Node) :
    Yields (readAdditional readItem depth node) fun found =>
      ∀ schema, found = .schema schema → schema.Keyed := by
  unfold readAdditional
  refine (Yields.any _).bind fun settled _ => ?_
  split
  · exact .pure nofun
  · exact (item _).map fun schema keyed other same => by cases same; exact keyed

theorem readSchemaParts_yields (item : ∀ node, Yields (readItem node) Schema.Keyed)
    (member : ∀ node, Yields (readMember node) Schema.Keyed) (fields : Fields) :
    Yields (readSchemaParts depth readItem readMember fields) Schema.Keyed := by
  have members := Yields.readList member depth
  unfold readSchemaParts
  dsimp only
  refine (Yields.any _).bind fun typeNames _ => (Yields.any _).bind fun ref _ => ?_
  refine (Yields.any _).bind fun title _ => (Yields.any _).bind fun description _ => ?_
  refine (Yields.optional (Yields.readTable member depth)).bind fun properties table => ?_
  refine (Yields.any _).bind fun required _ => (Yields.optional item).bind fun items one => ?_
  refine (Yields.any _).bind fun enumeration _ => (Yields.optional members).bind fun anyOf some => ?_
  refine (Yields.optional members).bind fun oneOf one' => (Yields.optional members).bind fun allOf all => ?_
  refine (Yields.optional (readAdditional_yields item)).bind fun additional values => ?_
  refine (Yields.any _).bind fun discriminator _ => (Yields.any _).bind fun format _ => ?_
  refine (Yields.any _).bind fun default _ => (Yields.any _).bind fun nullable _ => ?_
  refine (Yields.any _).bind fun deprecated _ => (Yields.any _).bind fun placeholder _ => .pure ?_
  refine .of_parts ?_ (forall_getD fun found mem => (table found mem).2) one (forall_getD some)
    (forall_getD one') (forall_getD all) ?_
  · cases properties with
    | none => exact List.nodup_nil
    | some found => exact (table found rfl).1
  · intro part mem
    rcases additional with _ | (yes | value)
    · cases mem
    · cases mem
    · obtain rfl := List.mem_singleton.1 mem
      exact values _ rfl _ rfl

theorem readSchema_yields : ∀ (depth : Nat) (node : Node), Yields (readSchema depth node) Schema.Keyed
  | 0, _ => (Yields.any _).bind fun fields _ =>
    readSchemaParts_yields (fun _ => .failure) (fun _ => .failure) fields
  | 1, _ => (Yields.any _).bind fun fields _ =>
    readSchemaParts_yields (readSchema_yields 0) (fun _ => .failure) fields
  | depth + 2, _ => (Yields.any _).bind fun fields _ =>
    readSchemaParts_yields (readSchema_yields (depth + 1)) (readSchema_yields depth) fields

def AllKeyed (schemas : List Schema) : Prop :=
  ∀ schema ∈ schemas, schema.Keyed

theorem readParameters_yields (depth : Nat) (node : Node) :
    Yields (readParameters depth node) fun parameters => AllKeyed (parameterSchemas parameters) := by
  have each : ∀ node, Yields (readParameter (depth - 1) node) fun parameter =>
      ∀ schema ∈ parameter.schema, schema.Keyed := by
    intro node
    unfold readParameter
    refine (Yields.any _).bind fun fields _ => (Yields.any _).bind fun name _ => ?_
    refine (Yields.any _).bind fun place _ => (Yields.any _).bind fun required _ => ?_
    refine (Yields.any _).bind fun description _ => ?_
    refine (Yields.optional (readSchema_yields _)).bind fun schema keyed => ?_
    exact (Yields.any _).bind fun marker _ => .pure keyed
  intro anchors jumps parameters left run schema mem
  obtain ⟨parameter, inside, written⟩ := List.mem_filterMap.1 mem
  exact Yields.readList each depth node _ _ _ _ run parameter inside schema written

theorem readContent_yields (depth : Nat) (node : Node) :
    Yields (readContent depth node) fun content => AllKeyed content.schemas := by
  have each : ∀ node, Yields (readMediaType (depth - 1) node) fun found =>
      ∀ schema ∈ found, schema.Keyed := fun node =>
    (Yields.any _).bind fun fields _ => Yields.optional (readSchema_yields _)
  intro anchors jumps content left run schema mem
  obtain ⟨entry, inside, written⟩ := List.mem_filterMap.1 mem
  exact (Yields.readTable each depth node _ _ _ _ run).2 entry inside schema written

theorem contentField_yields {fields : Fields} {index : Nat} (depth : Nat) :
    Yields (fields.withDefault index [] (readContent depth)) fun content => AllKeyed (Content.schemas content) :=
  Yields.withDefault (Q := fun content : Content => AllKeyed content.schemas) (List.forall_mem_nil _)
    (readContent_yields depth)

theorem readRequestBody_yields (depth : Nat) (node : Node) :
    Yields (readRequestBody depth node) fun body => AllKeyed body.content.schemas := by
  unfold readRequestBody
  refine (Yields.any _).bind fun fields _ => (Yields.any _).bind fun required _ => ?_
  refine (Yields.any _).bind fun description _ => ?_
  exact (contentField_yields _).bind fun content keyed => .pure keyed

theorem readResponse_yields (depth : Nat) (node : Node) :
    Yields (readResponse depth node) fun response => AllKeyed response.content.schemas := by
  unfold readResponse
  refine (Yields.any _).bind fun fields _ => (Yields.any _).bind fun description _ => ?_
  exact (contentField_yields _).bind fun content keyed => .pure keyed

theorem AllKeyed.append {schemas others : List Schema} (keyed : AllKeyed schemas)
    (keyed' : AllKeyed others) : AllKeyed (schemas ++ others) :=
  List.forall_mem_append.2 ⟨keyed, keyed'⟩

theorem readOperation_yields (depth : Nat) (node : Node) :
    Yields (readOperation depth node) fun op => AllKeyed op.schemas := by
  have responses : ∀ node, Yields (readTable (readResponse (depth - 1 - 1)) (depth - 1) node)
      fun table => ∀ entry ∈ table, AllKeyed entry.2.content.schemas :=
    fun node => (Yields.readTable (readResponse_yields _) _ node).mono fun table found => found.2
  unfold readOperation
  dsimp only
  refine (Yields.any _).bind fun fields _ => (Yields.any _).bind fun operationId _ => ?_
  refine (Yields.any _).bind fun summary _ => (Yields.any _).bind fun description _ => ?_
  refine (Yields.any _).bind fun deprecated _ => (Yields.any _).bind fun tags _ => ?_
  refine (Yields.optional (readParameters_yields _)).bind fun parameters own => ?_
  refine (Yields.optional (readRequestBody_yields _)).bind fun requestBody sent => ?_
  refine (Yields.withDefault (Q := fun table : List (String × Response) =>
    ∀ entry ∈ table, AllKeyed entry.2.content.schemas) (List.forall_mem_nil _) responses).bind fun table answered => .pure ?_
  refine (AllKeyed.append ?_ ?_).append ?_
  · cases parameters with
    | none => exact List.forall_mem_nil _
    | some parameters => exact own parameters rfl
  · cases requestBody with
    | none => exact List.forall_mem_nil _
    | some body => exact sent body rfl
  · intro schema mem
    obtain ⟨entry, inside, mem⟩ := List.mem_flatMap.1 mem
    exact answered entry inside schema mem

theorem readPathItem_yields (depth : Nat) (node : Node) :
    Yields (readPathItem depth node) fun item =>
      AllKeyed (parameterSchemas (item.parameters.getD [])) ∧
        ∀ entry ∈ item.operations, AllKeyed entry.2.schemas := by
  have operation := fun node => readOperation_yields (depth - 1) node
  unfold readPathItem
  dsimp only
  refine (Yields.any _).bind fun fields _ => (Yields.optional operation).bind fun get one => ?_
  refine (Yields.optional operation).bind fun post two => (Yields.optional operation).bind fun put three => ?_
  refine (Yields.optional operation).bind fun patch four => ?_
  refine (Yields.optional operation).bind fun delete five => ?_
  refine (Yields.optional (readParameters_yields _)).bind fun parameters shared => .pure ⟨?_, ?_⟩
  · cases parameters with
    | none => exact List.forall_mem_nil _
    | some parameters => exact shared parameters rfl
  · intro entry mem
    obtain ⟨method, -, found⟩ := List.mem_filterMap.1 mem
    obtain ⟨op, written, rfl⟩ := Option.map_eq_some_iff.1 found
    cases method with
    | get => exact one op written
    | post => exact two op written
    | put => exact three op written
    | patch => exact four op written
    | delete => exact five op written

theorem readComponents_yields (depth : Nat) (node : Node) :
    Yields (readComponents depth node) fun components => AllKeyed (components.map (·.2)) := by
  have table : ∀ node, Yields (readTable (readSchema (depth - 2)) (depth - 1) node) fun components =>
      AllKeyed (components.map (·.2)) :=
    fun node => (Yields.readTable (readSchema_yields _) _ node).mono fun found all =>
      List.forall_mem_map.2 all.2
  have none : AllKeyed (([] : List (String × Schema)).map (·.2)) := List.forall_mem_nil _
  exact (Yields.any _).bind fun fields _ =>
    Yields.withDefault (Q := fun components : List (String × Schema) => AllKeyed (components.map (·.2)))
      none table

theorem readDocument_yields (depth : Nat) (node : Node) :
    Yields (readDocument depth node) Document.Keyed := by
  have paths : ∀ node, Yields (readTable (readPathItem (depth - 1 - 1)) (depth - 1) node) fun table =>
      ∀ entry ∈ table, AllKeyed (parameterSchemas (entry.2.parameters.getD [])) ∧
        ∀ operation ∈ entry.2.operations, AllKeyed operation.2.schemas :=
    fun node => (Yields.readTable (readPathItem_yields _) _ node).mono fun table found => found.2
  unfold readDocument
  dsimp only
  refine (Yields.any _).bind fun fields _ => (Yields.any _).bind fun openapi _ => ?_
  refine (Yields.any _).bind fun info _ => ?_
  refine (Yields.withDefault (Q := fun table : List (String × PathItem) =>
    ∀ entry ∈ table, AllKeyed (parameterSchemas (entry.2.parameters.getD [])) ∧
      ∀ operation ∈ entry.2.operations, AllKeyed operation.2.schemas) (List.forall_mem_nil _) paths).bind fun table all => ?_
  refine (Yields.optional (readComponents_yields _)).bind fun schemas components => ?_
  refine (Yields.any _).bind fun tags _ => .pure ?_
  refine AllKeyed.append (AllKeyed.append ?_ ?_) ?_
  · cases schemas with
    | none => exact List.forall_mem_nil _
    | some schemas => exact components schemas rfl
  · intro schema mem
    obtain ⟨entry, listed, mem⟩ := List.mem_flatMap.1 mem
    exact (all entry listed).1 schema mem
  · intro schema mem
    obtain ⟨⟨path, item, method, op⟩, listed, mem⟩ := List.mem_flatMap.1 mem
    obtain ⟨entry, inside, made⟩ := List.mem_flatMap.1 listed
    obtain ⟨operation, here, same⟩ := List.mem_map.1 made
    cases same
    exact (all entry inside).2 operation here schema mem

theorem keyed_of_read {format : TextFormat} {text : String} {doc : Document}
    (read : Document.read? format text = some doc) : doc.Keyed := by
  obtain ⟨markup, -, read⟩ := Option.bind_eq_some_iff.1 read
  obtain ⟨found, run, same⟩ := Option.bind_eq_some_iff.1 read
  cases same
  have keyed := (readDocument_yields _ _).run run
  exact keyed

end Reading

section Normalizing

variable {doc : Document} {schema : Schema}

theorem keyed_of_merged {result : Schema} (merged : schema.merged? = some result) (keyed : schema.Keyed) :
    result.Keyed := by
  obtain ⟨⟨first, second⟩, pair, merged⟩ := Option.bind_eq_some_iff.1 merged
  obtain ⟨⟨describing, described⟩, which, same⟩ := Option.bind_eq_some_iff.1 merged
  have both : ∀ {members : Option (List Schema)}, exactlyTwo? members = some (first, second) →
      first ∈ members.getD [] ∧ second ∈ members.getD [] := by
    intro members two
    unfold exactlyTwo? at two
    split at two
    · cases two
      simp
    · cases two
  have inside : first ∈ schema.children ∧ second ∈ schema.children := by
    simp only [Schema.children, List.mem_append]
    rcases Option.or_eq_some_iff.1 pair with all | ⟨-, pair⟩
    · have := both all
      tauto
    · rcases Option.or_eq_some_iff.1 pair with one | ⟨-, some⟩
      · have := both one
        tauto
      · have := both some
        tauto
  have described_keyed : described.Keyed := by
    unfold describedPair? at which
    split at which
    · split at which
      · cases which
      · cases which
        exact keyed.child inside.2
    · split at which
      · cases which
        exact keyed.child inside.1
      · cases which
  -- only what is said about the schema differs
  cases same
  exact ⟨described_keyed.distinct, fun child mem => described_keyed.child mem⟩

theorem Schema.Keyed.withProperties (keyed : schema.Keyed) {properties : Option (List (String × Schema))}
    (keys : (properties.getD []).map (·.1) = (schema.properties.getD []).map (·.1))
    (each : ∀ entry ∈ properties.getD [], entry.2.Keyed) : ({ schema with properties } : Schema).Keyed := by
  constructor
  · show ((properties.getD []).map (·.1)).Nodup
    rw [keys]
    exact keyed.distinct
  · intro child mem
    have split : child ∈ (properties.getD []).map (·.2) ∨ child ∈ schema.children := by
      simp only [Schema.children, Schema.propertySchemas, List.mem_append] at mem ⊢
      tauto
    rcases split with changed | other
    · obtain ⟨entry, inside, rfl⟩ := List.mem_map.1 changed
      exact each entry inside
    · exact keyed.child other

theorem Schema.Keyed.withItems (keyed : schema.Keyed) {items : Schema} (changed : items.Keyed) :
    ({ schema with items := some items } : Schema).Keyed := by
  refine ⟨keyed.distinct, fun child mem => ?_⟩
  have split : child = items ∨ child ∈ schema.children := by
    simp only [Schema.children, List.mem_append, Option.toList_some, List.mem_singleton] at mem ⊢
    tauto
  rcases split with rfl | other
  · exact changed
  · exact keyed.child other

theorem Schema.Keyed.property (keyed : schema.Keyed) {entry : String × Schema}
    (mem : entry ∈ schema.properties.getD []) : entry.2.Keyed := by
  refine keyed.child ?_
  simp only [Schema.children, List.mem_append]
  exact .inl (.inl (.inl (.inl (.inl (List.mem_map_of_mem mem)))))

theorem keyed_mergeProperties (keyed : schema.Keyed) : schema.mergeProperties.Keyed := by
  apply keyed.withProperties
  · cases schema.properties <;> simp [mapValues, Function.comp_def]
  · intro entry mem
    cases written : schema.properties with
    | none => simp [written] at mem
    | some properties =>
      rw [written] at mem
      obtain ⟨⟨key, property⟩, inside, rfl⟩ := List.mem_map.1 mem
      have listed : (key, property) ∈ schema.properties.getD [] := by simpa [written] using inside
      have before : property.Keyed := keyed.property listed
      cases merged : property.merged? with
      | none => simpa [merged] using before
      | some result => simpa [merged] using keyed_of_merged merged before

theorem keyed_referTo (schema : Schema) (name : String) : (schema.referTo name).Keyed :=
  ⟨List.nodup_nil, fun _ mem => nomatch mem⟩

def KeepsEntry (entry changed : String × Schema) : Prop :=
  changed.1 = entry.1 ∧ (entry.2.Keyed → changed.2.Keyed)

theorem keys_of_keepsEntry {entries changed : List (String × Schema)}
    (each : List.Forall₂ KeepsEntry entries changed) : changed.map (·.1) = entries.map (·.1) := by
  induction each with
  | nil => rfl
  | cons first _ ih => rw [List.map_cons, List.map_cons, first.1, ih]

theorem keyed_of_keepsEntry {entries changed : List (String × Schema)}
    (each : List.Forall₂ KeepsEntry entries changed) (keyed : ∀ entry ∈ entries, entry.2.Keyed) :
    ∀ entry ∈ changed, entry.2.Keyed := by
  intro entry mem
  obtain ⟨before, inside, kept⟩ := exists_of_forall₂_right each mem
  exact kept.2 (keyed before inside)

theorem PropertyRewritten.keepsEntry {claims : Claims} {owner : String} {entry changed : String × Schema}
    (rewritten : PropertyRewritten claims owner entry changed) : KeepsEntry entry changed := by
  cases rewritten with
  | plain => exact ⟨rfl, id⟩
  | kept => exact ⟨rfl, id⟩
  | @moved key property place found some moved =>
    refine ⟨rfl, fun keyed => ?_⟩
    have reference : place.Keyed := moved.place_eq ▸ keyed_referTo found.place _
    show (found.slot.put property place).Keyed
    cases found.slot with
    | whole => exact reference
    | items => exact keyed.withItems reference

theorem ComponentRewritten.keepsEntry {claims : Claims} {entry changed : String × Schema}
    (rewritten : ComponentRewritten claims entry changed) : KeepsEntry entry changed := by
  cases rewritten with
  | plain => exact ⟨rfl, id⟩
  | @rewritten key schema properties others written each =>
    have each := each.imp fun _ _ => PropertyRewritten.keepsEntry
    refine ⟨rfl, fun keyed => keyed.withProperties ?_ (keyed_of_keepsEntry each ?_)⟩
    · simpa [written] using keys_of_keepsEntry each
    · exact fun entry mem => keyed.property (by simpa [written] using mem)

theorem Document.Keyed.withSchemas (keyed : doc.Keyed) {schemas : Option (List (String × Schema))}
    (each : ∀ entry ∈ schemas.getD [], entry.2.Keyed) : ({ doc with schemas } : Document).Keyed := by
  intro schema mem
  have split : schema ∈ (schemas.getD []).map (·.2) ∨ schema ∈ doc.roots := by
    have operations : ({ doc with schemas } : Document).operations = doc.operations := rfl
    simp only [Document.roots, Document.components, operations, List.mem_append] at mem ⊢
    tauto
  rcases split with changed | other
  · obtain ⟨entry, inside, rfl⟩ := List.mem_map.1 changed
    exact each entry inside
  · exact keyed schema other

theorem Document.Keyed.component (keyed : doc.Keyed) {entry : String × Schema}
    (mem : entry ∈ doc.components) : entry.2.Keyed :=
  keyed _ (List.mem_append_left _ (List.mem_append_left _ (List.mem_map_of_mem mem)))

theorem keyed_mergeDescriptions (keyed : doc.Keyed) : doc.mergeDescriptions.1.Keyed := by
  refine keyed.withSchemas fun entry mem => ?_
  cases written : doc.schemas with
  | none => simp [written] at mem
  | some schemas =>
    rw [written] at mem
    obtain ⟨⟨key, schema⟩, inside, rfl⟩ := List.mem_map.1 mem
    have listed : (key, schema) ∈ doc.components := by simpa [Document.components, written] using inside
    exact keyed_mergeProperties (keyed.component listed)

theorem keyed_extractEnums (keyed : doc.Keyed) : doc.extractEnums.1.Keyed := by
  cases written : doc.schemas with
  | none => exact extractEnums_of_none written ▸ keyed
  | some schemas =>
    obtain ⟨changed, extracted, run, result⟩ := extractEnums_of_schemas written
    have components : ∀ entry ∈ schemas, entry.2.Keyed :=
      fun entry mem => keyed.component (by simpa [Document.components, written] using mem)
    have each := (extracts_of_run run).2.imp fun _ _ => ComponentRewritten.keepsEntry
    rw [result]
    refine keyed.withSchemas fun entry mem => ?_
    rcases List.mem_append.1 mem with changed | added
    · exact keyed_of_keepsEntry each components entry changed
    · obtain ⟨⟨name, definition⟩, -, rfl⟩ := List.mem_map.1 added
      exact ⟨List.nodup_nil, List.forall_mem_nil _⟩

theorem roots_stripTags (doc : Document) : doc.stripTags.1.roots = doc.roots := by
  have items : ∀ item : PathItem, (item.mapOperations Operation.withoutTags).operations =
      item.operations.map fun entry => (entry.1, entry.2.withoutTags) := by
    intro item
    have each : ∀ method, (item.mapOperations Operation.withoutTags).operation? method =
        (item.operation? method).map Operation.withoutTags := by
      intro method
      cases method <;> rfl
    rw [PathItem.operations, PathItem.operations, List.map_filterMap]
    simp only [each, Option.map_map, Function.comp_def]
  have operations : doc.stripTags.1.operations = doc.operations.map fun entry =>
      (entry.1, entry.2.1.mapOperations Operation.withoutTags, entry.2.2.1, entry.2.2.2.withoutTags) := by
    simp only [Document.operations, Document.stripTags, mapValues, List.flatMap_map, List.map_flatMap,
      items, List.map_map, Function.comp_def]
  have paths : doc.stripTags.1.paths.flatMap (fun entry => parameterSchemas (entry.2.parameters.getD [])) =
      doc.paths.flatMap fun entry => parameterSchemas (entry.2.parameters.getD []) := by
    simp only [Document.stripTags, mapValues, List.flatMap_map]
    rfl
  rw [Document.roots, Document.roots, operations, paths, List.flatMap_map]
  rfl

theorem keyed_normalize (keyed : doc.Keyed) : doc.normalize.1.Keyed := by
  have kept : doc.mergeDescriptions.1.extractEnums.1.Keyed :=
    keyed_extractEnums (keyed_mergeDescriptions keyed)
  have same : doc.normalize.1 = doc.mergeDescriptions.1.extractEnums.1.stripTags.1 := rfl
  rw [same, Document.Keyed, roots_stripTags]
  exact kept

end Normalizing

end OpenApiCodegen.OpenApi
