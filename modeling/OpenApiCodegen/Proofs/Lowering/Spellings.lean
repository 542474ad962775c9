import OpenApiCodegen.Proofs.Lowering.CallMeasure
import OpenApiCodegen.Proofs.Lowering.Orders
import OpenApiCodegen.Proofs.Lowering.ReferenceTypes
import OpenApiCodegen.Proofs.OpenApi.EnumExtraction

namespace OpenApiCodegen.Lowering

open Api
open OpenApi (Schema SchemaKind Document NormalDocument componentName mapValues)

/-- The schema has a type that no model has to be made for, and getting there the limit of nesting is
not met. -/
inductive ExpandsTo (components : List (String × Schema)) : Schema → (depth : Nat) → DataType → Prop
  | settled {schema : Schema} {depth : Nat} {type : DataType} :
      depth ≤ maxDepth → plan components schema depth = .settled type →
        ExpandsTo components schema depth type
  | onward {schema next : Schema} {depth : Nat} {passage : Passage} {type : DataType} :
      plan components schema depth = .onward passage next →
        ExpandsTo components next (passage.depth depth) type →
          ExpandsTo components schema depth (passage.wrap type)

/-- `null` is a value of the schema or of an alias that it refers to. -/
inductive Nullable (components : List (String × Schema)) : Schema → Prop
  | own {schema : Schema} : schema.isNullable = true → Nullable components schema
  | target {schema target : Schema} {ref : String} :
      schema.ref = some ref → components.lookup (componentName ref) = some target →
        target.kind = .typeAlias → Nullable components target → Nullable components schema

def wrapped (ref : String) : Schema :=
  { allOf := some [reference ref] }

/-- A composition of a reference and a description. -/
def described (ref text : String) : Schema :=
  { allOf := some [reference ref, { description := some text }] }

/-- A property that is written like this has the type, and is nullable or not, as it is after
normalization. -/
structure Yields (doc : Document) (written : Schema) (type : DataType) (nullable : Bool) : Prop where
  kept : ∀ owner ∈ doc.components, ∀ wire, (wire, written) ∈ owner.2.properties.getD [] →
    ∃ owner' ∈ doc.normalize.1.components, owner'.1 = owner.1 ∧
      (wire, written.merged?.getD written) ∈ owner'.2.properties.getD []
  gives : ∀ {n active owner required wire draft property draft'},
    lowerProperty doc.normalize.1.components (typeOf n ⟨doc.normalize.1.components, active⟩) owner required
        (wire, written.merged?.getD written) draft = some (property, draft') →
      property.type = type ∧ property.nullable = nullable
  ends : ∃ room, ∀ n, room ≤ n → ∀ active owner required wire draft, ∃ property,
    lowerProperty doc.normalize.1.components (typeOf n ⟨doc.normalize.1.components, active⟩) owner required
        (wire, written.merged?.getD written) draft = some (property, draft)

section Expansion

variable {components : List (String × Schema)} {schema target : Schema} {depth depth' room : Nat}
  {type : DataType} {ref : String}

theorem ExpandsTo.le (expands : ExpandsTo components schema depth type) : depth ≤ maxDepth := by
  cases expands with
  | settled short => exact short
  | onward planned =>
    have unsettled : plan components schema depth ≠ .settled .any := by
      rw [planned]
      nofun
    exact le_maxDepth_of_plan unsettled

theorem plan_eq_of_le (short : depth ≤ maxDepth) (short' : depth' ≤ maxDepth) :
    plan components schema depth = plan components schema depth' := by
  rw [plan, plan, if_neg (Nat.not_lt.2 short), if_neg (Nat.not_lt.2 short')]

theorem ExpandsTo.shallower (expands : ExpandsTo components schema depth type) (le : depth' ≤ depth) :
    ExpandsTo components schema depth' type := by
  induction expands generalizing depth' with
  | settled short planned =>
    exact .settled (le.trans short) (plan_eq_of_le short (le.trans short) ▸ planned)
  | @onward schema next depth passage type planned rest ih =>
    have short : depth ≤ maxDepth := (ExpandsTo.onward planned rest).le
    refine .onward (plan_eq_of_le short (le.trans short) ▸ planned) (ih ?_)
    cases passage with
    | values => exact Nat.le_refl 0
    | _ => exact Nat.succ_le_succ le

theorem ExpandsTo.settles (expands : ExpandsTo components schema depth type) :
    Settles components schema depth type := by
  induction expands with
  | settled _ planned => exact .settled planned
  | onward planned _ ih => exact .onward planned ih

theorem expandsTo_reference (written : schema.ref = some ref)
    (looked : components.lookup (componentName ref) = some target) (kind : target.kind = .typeAlias)
    (short : depth ≤ maxDepth) :
    ExpandsTo components schema depth type ↔ ExpandsTo components target (depth + 1) type := by
  have planned : plan components schema depth = .onward (.reference (componentName ref)) target := by
    rw [plan_reference components written short, looked]
    exact if_pos kind
  constructor
  · intro expands
    cases expands with
    | settled _ planned' =>
      rw [planned] at planned'
      cases planned'
    | onward planned' rest =>
      rw [planned] at planned'
      cases planned'
      exact rest
  · exact fun rest => .onward planned rest

theorem isNullable_iff (expands : ExpandsTo components schema depth type)
    (enough : maxDepth < depth + room) :
    isNullable components room schema = true ↔ Nullable components schema := by
  have short := expands.le
  induction room generalizing schema depth with
  | zero => omega
  | succ room ih =>
    have onward : ∀ {ref target}, schema.ref = some ref →
        components.lookup (componentName ref) = some target → target.kind = .typeAlias →
          (isNullable components room target = true ↔ Nullable components target) := by
      intro ref target written looked kind
      have rest := (expandsTo_reference written looked kind short).1 expands
      exact ih rest (by omega) rest.le
    rw [isNullable, Bool.or_eq_true]
    constructor
    · rintro (own | aliased)
      · exact .own own
      · cases written : schema.ref with
        | none => simp [written] at aliased
        | some ref =>
          cases looked : components.lookup (componentName ref) with
          | none => simp [written, looked] at aliased
          | some target =>
            simp only [written, looked, Option.bind_some, Bool.and_eq_true, decide_eq_true_eq] at aliased
            exact .target written looked aliased.1 ((onward written looked aliased.1).1 aliased.2)
    · intro nullable
      cases nullable with
      | own own => exact .inl own
      | target written looked kind nullable =>
        right
        simp only [written, looked, Option.bind_some, Bool.and_eq_true, decide_eq_true_eq]
        exact ⟨kind, (onward written looked kind).2 nullable⟩

theorem exists_typeOf_of_settles (settles : Settles components schema depth type) :
    ∃ room, ∀ n, room ≤ n → ∀ active owner hint origin draft,
      typeOf n ⟨components, active⟩ schema owner hint origin depth draft = some (type, draft) := by
  induction settles with
  | settled planned =>
    refine ⟨1, fun n enough active owner hint origin draft => ?_⟩
    obtain ⟨n, rfl⟩ : ∃ m, n = m + 1 := ⟨n - 1, by omega⟩
    rw [typeOf_succ, planned]
    rfl
  | onward planned _ ih =>
    obtain ⟨room, ends⟩ := ih
    refine ⟨room + 1, fun n enough active owner hint origin draft => ?_⟩
    obtain ⟨n, rfl⟩ : ∃ m, n = m + 1 := ⟨n - 1, by omega⟩
    rw [typeOf_succ, planned]
    exact Lower.map_eq_some.2 ⟨_, ends n (by omega) _ _ _ _ _, rfl⟩

end Expansion

section Normalization

variable {doc : Document} {owner : String × Schema} {wire : String} {written : Schema}

theorem mem_extractEnums (mem : owner ∈ doc.components) (listed : (wire, written) ∈ owner.2.properties.getD [])
    (plain : written.inlineSlot? = none) :
    ∃ owner' ∈ doc.extractEnums.1.components, owner'.1 = owner.1 ∧
      (wire, written) ∈ owner'.2.properties.getD [] := by
  cases declared : doc.schemas with
  | none => simp [Document.components, declared] at mem
  | some schemas =>
    obtain ⟨changed, extracted, run, result⟩ := OpenApi.extractEnums_of_schemas declared
    have inside : owner ∈ schemas := by simpa [Document.components, declared] using mem
    obtain ⟨owner', mem', rewritten⟩ := exists_of_forall₂ (OpenApi.extracts_of_run run).2 inside
    rw [result]
    refine ⟨owner', List.mem_append_left _ mem', ?_⟩
    cases rewritten with
    | plain => exact ⟨rfl, listed⟩
    | rewritten properties each =>
      rw [properties] at listed
      obtain ⟨property, inside, same⟩ := exists_of_forall₂ each listed
      refine ⟨rfl, ?_⟩
      cases same with
      | plain => exact inside
      | moved found => exact absurd (plain.symm.trans found) (by simp)
      | kept => exact inside

theorem mem_normalize (mem : owner ∈ doc.components) (listed : (wire, written) ∈ owner.2.properties.getD [])
    (plain : (written.merged?.getD written).inlineSlot? = none) :
    ∃ owner' ∈ doc.normalize.1.components, owner'.1 = owner.1 ∧
      (wire, written.merged?.getD written) ∈ owner'.2.properties.getD [] := by
  have merged : (owner.1, owner.2.mergeProperties) ∈ doc.mergeDescriptions.1.components := by
    have components : doc.mergeDescriptions.1.components = mapValues Schema.mergeProperties doc.components := by
      cases declared : doc.schemas <;> simp [Document.mergeDescriptions, Document.components, declared, mapValues]
    rw [components]
    exact List.mem_map_of_mem mem
  have inside : (wire, written.merged?.getD written) ∈ owner.2.mergeProperties.properties.getD [] := by
    cases properties : owner.2.properties with
    | none => simp [properties] at listed
    | some entries =>
      rw [properties] at listed
      rw [Schema.mergeProperties, properties]
      exact List.mem_map.2 ⟨_, listed, rfl⟩
  have extracted := mem_extractEnums merged inside plain
  exact extracted

end Normalization

section Properties

variable {doc : Document} {written : Schema} {type : DataType}

theorem yields_of_expands (plain : (written.merged?.getD written).inlineSlot? = none)
    (expands : ExpandsTo doc.normalize.1.components (written.merged?.getD written) 0 type) :
    Yields doc written type (admitsNull doc.normalize.1.components (written.merged?.getD written)) where
  kept _ mem _ listed := mem_normalize mem listed plain
  gives run := by
    obtain ⟨type', typed, rfl⟩ := lowerProperty_eq_some.1 run
    exact ⟨(typeOf_of_settles expands.settles typed).1.symm, rfl⟩
  ends := by
    obtain ⟨room, ends⟩ := exists_typeOf_of_settles expands.settles
    refine ⟨room, fun n enough active owner required wire draft => ?_⟩
    exact ⟨_, lowerProperty_eq_some.2 ⟨type, ends n enough _ _ _ _ _, rfl⟩⟩

end Properties

/-- A property that refers to an alias gets what the alias stands for, however it is written. It is nullable
with the alias if it is a reference or becomes one, and never if it is a composition. -/
theorem spellings_of_alias {doc : Document} {ref : String} {target : Schema} {type : DataType}
    (looked : doc.normalize.1.components.lookup (componentName ref) = some target)
    (kind : target.kind = .typeAlias) (expands : ExpandsTo doc.normalize.1.components target 2 type) :
    ∃ nullable, (nullable = true ↔ Nullable doc.normalize.1.components target) ∧
      Yields doc (reference ref) type nullable ∧ (∀ text, Yields doc (described ref text) type nullable) ∧
        Yields doc (wrapped ref) type false := by
  have refers : ∀ {schema : Schema}, schema.ref = some ref → ∀ {depth}, depth ≤ 1 →
      ExpandsTo doc.normalize.1.components schema depth type := by
    intro schema written depth le
    have short : depth ≤ maxDepth := le.trans (by decide)
    exact (expandsTo_reference written looked kind short).2 (expands.shallower (Nat.succ_le_succ le))
  have composition : ExpandsTo doc.normalize.1.components (wrapped ref) 0 type := by
    have planned : plan doc.normalize.1.components (wrapped ref) 0 = .onward .member (reference ref) := rfl
    exact .onward planned (refers rfl (Nat.le_refl 1))
  have nullable : ∀ {schema : Schema}, schema.ref = some ref → schema.isNullable = false →
      (admitsNull doc.normalize.1.components schema = true ↔ Nullable doc.normalize.1.components target) := by
    intro schema written plain
    rw [admitsNull, isNullable_iff (refers written (Nat.zero_le 1)) (by decide)]
    constructor
    · intro nullable
      cases nullable with
      | own own =>
        rw [plain] at own
        cases own
      | target written' looked' _ nullable =>
        rw [written] at written'
        cases written'
        rw [looked] at looked'
        cases looked'
        exact nullable
    · exact .target written looked kind
  refine ⟨admitsNull doc.normalize.1.components (reference ref), nullable rfl rfl, ?_, fun text => ?_, ?_⟩
  · exact yields_of_expands rfl (refers rfl (Nat.zero_le 1))
  · have same : admitsNull doc.normalize.1.components (reference ref) =
        admitsNull doc.normalize.1.components ((described ref text).merged?.getD (described ref text)) :=
      Bool.eq_iff_iff.2 ((nullable rfl rfl).trans (nullable rfl rfl).symm)
    rw [same]
    exact yields_of_expands rfl (refers rfl (Nat.zero_le 1))
  · exact yields_of_expands rfl composition

/-- A pet has nicknames, which may be `null`, in three spellings. -/
def nicknames : Document :=
  declaring
    [("Nickname", { typeNames := some (.single "string"), nullable := some true }),
      ("Pet",
        { properties := some
            [("plain", reference "#/components/schemas/Nickname"),
              ("wrapped", wrapped "#/components/schemas/Nickname"),
              ("described", described "#/components/schemas/Nickname" "What it is called.")] })]

/-- One of the properties is not nullable. -/
theorem nicknames_apart :
    (lower (.of nicknames)).toOption.map (fun api =>
        api.models.map fun model =>
          model.properties.map fun property => (property.wireName, property.type, property.nullable)) =
      some [[("plain", .text, true), ("wrapped", .text, false), ("described", .text, true)]] := by
  rfl

theorem nicknames_yield :
    Yields nicknames (reference "#/components/schemas/Nickname") .text true ∧
      (∀ text, Yields nicknames (described "#/components/schemas/Nickname" text) .text true) ∧
        Yields nicknames (wrapped "#/components/schemas/Nickname") .text false := by
  have named : componentName "#/components/schemas/Nickname" = "Nickname" := by rfl
  have looked : nicknames.normalize.1.components.lookup (componentName "#/components/schemas/Nickname") =
      some { typeNames := some (.single "string"), nullable := some true } := by
    rw [named]
    rfl
  obtain ⟨nullable, same, yield⟩ := spellings_of_alias looked rfl (.settled (by decide) rfl)
  obtain rfl : nullable = true := same.2 (.own rfl)
  exact yield

end OpenApiCodegen.Lowering
