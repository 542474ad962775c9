import Mathlib.Data.List.Nodup
import OpenApiCodegen.OpenApi.Normalization
import OpenApiCodegen.Proofs.List.Search
import OpenApiCodegen.Proofs.Text.Cuts

namespace OpenApiCodegen

def Binary64.value : Binary64 → Binary64
  | .finite _ 0 _ => .zero false
  | x => x

theorem Binary64.equal_iff {x y : Binary64} : x.equal y = true ↔ x.value = y.value ∧ y ≠ .nan := by
  cases x with
  | nan =>
    cases y with
    | nan => simp [equal]
    | infinite => simp [equal, value]
    | finite _ n _ => cases n <;> simp [equal, value, zero]
  | infinite =>
    cases y with
    | nan => simp [equal]
    | infinite => simp [equal, value]
    | finite _ n _ => cases n <;> simp [equal, value, zero]
  | finite _ m _ =>
    cases y with
    | nan => simp [equal]
    | infinite => cases m <;> simp [equal, value, zero]
    | finite _ n _ => cases m <;> cases n <;> simp [equal, value, zero, and_assoc]

namespace OpenApi

def EnumLiteral.value : EnumLiteral → EnumLiteral
  | .real x => .real x.value
  | literal => literal

theorem EnumLiteral.same_iff {a b : EnumLiteral} :
    a.same b = true ↔ a.value = b.value ∧ b ≠ .real .nan := by
  cases a <;> cases b <;> simp [same, value, Binary64.equal_iff]

theorem sameLiterals_iff {as bs : List EnumLiteral} :
    sameLiterals as bs = true ↔ as.map EnumLiteral.value = bs.map EnumLiteral.value ∧
      .real .nan ∉ bs := by
  induction as generalizing bs with
  | nil => cases bs <;> simp [sameLiterals]
  | cons a as ih =>
    cases bs with
    | nil => simp [sameLiterals]
    | cons b bs =>
      simp only [sameLiterals, Bool.and_eq_true, EnumLiteral.same_iff, ih, List.map_cons,
        List.cons.injEq, List.mem_cons, not_or, ne_comm (a := b)]
      tauto

/-- The definitions are equal, where values count as numbers do. -/
def EnumDefinition.Agrees (a b : EnumDefinition) : Prop :=
  a.typeNames = b.typeNames ∧ a.format = b.format ∧
    a.literals.map EnumLiteral.value = b.literals.map EnumLiteral.value

def EnumDefinition.HasNan (definition : EnumDefinition) : Prop :=
  .real .nan ∈ definition.literals

namespace EnumDefinition

variable {a b c : EnumDefinition}

theorem same_iff : a.same b = true ↔ a.Agrees b ∧ ¬ b.HasNan := by
  simp [same, Agrees, HasNan, sameLiterals_iff, and_assoc]

theorem Agrees.refl (a : EnumDefinition) : a.Agrees a :=
  ⟨rfl, rfl, rfl⟩

theorem Agrees.symm (agrees : a.Agrees b) : b.Agrees a :=
  ⟨agrees.1.symm, agrees.2.1.symm, agrees.2.2.symm⟩

theorem Agrees.trans (agrees : a.Agrees b) (agrees' : b.Agrees c) : a.Agrees c :=
  ⟨agrees.1.trans agrees'.1, agrees.2.1.trans agrees'.2.1, agrees.2.2.trans agrees'.2.2⟩

end EnumDefinition

inductive Slot where
  | whole
  | items

def Slot.put (slot : Slot) (property place : Schema) : Schema :=
  match slot with
  | whole => place
  | items => { property with items := some place }

structure InlineEnum where
  slot : Slot
  place : Schema
  definition : EnumDefinition

/-- The enumeration that may be taken out of a property: the property itself, or else its items. -/
def Schema.inlineSlot? (property : Schema) : Option InlineEnum :=
  match property.inlineEnum? with
  | some definition => some ⟨.whole, property, definition⟩
  | none => property.items.bind fun items =>
      items.inlineEnum?.map fun definition => ⟨.items, items, definition⟩

def enumName (owner key : String) : String :=
  owner ++ Text.pascalCase key

abbrev Claims := String → Option (Option EnumDefinition)

def Document.claims (doc : Document) : Claims :=
  fun name => (doc.components.lookup name).map Schema.enumDefinition?

/-- The enumeration has been replaced by a reference to a component with its definition. -/
structure Moved (claims : Claims) (name : String) (found : InlineEnum) (place : Schema) : Prop where
  place_eq : place = found.place.referTo name
  refers : place.ref.map componentName = some name
  holder : ∃ holder, claims name = some (some holder) ∧ holder.Agrees found.definition

/-- The name of the enumeration stands for something else, or for something that does not compare as
equal because of a value that is no number. -/
def Obstructed (claims : Claims) (name : String) (found : InlineEnum) : Prop :=
  ∃ other, claims name = some other ∧
    ∀ holder ∈ other, holder.Agrees found.definition → found.definition.HasNan

inductive PropertyRewritten (claims : Claims) (owner : String) : String × Schema → String × Schema → Prop
  | plain {entry : String × Schema} :
      entry.2.inlineSlot? = none → PropertyRewritten claims owner entry entry
  | moved {key : String} {property place : Schema} {found : InlineEnum} :
      property.inlineSlot? = some found → Moved claims (enumName owner key) found place →
        PropertyRewritten claims owner (key, property) (key, found.slot.put property place)
  | kept {key : String} {property : Schema} {found : InlineEnum} :
      property.inlineSlot? = some found → Obstructed claims (enumName owner key) found →
        PropertyRewritten claims owner (key, property) (key, property)

inductive ComponentRewritten (claims : Claims) : String × Schema → String × Schema → Prop
  | plain {entry : String × Schema} : entry.2.properties = none → ComponentRewritten claims entry entry
  | rewritten {key : String} {schema : Schema} {properties changed : List (String × Schema)} :
      schema.properties = some properties →
        List.Forall₂ (PropertyRewritten claims key) properties changed →
          ComponentRewritten claims (key, schema) (key, { schema with properties := some changed })

def TakenFrom (components : List (String × Schema)) (name : String) (definition : EnumDefinition) : Prop :=
  ∃ component ∈ components, ∃ property ∈ component.2.properties.getD [], ∃ found,
    property.2.inlineSlot? = some found ∧ name = enumName component.1 property.1 ∧
      definition = found.definition

/-- Each component is there as before but for its properties, and is followed by the enumerations
that have been taken out. -/
structure EnumsExtracted (doc doc' : Document) (names : List String) : Prop where
  rest : { doc' with schemas := doc.schemas } = doc
  absent : doc.schemas = none → doc' = doc
  components : ∃ changed extracted, doc'.components = changed ++ mapValues EnumDefinition.schema extracted ∧
    List.Forall₂ (ComponentRewritten doc'.claims) doc.components changed ∧
      extracted.map (·.1) = names ∧
        ∀ entry ∈ extracted, TakenFrom doc.components entry.1 entry.2
  fresh : ∀ name ∈ names, name ∉ doc.components.map (·.1)
  distinct : names.Nodup

section Slots

variable {property place : Schema} {found : InlineEnum} {claims : Claims} {name : String}

theorem inlineSlot?_cases (some : property.inlineSlot? = some found) :
    (found.slot = .whole ∧ found.place = property ∧ property.inlineEnum? = .some found.definition) ∨
      found.slot = .items ∧ property.inlineEnum? = none ∧ property.items = .some found.place ∧
        found.place.inlineEnum? = .some found.definition := by
  unfold Schema.inlineSlot? at some
  split at some
  · rename_i definition inline
    cases some
    exact .inl ⟨rfl, rfl, inline⟩
  · rename_i none
    obtain ⟨items, written, some⟩ := Option.bind_eq_some_iff.1 some
    obtain ⟨definition, inline, rfl⟩ := Option.map_eq_some_iff.1 some
    exact .inr ⟨rfl, none, written, inline⟩

theorem put_place (some : property.inlineSlot? = some found) : found.slot.put property found.place = property := by
  rcases inlineSlot?_cases some with ⟨slot, same, -⟩ | ⟨slot, -, written, -⟩
  · rw [slot]
    exact same
  · rw [slot]
    cases property
    cases written
    rfl

theorem inlineSlot?_put_referTo (some : property.inlineSlot? = some found) :
    (found.slot.put property (found.place.referTo name)).inlineSlot? = none := by
  rcases inlineSlot?_cases some with ⟨slot, -, -⟩ | ⟨slot, none, -, -⟩
  · rw [slot]
    rfl
  · have same : (found.slot.put property (found.place.referTo name)).inlineEnum? = property.inlineEnum? := by
      rw [slot]
      rfl
    rw [Schema.inlineSlot?, same, none, slot]
    rfl

theorem Moved.agree {found' : InlineEnum} {place' : Schema} (moved : Moved claims name found place)
    (moved' : Moved claims name found' place') : found.definition.Agrees found'.definition := by
  obtain ⟨-, -, holder, claimed, agrees⟩ := moved
  obtain ⟨-, -, holder', claimed', agrees'⟩ := moved'
  rw [claimed] at claimed'
  cases claimed'
  exact agrees.symm.trans agrees'

end Slots

section Steps

variable {components : List (String × Schema)} {extracted later : Extracted} {name owner : String}

theorem claimed?_of_prefix (le : extracted <+: later) {claim : Option EnumDefinition}
    (claimed : claimed? components extracted name = some claim) :
    claimed? components later name = some claim := by
  unfold claimed? at claimed ⊢
  cases looked : components.lookup name with
  | some schema =>
    rw [looked] at claimed
    exact claimed
  | none =>
    rw [looked] at claimed
    obtain ⟨definition, taken, rfl⟩ := Option.map_eq_some_iff.1 claimed
    obtain ⟨rest, rfl⟩ := le
    simp [List.lookup_append, taken]

theorem Moved.mono {found : InlineEnum} {place : Schema} (le : extracted <+: later)
    (moved : Moved (claimed? components extracted) name found place) :
    Moved (claimed? components later) name found place := by
  obtain ⟨same, refers, holder, claimed, agrees⟩ := moved
  exact ⟨same, refers, holder, claimed?_of_prefix le claimed, agrees⟩

theorem Obstructed.mono {found : InlineEnum} (le : extracted <+: later)
    (obstructed : Obstructed (claimed? components extracted) name found) :
    Obstructed (claimed? components later) name found := by
  obtain ⟨other, claimed, apart⟩ := obstructed
  exact ⟨other, claimed?_of_prefix le claimed, apart⟩

theorem PropertyRewritten.mono {entry changed : String × Schema} (le : extracted <+: later)
    (rewritten : PropertyRewritten (claimed? components extracted) owner entry changed) :
    PropertyRewritten (claimed? components later) owner entry changed := by
  cases rewritten with
  | plain none => exact .plain none
  | moved some moved => exact .moved some (moved.mono le)
  | kept some obstructed => exact .kept some (obstructed.mono le)

theorem ComponentRewritten.mono {entry changed : String × Schema} (le : extracted <+: later)
    (rewritten : ComponentRewritten (claimed? components extracted) entry changed) :
    ComponentRewritten (claimed? components later) entry changed := by
  cases rewritten with
  | plain none => exact .plain none
  | rewritten written each => exact .rewritten written (each.imp fun _ _ => .mono le)

theorem moved_of_claimed {found : InlineEnum} {holder : EnumDefinition} {claims : Claims}
    (claimed : claims name = some (some holder)) (agrees : holder.Agrees found.definition) :
    Moved claims name found (found.place.referTo name) :=
  ⟨rfl, by simp [Schema.referTo, componentName], holder, claimed, agrees⟩

/-- The enumerations taken out so far have names that are free, each once, and are those of
properties. -/
structure WellTaken (components : List (String × Schema)) (extracted : Extracted) : Prop where
  fresh : ∀ entry ∈ extracted, components.lookup entry.1 = none
  distinct : (extracted.map (·.1)).Nodup
  taken : ∀ entry ∈ extracted, TakenFrom components entry.1 entry.2

theorem WellTaken.add (well : WellTaken components extracted) {definition : EnumDefinition}
    (free : claimed? components extracted name = none) (taken : TakenFrom components name definition) :
    WellTaken components (extracted ++ [(name, definition)]) := by
  unfold claimed? at free
  split at free
  · cases free
  rename_i absent
  have unused := List.lookup_eq_none_iff.1 (Option.map_eq_none_iff.1 free)
  constructor
  · intro entry mem
    rcases List.mem_append.1 mem with mem | mem
    · exact well.fresh entry mem
    · rw [List.mem_singleton.1 mem]
      exact absent
  · rw [List.map_append, List.nodup_append]
    refine ⟨well.distinct, List.nodup_singleton name, ?_⟩
    rintro _ mem _ last rfl
    obtain ⟨entry, inside, same⟩ := List.mem_map.1 mem
    have : entry.1 = name := same.trans (List.mem_singleton.1 last)
    simpa [this] using unused entry inside
  · intro entry mem
    rcases List.mem_append.1 mem with mem | mem
    · exact well.taken entry mem
    · rw [List.mem_singleton.1 mem]
      exact taken

theorem extractEnum_cases (found : InlineEnum) :
    (Obstructed (claimed? components extracted) name found ∧
      extractEnum components name found.definition found.place extracted = (found.place, extracted)) ∨
    ∃ later, extractEnum components name found.definition found.place extracted =
        (found.place.referTo name, later) ∧ extracted <+: later ∧
      Moved (claimed? components later) name found (found.place.referTo name) ∧
        (later = extracted ∨ claimed? components extracted name = none ∧
          later = extracted ++ [(name, found.definition)]) := by
  unfold extractEnum
  cases claimed : claimed? components extracted name with
  | some claim =>
    dsimp only
    by_cases same : claim.any (·.same found.definition) = true
    · rw [if_pos same]
      obtain ⟨holder, rfl, same⟩ := (Option.any_eq_true _ _).1 same
      have agrees := (EnumDefinition.same_iff.1 same).1
      exact .inr ⟨extracted, rfl, List.prefix_refl _, moved_of_claimed claimed agrees, .inl rfl⟩
    · rw [if_neg same]
      refine .inl ⟨⟨claim, claimed, ?_⟩, rfl⟩
      rintro holder rfl agrees
      by_contra number
      exact same (EnumDefinition.same_iff.2 ⟨agrees, number⟩)
  | none =>
    have last : claimed? components (extracted ++ [(name, found.definition)]) name =
        some (some found.definition) := by
      unfold claimed? at claimed ⊢
      split at claimed
      · cases claimed
      · rename_i absent
        simp [List.lookup_append, Option.map_eq_none_iff.1 claimed]
    exact .inr ⟨_, rfl, List.prefix_append _ _, moved_of_claimed last (.refl _), .inr ⟨rfl, rfl⟩⟩

theorem extractFromProperty_eq (components : List (String × Schema)) (owner : String)
    (entry : String × Schema) (extracted : Extracted) :
    extractFromProperty components owner entry extracted =
      match entry.2.inlineSlot? with
      | none => (entry, extracted)
      | some found =>
        let result := extractEnum components (enumName owner entry.1) found.definition found.place extracted
        ((entry.1, found.slot.put entry.2 result.1), result.2) := by
  obtain ⟨key, schema⟩ := entry
  unfold extractFromProperty Schema.inlineSlot?
  dsimp only
  cases inline : schema.inlineEnum? with
  | some definition => rfl
  | none =>
    dsimp only
    cases written : schema.items with
    | none => rfl
    | some items =>
      dsimp only [Option.bind_some]
      cases items.inlineEnum? <;> rfl

def Extracts (components : List (String × Schema))
    (P : Claims → String × Schema → String × Schema → Prop) (entry : String × Schema)
    (step : Extracted → (String × Schema) × Extracted) : Prop :=
  ∀ extracted, WellTaken components extracted →
    WellTaken components (step extracted).2 ∧ extracted <+: (step extracted).2 ∧
      P (claimed? components (step extracted).2) entry (step extracted).1

theorem mapWithState_extracts {P : Claims → String × Schema → String × Schema → Prop}
    (lasting : ∀ {extracted later entry changed}, extracted <+: later →
      P (claimed? components extracted) entry changed → P (claimed? components later) entry changed)
    {f : String × Schema → Extracted → (String × Schema) × Extracted} {items : List (String × Schema)}
    (each : ∀ entry ∈ items, Extracts components P entry (f entry)) (extracted : Extracted)
    (well : WellTaken components extracted) :
    WellTaken components (mapWithState f items extracted).2 ∧
      extracted <+: (mapWithState f items extracted).2 ∧
        List.Forall₂ (P (claimed? components (mapWithState f items extracted).2)) items
          (mapWithState f items extracted).1 := by
  induction items generalizing extracted with
  | nil => exact ⟨well, List.prefix_refl _, .nil⟩
  | cons entry rest ih =>
    obtain ⟨well, first, head⟩ := each entry List.mem_cons_self extracted well
    obtain ⟨well, second, tail⟩ :=
      ih (fun entry mem => each entry (List.mem_cons_of_mem _ mem)) _ well
    exact ⟨well, first.trans second, .cons (lasting second head) tail⟩

theorem extractFromProperty_extracts {component entry : String × Schema} (listed : component ∈ components)
    (mem : entry ∈ component.2.properties.getD []) :
    Extracts components (fun claims => PropertyRewritten claims component.1) entry
      (extractFromProperty components component.1 entry) := by
  intro extracted well
  rw [extractFromProperty_eq]
  cases some : entry.2.inlineSlot? with
  | none => exact ⟨well, List.prefix_refl _, .plain some⟩
  | some found =>
    dsimp only
    rcases extractEnum_cases found with ⟨obstructed, same⟩ | ⟨later, same, le, moved, which⟩
    · rw [same, put_place some]
      exact ⟨well, List.prefix_refl _, .kept some obstructed⟩
    · rw [same]
      refine ⟨?_, le, .moved some moved⟩
      rcases which with rfl | ⟨free, rfl⟩
      · exact well
      · exact well.add free ⟨component, listed, entry, mem, found, some, rfl, rfl⟩

theorem extractFromComponent_extracts {component : String × Schema} (listed : component ∈ components) :
    Extracts components ComponentRewritten component (extractFromComponent components component) := by
  intro extracted well
  unfold extractFromComponent
  dsimp only
  cases written : component.2.properties with
  | none => exact ⟨well, List.prefix_refl _, .plain written⟩
  | some properties =>
    have each : ∀ entry ∈ properties, Extracts components
        (fun claims => PropertyRewritten claims component.1) entry
          (extractFromProperty components component.1 entry) :=
      fun entry mem => extractFromProperty_extracts listed (by simpa [written] using mem)
    obtain ⟨well, le, rewritten⟩ :=
      mapWithState_extracts (fun le => PropertyRewritten.mono le) each extracted well
    exact ⟨well, le, .rewritten written rewritten⟩

end Steps

section Claims

variable {components changed : List (String × Schema)} {claims : Claims} {name : String}

theorem lookup_mapValues {α β : Type} (f : α → β) (table : List (String × α)) (key : String) :
    (mapValues f table).lookup key = (table.lookup key).map f := by
  induction table with
  | nil => rfl
  | cons entry rest ih =>
    rw [show mapValues f (entry :: rest) = (entry.1, f entry.2) :: mapValues f rest from rfl,
      List.lookup_cons, List.lookup_cons, ih]
    cases key == entry.1 <;> rfl

theorem lookup_of_rewritten (each : List.Forall₂ (ComponentRewritten claims) components changed) :
    (changed.lookup name).map Schema.enumDefinition? = (components.lookup name).map Schema.enumDefinition? := by
  induction each with
  | nil => rfl
  | @cons entry entry' _ _ first _ ih =>
    have same : entry'.1 = entry.1 ∧ entry'.2.enumDefinition? = entry.2.enumDefinition? := by
      cases first with
      | plain => exact ⟨rfl, rfl⟩
      | rewritten => exact ⟨rfl, rfl⟩
    obtain ⟨key, schema⟩ := entry
    obtain ⟨key', schema'⟩ := entry'
    obtain ⟨rfl, same⟩ := same
    simp only [List.lookup_cons]
    split
    · simpa using same
    · exact ih

theorem claimed?_eq (each : List.Forall₂ (ComponentRewritten claims) components changed)
    (extracted : Extracted) (name : String) :
    ((changed ++ mapValues EnumDefinition.schema extracted).lookup name).map Schema.enumDefinition? =
      claimed? components extracted name := by
  have old : (changed.lookup name).map Schema.enumDefinition? =
      (components.lookup name).map Schema.enumDefinition? := lookup_of_rewritten each
  unfold claimed?
  rw [List.lookup_append, lookup_mapValues]
  cases looked : components.lookup name with
  | some schema =>
    rw [looked] at old
    obtain ⟨schema', looked', same⟩ := Option.map_eq_some_iff.1 old
    simp [looked', same]
  | none =>
    rw [looked, Option.map_none] at old
    rw [Option.map_eq_none_iff.1 old, Option.none_or, Option.map_map]
    rfl

end Claims

section Again

variable {components : List (String × Schema)} {doc : Document}

theorem mapWithState_fixed {α σ : Type} {f : α → σ → α × σ} {items : List α} {state : σ}
    (fixed : ∀ a ∈ items, f a state = (a, state)) : mapWithState f items state = (items, state) := by
  induction items with
  | nil => rfl
  | cons a rest ih =>
    rw [mapWithState, fixed a List.mem_cons_self]
    dsimp only
    rw [ih fun b mem => fixed b (List.mem_cons_of_mem _ mem)]

theorem claimed?_nil (components : List (String × Schema)) (name : String) :
    claimed? components [] name = (components.lookup name).map Schema.enumDefinition? := by
  unfold claimed?
  cases components.lookup name <;> rfl

theorem extractEnum_of_obstructed {extracted : Extracted} {name : String} {found : InlineEnum}
    (obstructed : Obstructed (claimed? components extracted) name found) :
    extractEnum components name found.definition found.place extracted = (found.place, extracted) := by
  obtain ⟨other, claimed, apart⟩ := obstructed
  unfold extractEnum
  rw [claimed]
  dsimp only
  refine if_neg fun same => ?_
  obtain ⟨holder, rfl, same⟩ := (Option.any_eq_true _ _).1 same
  obtain ⟨agrees, number⟩ := EnumDefinition.same_iff.1 same
  exact number (apart holder rfl agrees)

theorem PropertyRewritten.fixed {owner : String} {entry changed : String × Schema}
    (rewritten : PropertyRewritten (claimed? components []) owner entry changed) :
    extractFromProperty components owner changed [] = (changed, []) := by
  rw [extractFromProperty_eq]
  cases rewritten with
  | plain none => rw [none]
  | moved some moved =>
    obtain ⟨rfl, -, -⟩ := moved
    rw [inlineSlot?_put_referTo some]
  | kept some obstructed =>
    rw [some]
    dsimp only
    rw [extractEnum_of_obstructed obstructed, put_place some]

theorem extractFromComponent_of_none {entry : String × Schema} (none : entry.2.properties = none)
    (extracted : Extracted) : extractFromComponent components entry extracted = (entry, extracted) := by
  unfold extractFromComponent
  dsimp only
  rw [none]

theorem ComponentRewritten.fixed {entry changed : String × Schema}
    (rewritten : ComponentRewritten (claimed? components []) entry changed) :
    extractFromComponent components changed [] = (changed, []) := by
  cases rewritten with
  | plain none => exact extractFromComponent_of_none none []
  | @rewritten key schema properties changed _ each =>
    unfold extractFromComponent
    dsimp only
    rw [mapWithState_fixed]
    intro property mem
    obtain ⟨before, -, property⟩ := exists_of_forall₂_right each mem
    exact property.fixed

end Again

section Documents

variable {doc : Document} {schemas : List (String × Schema)}

theorem extractEnums_of_none (absent : doc.schemas = none) : doc.extractEnums = (doc, []) := by
  unfold Document.extractEnums
  rw [absent]

theorem extractEnums_of_schemas (written : doc.schemas = some schemas) :
    ∃ changed extracted, mapWithState (extractFromComponent schemas) schemas [] = (changed, extracted) ∧
      doc.extractEnums = ({ doc with schemas := some (changed ++ mapValues EnumDefinition.schema extracted) },
        extracted.map (·.1)) := by
  unfold Document.extractEnums
  rw [written]
  exact ⟨_, _, rfl, rfl⟩

theorem extracts_of_run {changed : List (String × Schema)} {extracted : Extracted}
    (run : mapWithState (extractFromComponent schemas) schemas [] = (changed, extracted)) :
    WellTaken schemas extracted ∧
      List.Forall₂ (ComponentRewritten (claimed? schemas extracted)) schemas changed := by
  have nothing : WellTaken schemas [] := ⟨by simp, List.nodup_nil, by simp⟩
  obtain ⟨well, -, each⟩ := mapWithState_extracts (fun le => ComponentRewritten.mono le)
    (fun _ listed => extractFromComponent_extracts listed) [] nothing
  rw [run] at well each
  exact ⟨well, each⟩

theorem WellTaken.fresh_names {extracted : Extracted} (well : WellTaken schemas extracted) {name : String}
    (mem : name ∈ extracted.map (·.1)) : name ∉ schemas.map (·.1) := by
  obtain ⟨entry, inside, rfl⟩ := List.mem_map.1 mem
  intro declared
  obtain ⟨component, listed, same⟩ := List.mem_map.1 declared
  simpa [same] using List.lookup_eq_none_iff.1 (well.fresh entry inside) component listed

theorem run_again {changed : List (String × Schema)} {extracted : Extracted}
    (each : List.Forall₂ (ComponentRewritten (claimed? schemas extracted)) schemas changed) :
    mapWithState (extractFromComponent (changed ++ mapValues EnumDefinition.schema extracted))
        (changed ++ mapValues EnumDefinition.schema extracted) [] =
      (changed ++ mapValues EnumDefinition.schema extracted, []) := by
  have claims : claimed? (changed ++ mapValues EnumDefinition.schema extracted) [] =
      claimed? schemas extracted :=
    funext fun name => (claimed?_nil _ name).trans (claimed?_eq each extracted name)
  rw [← claims] at each
  refine mapWithState_fixed fun entry mem => ?_
  rcases List.mem_append.1 mem with mem | mem
  · obtain ⟨before, -, rewritten⟩ := exists_of_forall₂_right each mem
    exact rewritten.fixed
  · obtain ⟨definition, -, rfl⟩ := List.mem_map.1 mem
    exact extractFromComponent_of_none rfl []

end Documents

/-- Enumerations are taken out as described, those under one name agree, and nothing is left for a
second time. -/
theorem extractEnums_extracts (doc : Document) :
    EnumsExtracted doc doc.extractEnums.1 doc.extractEnums.2 ∧
      (∀ {name found found' place place'}, Moved doc.extractEnums.1.claims name found place →
        Moved doc.extractEnums.1.claims name found' place' →
          found.definition.Agrees found'.definition) ∧
        doc.extractEnums.1.extractEnums = (doc.extractEnums.1, []) := by
  refine ⟨?_, Moved.agree, ?_⟩
  · cases written : doc.schemas with
    | none =>
      rw [extractEnums_of_none written]
      have empty : doc.components = [] := by simp [Document.components, written]
      refine ⟨rfl, fun _ => rfl, ⟨[], [], ?_, ?_, rfl, by simp⟩, by simp, List.nodup_nil⟩
      · exact empty
      · rw [empty]
        exact .nil
    | some schemas =>
      obtain ⟨changed, extracted, run, result⟩ := extractEnums_of_schemas written
      obtain ⟨well, each⟩ := extracts_of_run run
      have components : doc.components = schemas := by simp [Document.components, written]
      rw [result]
      refine ⟨?_, ?_, ⟨changed, extracted, rfl, ?_, rfl, ?_⟩, ?_, well.distinct⟩
      · cases doc
        cases written
        rfl
      · simp [written]
      · have claims : { doc with schemas := some (changed ++ mapValues EnumDefinition.schema extracted) }.claims =
            claimed? schemas extracted := funext (claimed?_eq each extracted)
        rw [components, claims]
        exact each
      · exact components ▸ well.taken
      · exact components ▸ fun name => well.fresh_names
  · cases written : doc.schemas with
    | none => rw [extractEnums_of_none written, extractEnums_of_none written]
    | some schemas =>
      obtain ⟨changed, extracted, run, result⟩ := extractEnums_of_schemas written
      obtain ⟨-, each⟩ := extracts_of_run run
      rw [result]
      unfold Document.extractEnums
      dsimp only
      rw [run_again each]
      simp [mapValues]

/-- A number that has one value, and that is no number. -/
def unmeasured : Schema :=
  { typeNames := some (.single "number"), enumeration := some [.real .nan] }

/-- A gauge has two properties whose enumerations get one name. -/
def gauges : Document :=
  { openapi := none, info := none, paths := [], tags := [], source := none
    schemas := some [("Gauge", { properties := some [("level", unmeasured), ("Level", unmeasured)] })] }

/-- The second enumeration stays in its place, although its name stands for the same definition. -/
theorem gauges_keep :
    ∃ gauge ∈ gauges.extractEnums.1.components, gauge.1 = "Gauge" ∧
      ∃ level ∈ gauge.2.properties.getD [], level = ("Level", unmeasured) ∧
        ∃ found, unmeasured.inlineSlot? = some found ∧
          gauges.extractEnums.1.claims (enumName "Gauge" "Level") = some (some found.definition) :=
  ⟨_, List.mem_cons_self, rfl, _, List.mem_cons_of_mem _ List.mem_cons_self, rfl, _, rfl, rfl⟩

end OpenApi

end OpenApiCodegen
