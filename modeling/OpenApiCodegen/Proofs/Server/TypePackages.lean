import OpenApiCodegen.Proofs.Lowering.TypeNames
import OpenApiCodegen.Proofs.Server.Qualifiers
import OpenApiCodegen.Server.Handlers

namespace OpenApiCodegen

open Api (DataType Parameter ReturnType)

def Api.DataType.innermost : DataType → DataType
  | .array item => item.innermost
  | .map value => value.innermost
  | type => type

def Api.DataType.HoldsTime (type : DataType) : Prop :=
  type.innermost = .date ∨ type.innermost = .dateTime

instance (type : DataType) : Decidable type.HoldsTime :=
  inferInstanceAs (Decidable (_ ∨ _))

namespace Server

open Lowering (NamesCapitalized)

/-- Names in the types of an API are capitalized, and bases of enumerations no times. -/
structure Tidy (api : Api) : Prop where
  models : ∀ model ∈ api.models, Text.Capitalized model.name.toList
  properties : ∀ model ∈ api.models, ∀ property ∈ model.properties, NamesCapitalized property.type
  bases : ∀ model ∈ api.models, ∀ enumeration ∈ model.enumeration?,
    NamesCapitalized enumeration.base ∧ ¬enumeration.base.HoldsTime
  variants : ∀ model ∈ api.models, ∀ discriminator ∈ model.discriminator?,
    ∀ variant ∈ discriminator.variants, Text.Capitalized variant.toList
  operations : ∀ operation ∈ api.operations, Lowering.OperationTyped NamesCapitalized operation
  returned : ∀ operation ∈ api.operations,
    (∀ type ∈ (Api.returnType api operation).types, NamesCapitalized type) ∧
      ∀ applied, Api.returnType api operation = .envelope applied → Text.Capitalized applied.envelope.toList

def packageName (package : String) : String :=
  String.ofList (package.toList.reverse.takeWhile (· != '/')).reverse

def timeNames (type : DataType) : List String :=
  if usesTime type then ["time"] else []

theorem usesTime_iff {type : DataType} : usesTime type = true ↔ type.HoldsTime := by
  induction type with
  | array item ih => exact ih
  | map value ih => exact ih
  | _ => simp [usesTime, DataType.HoldsTime, DataType.innermost]

theorem timeNames_eq_nil {type : DataType} (timeless : ¬type.HoldsTime) : timeNames type = [] :=
  if_neg fun uses => timeless (usesTime_iff.1 uses)

theorem mem_timeNames {types : List DataType} {name : String} :
    name ∈ types.flatMap timeNames ↔ ∃ package ∈ timeFor types, packageName package = name := by
  have called : packageName timePackage = "time" := by decide
  have uses : name ∈ types.flatMap timeNames ↔ (∃ type ∈ types, usesTime type = true) ∧ name = "time" := by
    simp only [List.mem_flatMap, timeNames]
    constructor
    · rintro ⟨type, mem, named⟩
      split at named
      · exact ⟨⟨type, mem, ‹_›⟩, List.mem_singleton.1 named⟩
      · cases named
    · rintro ⟨⟨type, mem, time⟩, rfl⟩
      exact ⟨type, mem, by simp [time]⟩
  rw [uses, timeFor, ← List.any_eq_true]
  split <;> simp [*, eq_comm]

section Types

variable {api : Api} {type : DataType} {names : List String}

theorem codes_eq_map (types : List GoType) : GoType.codes types = types.map GoType.code := by
  induction types with
  | nil => rfl
  | cons type rest ih => rw [GoType.codes, ih, List.map_cons]

theorem term_applied {name : String} (word : IsWord name) {types : List GoType} {found : List (List String)}
    (each : List.Forall₂ Term (types.map GoType.code) found) :
    Term (GoType.applied name types).code found.flatten := by
  rw [GoType.code, codes_eq_map]
  exact term_typed [.word, .fixed "[" rfl, .type, .fixed "]" rfl] [name, commaSeparated (types.map GoType.code)] rfl
    rfl ⟨word, term_commaSeparated each, trivial⟩

theorem term_orNil {type : GoType} (term : Term type.code names) : Term type.orNil.code names := by
  unfold GoType.orNil
  split
  · exact term
  · exact term_typed [.fixed "*" rfl, .type] [type.code] rfl rfl ⟨term, trivial⟩

theorem term_modelType (api : Api) {name : String} (word : IsWord name) :
    Term (modelType api name).code [] := by
  unfold modelType
  split
  · rename_i parameters _
    have any : Term "any" [] := term_fixed rfl
    have each : List.Forall₂ Term ((parameters.map fun _ => GoType.named "any").map GoType.code)
        (parameters.map fun _ => []) := by
      rw [List.map_map, List.forall₂_map_left_iff, List.forall₂_map_right_iff]
      exact List.forall₂_same.2 fun _ _ => any
    have term := term_applied word each
    rwa [List.flatten_eq_nil_iff.2 (by simp)] at term
  · exact term_word word

theorem term_goType (api : Api) (named : NamesCapitalized type) :
    Term (goType api type).code (timeNames type) := by
  have binary : Term "[]byte" [] := term_fixed rfl
  have time : Term "time.Time" ["time"] := term_fixed rfl
  induction type with
  | text => exact term_word (isWord_fixed (by decide))
  | integer => exact term_word (isWord_fixed (by decide))
  | long => exact term_word (isWord_fixed (by decide))
  | float => exact term_word (isWord_fixed (by decide))
  | double => exact term_word (isWord_fixed (by decide))
  | boolean => exact term_word (isWord_fixed (by decide))
  | date | dateTime => exact time
  | binary => exact binary
  | any => exact term_word (isWord_fixed (by decide))
  | array item ih =>
    exact term_typed [.fixed "[]" rfl, .type] [(goType api item).code] rfl rfl ⟨ih named, trivial⟩
  | map value ih =>
    exact term_typed [.fixed "map[string]" rfl, .type] [(goType api value).code] rfl rfl
      ⟨ih named, trivial⟩
  | model name => exact term_modelType api (isWord_of_capitalized (named name (List.mem_singleton_self name)))

end Types

end Server

end OpenApiCodegen
