import OpenApiCodegen.Proofs.Server.NamesApart

namespace OpenApiCodegen.Server

open Api (Operation Placement)

/-- What makes the names of a package identifiers. -/
structure Alphabet.Spells (alphabet : Alphabet) (api : Api) : Prop where
  models : ∀ name ∈ modelNames api, alphabet.isIdentifier name.toList = true
  handlers : ∀ entry ∈ api.includedOperations .server,
    alphabet.isIdentifier (goName entry.2 ++ "Ctrl").toList = true

instance (alphabet : Alphabet) (api : Api) : Decidable (alphabet.Spells api) :=
  decidable_of_iff ((∀ name ∈ modelNames api, alphabet.isIdentifier name.toList = true) ∧
      ∀ entry ∈ api.includedOperations .server,
        alphabet.isIdentifier (goName entry.2 ++ "Ctrl").toList = true)
    ⟨fun holds => ⟨holds.1, holds.2⟩, fun spells => ⟨spells.models, spells.handlers⟩⟩

namespace Alphabet

variable {alphabet : Alphabet} {name base : String} {operation : Operation} {checked : Bool}

theorem accepts_of_capital {c : Char} (identifier : alphabet.isIdentifier name.toList = true)
    (mem : c ∈ name.toList) (capital : c.isLower = false) : alphabet.Accepts name :=
  ⟨identifier, not_keyword mem capital⟩

theorem accepts_capitalized (identifier : alphabet.isIdentifier name.toList = true)
    (capitalized : Text.Capitalized name.toList) : alphabet.Accepts name := by
  cases written : name.toList with
  | nil =>
    rw [written] at identifier
    cases identifier
  | cons c rest =>
    refine accepts_of_capital identifier (c := c) (by simp [written]) ?_
    by_contra lower
    exact capitalized.ne_cons (by simpa using lower) written

theorem isIdentifier_ending {ending : List Char}
    (ascii : ending.all (fun c => decide (c.toNat < 128)) = true)
    (identifier : Alphabet.ascii.isIdentifier ending = true) :
    alphabet.isIdentifier ending = true ∧ ∀ c ∈ ending, alphabet.continues c = true := by
  have here : alphabet.isIdentifier ending = true :=
    isIdentifier_of_ascii (by simpa using ascii) identifier
  exact ⟨here, fun c mem => continues_of_mem here mem⟩

theorem accepts_values (identifier : alphabet.isIdentifier base.toList = true) :
    alphabet.Accepts (base ++ "Values") := by
  apply accepts_of_capital (c := 'V')
  · rw [toList_values]
    exact isIdentifier_append identifier (isIdentifier_ending (by decide) (by decide)).2
  · rw [toList_values]
    exact List.mem_append_right _ (by decide)
  · decide

theorem accepts_operation
    (handler : alphabet.isIdentifier (goName operation ++ "Ctrl").toList = true)
    (mem : name ∈ operationNames operation) : alphabet.Accepts name := by
  rw [toList_ctrl] at handler
  have ending : alphabet.isIdentifier ['P', 'a', 'r', 'a', 'm', 's'] = true :=
    (isIdentifier_ending (by decide) (by decide)).1
  have parameters := isIdentifier_replace handler ending
  rcases spelled_of_operation mem with spelled | spelled | spelled
  · refine accepts_of_capital (c := 'P') (spelled ▸ parameters) ?_ (by decide)
    rw [spelled]
    exact List.mem_append_right _ (by decide)
  · refine accepts_of_capital (c := 'P') ?_ ?_ (by decide)
    · rw [spelled, List.append_assoc]
      exact isIdentifier_append (isIdentifier_ending (by decide) (by decide)).1
        fun c mem => continues_of_mem parameters mem
    · rw [spelled]
      exact List.mem_append_right _ (by decide)
  · refine accepts_of_capital (c := 'C') (spelled ▸ handler) ?_ (by decide)
    rw [spelled]
    exact List.mem_append_right _ (by decide)

theorem accepts_fixed (mem : name ∈ fixedNames checked) : alphabet.Accepts name := by
  have all : (fixedNames true).all (fun name => Alphabet.ascii.isIdentifier name.toList &&
      name.toList.all (·.toNat < 128) && (name.toList.any (!·.isLower) || name = "first")) = true := by
    simp only [fixedNames, supportNames, routeNames, checkNames, if_true, List.cons_append,
      List.nil_append, List.all_cons, List.all_nil]
    repeat rw [String.toList_ofList]
    rfl
  have here := List.all_eq_true.1 all name ((fixedNames_sublist checked).subset mem)
  simp only [Bool.and_eq_true, Bool.or_eq_true, decide_eq_true_eq, List.all_eq_true,
    List.any_eq_true, Bool.not_eq_true'] at here
  obtain ⟨⟨identifier, ascii⟩, ⟨c, inside, capital⟩ | rfl⟩ := here
  · exact accepts_of_capital (isIdentifier_of_ascii ascii identifier) inside capital
  · exact ⟨isIdentifier_of_ascii ascii identifier, by simp [keywords]⟩

end Alphabet

section Packages

variable {alphabet : Alphabet} {api : Api} {checked : Bool}

theorem accepts_madeNames_iff
    (capitalized : ∀ model ∈ api.models, Text.Capitalized model.name.toList) :
    (∀ name ∈ madeNames api checked, alphabet.Accepts name) ↔ alphabet.Spells api := by
  constructor
  · intro accepts
    constructor
    · intro name mem
      obtain ⟨place, placed, rfl⟩ := List.mem_map.1 mem
      refine (accepts _ (List.mem_append_left _ (List.mem_append_left _ ?_))).1
      exact List.mem_flatMap.2 ⟨place, placed, List.mem_cons_self⟩
    · intro entry mem
      refine (accepts _ (List.mem_append_left _ (List.mem_append_right _ ?_))).1
      exact List.mem_flatMap.2 ⟨entry.2, List.mem_map_of_mem mem, mem_operationNames.2 (.inr rfl)⟩
  · intro spells name mem
    rcases List.mem_append.1 mem with mem | fixed
    · rcases List.mem_append.1 mem with mem | mem
      · obtain ⟨place, placed, own⟩ := List.mem_flatMap.1 mem
        have identifier := spells.models _ (List.mem_map_of_mem placed)
        rcases List.mem_cons.1 own with rfl | own
        · have listed := List.mem_of_getElem? (Api.getElem?_of_mem_placements placed)
          exact Alphabet.accepts_capitalized identifier (capitalized _ listed)
        · obtain ⟨other, inside, -, rfl⟩ := mem_valuesNames.1 (List.mem_flatMap.2 ⟨place, placed, own⟩)
          exact Alphabet.accepts_values (spells.models _ (List.mem_map_of_mem inside))
      · obtain ⟨operation, included, own⟩ := List.mem_flatMap.1 mem
        obtain ⟨entry, listed, rfl⟩ := List.mem_map.1 included
        exact Alphabet.accepts_operation (spells.handlers entry listed) own
    · exact Alphabet.accepts_fixed fixed

theorem capitalized_of_source {doc : OpenApi.Document} {source : Source}
    (lowered : Source.of doc = .ok source) :
    ∀ model ∈ source.api.models, Text.Capitalized model.name.toList :=
  Lowering.capitalized_of_lower (lower_of_source lowered)

/-- The files declare distinct names exactly if the names of models and operations can be told apart, and
these names alone decide whether all are identifiers. -/
theorem declarations_of_generate (alphabet : Alphabet) {doc : OpenApi.Document} {source : Source}
    {config : Config} {code : GeneratedCode} (lowered : Source.of doc = .ok source)
    (run : generate .server config source = .ok code) :
    code.artifacts = (packageFiles config.server source).map GoFile.artifact ++
        ((checkedDocument? config.server source.document).map (documentFile config.server)).toList ∧
      ((packageNames config.server source).Nodup ↔ NamesApart source.api) ∧
        ((∀ name ∈ packageNames config.server source, alphabet.Accepts name) ↔
          alphabet.Spells source.api) := by
  have capitalized := capitalized_of_source lowered
  rw [packageNames_eq capitalized]
  exact ⟨artifacts_eq run, madeNames_nodup_iff capitalized, accepts_madeNames_iff capitalized⟩

end Packages

/-- Two operations that are named by their paths, as `getXY` and `getXy`. -/
def readings : OpenApi.Document where
  openapi := none
  info := none
  paths := [("/x/y", Lowering.reading [] []), ("/xy", Lowering.reading [] [])]
  schemas := none
  tags := []
  source := none

theorem readings_clash : ∃ source code, Source.of readings = .ok source ∧
    generate .server {} source = .ok code ∧
      (∀ file ∈ packageFiles {} source, file.artifact ∈ code.artifacts) ∧
        ¬(packageNames {} source).Nodup := by
  have seen : (Source.of readings).toOption.map (fun source : Source => (fullySupported source.api,
      (source.api.includedOperations .server).map fun entry => goName entry.2)) =
        some (true, ["GetXy", "GetXy"]) := by
    rfl
  obtain ⟨source, lowered, seen⟩ := Lowering.exists_of_toOption_map seen
  obtain ⟨supported, names⟩ := Prod.mk.inj seen
  obtain ⟨code, run⟩ := exists_generated .server {} supported
  have capitalized := capitalized_of_source lowered
  refine ⟨source, code, lowered, run, fun file mem => ?_, fun distinct => ?_⟩
  · rw [artifacts_eq run]
    exact List.mem_append_left _ (List.mem_map_of_mem mem)
  · rw [packageNames_eq capitalized] at distinct
    have apart := ((madeNames_nodup_iff capitalized).1 distinct).operations
    rw [names] at apart
    exact absurd apart (by decide)

/-- Users with a role, and an operation that reads one of them. -/
def members : OpenApi.Document where
  openapi := none
  info := none
  paths := [("/users/{id}", Lowering.reading [Lowering.parameterAt "path" "id" none] [])]
  schemas := some
    [("Role", { typeNames := some (.single "string"), enumeration := some [.text "owner", .text "guest"] }),
      ("User", { properties := some [("role", { ref := some "#/components/schemas/Role" })] })]
  tags := []
  source := none

theorem members_declarations : ∃ source code, Source.of members = .ok source ∧
    generate .server {} source = .ok code ∧
      code.artifacts = (packageFiles {} source).map GoFile.artifact ++
          ((checkedDocument? {} source.document).map (documentFile {})).toList ∧
        (packageNames {} source).Nodup ∧
          ∀ name ∈ packageNames {} source, Alphabet.ascii.Accepts name := by
  have seen : (Source.of members).toOption.map (fun source : Source => (fullySupported source.api,
      decide (NamesApart source.api), decide (Alphabet.ascii.Spells source.api))) =
        some (true, true, true) := by
    rfl
  obtain ⟨source, lowered, seen⟩ := Lowering.exists_of_toOption_map seen
  simp only [Prod.mk.injEq, decide_eq_true_eq] at seen
  obtain ⟨supported, apart, spells⟩ := seen
  obtain ⟨code, run⟩ := exists_generated .server {} supported
  obtain ⟨files, distinct, identifiers⟩ := declarations_of_generate .ascii lowered run
  exact ⟨source, code, lowered, run, files, distinct.2 apart, identifiers.2 spells⟩

end OpenApiCodegen.Server
