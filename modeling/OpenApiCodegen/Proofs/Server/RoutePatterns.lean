import OpenApiCodegen.Proofs.Api.Placeholders
import OpenApiCodegen.Proofs.Generation.Exclusions
import OpenApiCodegen.Proofs.Server.Identifiers
import OpenApiCodegen.Proofs.WebClient.RequestUrls

namespace OpenApiCodegen.Server

open Api (Operation)
open Api.PathTemplate
open Output (joinPath)
open Text (splitOn)

def Alphabet.Takes (alphabet : Alphabet) (segment : List Char) : Prop :=
  segment.filter isBrace = [] ∨
    ∃ name, placeholder? segment = some name ∧ alphabet.isIdentifier name = true

/-- What a multiplexer accepts as a pattern. No two wildcards have one name. -/
structure Alphabet.WellFormed (alphabet : Alphabet) (pattern : List Char) : Prop where
  segments : ∀ segment ∈ splitOn '/' pattern, alphabet.Takes segment
  once : ((splitOn '/' pattern).filterMap placeholder?).Nodup

def wildcard (name : List Char) : List Char :=
  '\x7b' :: (name ++ ['\x7d'])

section Patterns

variable {alphabet : Alphabet} {name segment pattern : List Char}

section Identifiers

variable (identifier : alphabet.isIdentifier name = true)
include identifier

theorem slashless_of_isIdentifier : '/' ∉ name :=
  Alphabet.not_mem_of_isIdentifier identifier (by decide) (by decide)

theorem unclosed_of_isIdentifier : '\x7d' ∉ name :=
  Alphabet.not_mem_of_isIdentifier identifier (by decide) (by decide)

theorem closed_wildcard : Closed (wildcard name) :=
  .placeholder (unclosed_of_isIdentifier identifier) (slashless_of_isIdentifier identifier) .done

theorem placeholders_wildcard : placeholders (wildcard name) = [name] := by
  rw [placeholders, wildcard, gather_placeholder charWise_tokens (unclosed_of_isIdentifier identifier),
    gather_nil charWise_tokens]
  rfl

theorem strayBraces_wildcard : strayBraces (wildcard name) = [] := by
  rw [strayBraces, wildcard, gather_placeholder charWise_braces (unclosed_of_isIdentifier identifier),
    gather_nil charWise_braces]
  rfl

end Identifiers

theorem pieces_braceless (braceless : segment.filter isBrace = []) : pieces segment = [.fixed segment] := by
  apply pieces_plain
  rw [Text.cutAt_eq_none]
  intro mem
  exact List.filter_eq_nil_iff.1 braceless _ mem rfl

theorem closed_braceless (braceless : segment.filter isBrace = []) : Closed segment := by
  induction segment with
  | nil => exact .done
  | cons c rest ih =>
    have plain : ∀ d ∈ c :: rest, isBrace d ≠ true := List.filter_eq_nil_iff.1 braceless
    apply Closed.char
    · rintro rfl
      exact plain _ List.mem_cons_self rfl
    · exact ih (List.filter_eq_nil_iff.2 fun d mem => plain d (List.mem_cons_of_mem _ mem))

theorem placeholder?_braceless (braceless : segment.filter isBrace = []) :
    placeholder? segment = none := by
  apply Option.eq_none_iff_forall_ne_some.2
  intro name own
  rw [placeholder?_eq_some.1 own] at braceless
  simp [isBrace] at braceless

namespace Alphabet.Takes

theorem closed (takes : alphabet.Takes segment) : Closed segment := by
  rcases takes with braceless | ⟨name, own, identifier⟩
  · exact closed_braceless braceless
  · rw [placeholder?_eq_some.1 own]
    exact closed_wildcard identifier

theorem placeholders (takes : alphabet.Takes segment) :
    placeholders segment = (placeholder? segment).toList := by
  rcases takes with braceless | ⟨name, own, identifier⟩
  · rw [Api.PathTemplate.placeholders, gather, pieces_braceless braceless,
      placeholder?_braceless braceless]
    rfl
  · rw [own, placeholder?_eq_some.1 own]
    exact placeholders_wildcard identifier

theorem strayBraces (takes : alphabet.Takes segment) : strayBraces segment = [] := by
  rcases takes with braceless | ⟨name, own, identifier⟩
  · rw [Api.PathTemplate.strayBraces, gather, pieces_braceless braceless]
    simpa [Piece.braces] using braceless
  · rw [placeholder?_eq_some.1 own]
    exact strayBraces_wildcard identifier

theorem isIdentifier (takes : alphabet.Takes segment) (own : placeholder? segment = some name) :
    alphabet.isIdentifier name = true := by
  rcases takes with braceless | ⟨other, found, identifier⟩
  · rw [placeholder?_braceless braceless] at own
    cases own
  · rw [found] at own
    cases own
    exact identifier

end Alphabet.Takes

theorem closed_of_takes (takes : ∀ segment ∈ splitOn '/' pattern, alphabet.Takes segment) :
    Closed pattern :=
  closed_of_segments fun segment mem => (takes segment mem).closed

theorem placeholders_of_takes (takes : ∀ segment ∈ splitOn '/' pattern, alphabet.Takes segment) :
    placeholders pattern = (splitOn '/' pattern).filterMap placeholder? := by
  rw [placeholders, gather_segments charWise_tokens rfl (closed_of_takes takes),
    List.filterMap_eq_flatMap_toList]
  exact List.flatMap_congr fun segment mem => (takes segment mem).placeholders

theorem eq_wildcard_of_once (once : ((splitOn '/' pattern).flatMap placeholders).Nodup)
    (inside : segment ∈ splitOn '/' pattern) (mem : name ∈ placeholders segment)
    (identifier : alphabet.isIdentifier name = true) (whole : wildcard name ∈ splitOn '/' pattern) :
    segment = wildcard name := by
  by_contra other
  have : Std.Symm (Function.onFun List.Disjoint placeholders) := ⟨fun _ _ => List.disjoint_symm⟩
  have apart := (List.nodup_flatMap.1 once).2.forall inside whole other
  apply apart mem
  rw [placeholders_wildcard identifier]
  exact List.mem_singleton_self name

theorem takes_of_whole (identifiers : ∀ name ∈ placeholders pattern, alphabet.isIdentifier name = true)
    (once : (placeholders pattern).Nodup) (noStray : strayBraces pattern = [])
    (whole : ∀ name ∈ placeholders pattern, wildcard name ∈ splitOn '/' pattern) :
    ∀ segment ∈ splitOn '/' pattern, alphabet.Takes segment := by
  have closed : Closed pattern := closed_of_noStray noStray fun name mem =>
    slashless_of_isIdentifier (identifiers name mem)
  have names := gather_segments charWise_tokens rfl closed
  have braces := gather_segments charWise_braces rfl closed
  intro segment inside
  cases found : placeholders segment with
  | nil =>
    have none : strayBraces segment = [] :=
      List.flatMap_eq_nil_iff.1 (braces ▸ noStray) segment inside
    rw [strayBraces_of_placeholders found] at none
    exact .inl none
  | cons name others =>
    have mem : name ∈ placeholders segment := by simp [found]
    have known : name ∈ placeholders pattern := by
      rw [placeholders, names]
      exact List.mem_flatMap.2 ⟨segment, inside, mem⟩
    -- the wildcard has the placeholder too, so it is this segment
    refine .inr ⟨name, placeholder?_eq_some.2 ?_, identifiers name known⟩
    exact eq_wildcard_of_once (names ▸ once) inside mem (identifiers name known) (whole name known)

theorem wellFormed_iff : alphabet.WellFormed pattern ↔
    (∀ name ∈ placeholders pattern, alphabet.isIdentifier name = true) ∧
      (placeholders pattern).Nodup ∧ strayBraces pattern = [] ∧
        ∀ name ∈ placeholders pattern, wildcard name ∈ splitOn '/' pattern := by
  constructor
  · rintro ⟨takes, once⟩
    have names := placeholders_of_takes takes
    have own : ∀ name ∈ placeholders pattern, ∃ segment ∈ splitOn '/' pattern,
        placeholder? segment = some name := by
      intro name mem
      rw [names] at mem
      exact List.mem_filterMap.1 mem
    refine ⟨?_, names ▸ once, ?_, ?_⟩
    · intro name mem
      obtain ⟨segment, inside, filled⟩ := own name mem
      exact (takes segment inside).isIdentifier filled
    · rw [strayBraces, gather_segments charWise_braces rfl (closed_of_takes takes)]
      exact List.flatMap_eq_nil_iff.2 fun segment mem => (takes segment mem).strayBraces
    · intro name mem
      obtain ⟨segment, inside, filled⟩ := own name mem
      rw [placeholder?_eq_some.1 filled] at inside
      exact inside
  · rintro ⟨identifiers, once, noStray, whole⟩
    have takes := takes_of_whole identifiers once noStray whole
    exact ⟨takes, placeholders_of_takes takes ▸ once⟩

end Patterns

/-- What a template needs so that each of its placeholders can be a wildcard. That a path parameter has a
segment of its own is no condition, since it could not be bound otherwise. -/
structure Alphabet.Suits (alphabet : Alphabet) (operation : Operation) : Prop where
  named : ∀ name ∈ placeholders operation.path.toList, alphabet.isIdentifier name = true
  once : (placeholders operation.path.toList).Nodup
  noStray : strayBraces operation.path.toList = []
  whole : ∀ name ∈ placeholders operation.path.toList,
    (∃ parameter ∈ operation.parameters,
      parameter.location = .path ∧ parameter.wireName.toList = name) ∨
        wildcard name ∈ splitOn '/' operation.path.toList

/-- A row of the table, which is mounted without complaint exactly if its template allows it. -/
structure Alphabet.Mounts (alphabet : Alphabet) (row : RouteRow) (operation : Operation) : Prop where
  name : row.name = operation.id
  method : row.method = operation.method
  wellFormed : alphabet.WellFormed row.path.toList ↔ alphabet.Suits operation

section Tables

variable {alphabet : Alphabet} {config : Config} {source : Source} {code : GeneratedCode} {id : Nat}
  {operation : Operation}

theorem wildcard_of_included (included : (id, operation) ∈ source.api.includedOperations .server)
    {parameter : Api.Parameter} (mem : parameter ∈ operation.parameters)
    (path : parameter.location = .path) :
    wildcard parameter.wireName.toList ∈ splitOn '/' operation.path.toList := by
  obtain ⟨position, found⟩ := WebClient.position_of_included included mem path
  obtain ⟨index, -, at_⟩ := placeholder_of_positionFrom? found
  exact List.mem_of_getElem? at_

theorem wellFormed_of_included (included : (id, operation) ∈ source.api.includedOperations .server) :
    alphabet.WellFormed operation.path.toList ↔ alphabet.Suits operation := by
  rw [wellFormed_iff]
  constructor
  · rintro ⟨named, once, noStray, whole⟩
    exact ⟨named, once, noStray, fun name mem => .inr (whole name mem)⟩
  · rintro ⟨named, once, noStray, whole⟩
    refine ⟨named, once, noStray, fun name mem => ?_⟩
    rcases whole name mem with ⟨parameter, declared, path, rfl⟩ | whole
    · exact wildcard_of_included included declared path
    · exact whole

/-- Whether a multiplexer takes all patterns of the table depends on the templates of the operations. -/
theorem patterns_of_generate (alphabet : Alphabet) (run : generate .server config source = .ok code) :
    ∃ file ∈ code.artifacts, ∃ rows entries,
      file.path = joinPath config.server.sourceDir "routes.go" ∧
        Code.Printed indent (tableCode rows) file.contents ∧ readRows? rows = some entries ∧
          List.Forall₂ alphabet.Mounts entries
            ((source.api.includedOperations .server).map (·.2)) := by
  obtain ⟨file, mem, path, printed⟩ :=
    routes_printed (generated_of_generate run) (served_of_generate run)
  refine ⟨file, mem, _, _, path, printed, readRows?_code _, ?_⟩
  rw [List.forall₂_map_left_iff, List.forall₂_same]
  intro operation mem
  obtain ⟨⟨id, operation⟩, included, rfl⟩ := List.mem_map.1 mem
  exact ⟨rfl, rfl, wellFormed_of_included included⟩

end Tables

/-- Profiles of users, at a path whose parameter has a dash in its name. -/
def profiles : OpenApi.Document where
  openapi := none
  info := none
  paths := [("/users/{user-id}",
    Lowering.reading [Lowering.parameterAt "path" "user-id" none] [])]
  schemas := none
  tags := []
  source := none

theorem profiles_pattern_refused : ∃ source code, Source.of profiles = .ok source ∧
    generate .server {} source = .ok code ∧ ∃ file ∈ code.artifacts, ∃ rows entries,
      file.path = joinPath "api" "routes.go" ∧ Code.Printed indent (tableCode rows) file.contents ∧
        readRows? rows = some entries ∧ ∃ row ∈ entries, row.path = "/users/{user-id}" ∧
          ∀ alphabet : Alphabet, ¬alphabet.WellFormed row.path.toList := by
  have seen : (Source.of profiles).toOption.map (fun source : Source => (fullySupported source.api,
      (source.api.includedOperations .server).map fun entry => routeRow entry.2)) =
        some (true, [⟨"getUsers", .get, "/users/{user-id}"⟩]) := by
    rfl
  obtain ⟨source, lowered, seen⟩ := Lowering.exists_of_toOption_map seen
  obtain ⟨supported, listed⟩ := Prod.mk.inj seen
  obtain ⟨code, run⟩ := exists_generated .server {} supported
  obtain ⟨file, mem, path, printed⟩ :=
    routes_printed (generated_of_generate run) (served_of_generate run)
  refine ⟨source, code, lowered, run, file, mem, _, _, path, printed, readRows?_code _,
    ⟨"getUsers", .get, "/users/{user-id}"⟩, ?_, rfl, ?_⟩
  · rw [List.map_map]
    exact listed ▸ List.mem_singleton_self _
  · intro alphabet wellFormed
    have split : splitOn '/' "/users/{user-id}".toList =
        ["".toList, "users".toList, "{user-id}".toList] := by
      decide
    have own : placeholder? "{user-id}".toList = some "user-id".toList := by
      decide
    have takes : alphabet.Takes "{user-id}".toList :=
      wellFormed.segments _ (split ▸ by simp)
    have dash : '-' ∉ "user-id".toList :=
      Alphabet.not_mem_of_isIdentifier (takes.isIdentifier own) (by decide) (by decide)
    exact dash (by decide)

theorem posts_patterns_accepted : ∃ source code, Source.of WebClient.posts = .ok source ∧
    generate .server {} source = .ok code ∧ ∃ file ∈ code.artifacts, ∃ rows entries,
      file.path = joinPath "api" "routes.go" ∧ Code.Printed indent (tableCode rows) file.contents ∧
        readRows? rows = some entries ∧ entries ≠ [] ∧
          ∀ row ∈ entries, Alphabet.ascii.WellFormed row.path.toList := by
  have seen : (Source.of WebClient.posts).toOption.map (fun source : Source =>
      let operations := (source.api.includedOperations .server).map (·.2)
      (fullySupported source.api, operations.length, decide (∀ operation ∈ operations,
        (∀ name ∈ placeholders operation.path.toList,
            Alphabet.ascii.isIdentifier name = true ∧ ∃ parameter ∈ operation.parameters,
              parameter.location = .path ∧ parameter.wireName.toList = name) ∧
          (placeholders operation.path.toList).Nodup ∧
            strayBraces operation.path.toList = []))) = some (true, 1, true) := by
    decide +kernel
  obtain ⟨source, lowered, seen⟩ := Lowering.exists_of_toOption_map seen
  obtain ⟨supported, seen⟩ := Prod.mk.inj seen
  obtain ⟨one, fine⟩ := Prod.mk.inj seen
  have suits : ∀ operation ∈ (source.api.includedOperations .server).map (·.2),
      Alphabet.ascii.Suits operation := by
    intro operation mem
    obtain ⟨named, once, noStray⟩ := of_decide_eq_true fine operation mem
    exact ⟨fun name mem => (named name mem).1, once, noStray, fun name mem => .inl (named name mem).2⟩
  obtain ⟨code, run⟩ := exists_generated .server {} supported
  obtain ⟨file, mem, rows, entries, path, printed, read, mounts⟩ :=
    patterns_of_generate Alphabet.ascii run
  refine ⟨source, code, lowered, run, file, mem, rows, entries, path, printed, read, ?_, ?_⟩
  · rintro rfl
    rw [← mounts.length_eq] at one
    cases one
  · intro row mem
    obtain ⟨index, bound, rfl⟩ := List.getElem_of_mem mem
    have here := (List.forall₂_iff_get.1 mounts).2 index bound (mounts.length_eq ▸ bound)
    exact here.wellFormed.2 (suits _ (List.get_mem _ _))

end OpenApiCodegen.Server
