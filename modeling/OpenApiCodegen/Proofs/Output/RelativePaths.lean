import Mathlib.Data.List.Induction
import Mathlib.Data.List.TakeWhile
import OpenApiCodegen.Output.Path
import OpenApiCodegen.Proofs.Text.Cuts

namespace OpenApiCodegen.Output

open Text (splitOn joinWith)

def here : List Char := ['.']

/-- A piece of a way: one dot stays, two dots leave the last segment, and any other piece is a segment to
enter. The root cannot be left. -/
def step? (dir : List (List Char)) (piece : List Char) : Option (List (List Char)) :=
  if piece = here then some dir
  else if piece = parent then
    if dir = [] then none else some dir.dropLast
  else some (dir ++ [piece])

def follow? (dir way : List (List Char)) : Option (List (List Char)) :=
  way.foldlM step? dir

/-- A path whose first piece is one dot or two, as imports want it for files of the project. -/
def IsRelative (path : String) : Prop :=
  ∃ rest, splitOn '/' path.toList = here :: rest ∨ splitOn '/' path.toList = parent :: rest

structure Enters (piece : List Char) : Prop where
  slashless : '/' ∉ piece
  nonempty : piece ≠ []
  moves : piece ≠ here
  down : piece ≠ parent

section Segments

variable {dir file : String} {piece : List Char}

theorem mem_segments (mem : piece ∈ segments dir) : '/' ∉ piece ∧ piece ≠ [] ∧ piece ≠ here := by
  obtain ⟨cut, said⟩ := List.mem_filter.1 mem
  obtain ⟨nonempty, moves⟩ := Bool.and_eq_true_iff.1 said
  exact ⟨Text.outside_of_mem_splitOn cut, by simpa using nonempty, bne_iff_ne.1 moves⟩

theorem Enters.of_mem_segments (mem : piece ∈ segments dir) (down : piece ≠ parent) : Enters piece :=
  have ⟨slashless, nonempty, moves⟩ := mem_segments mem
  ⟨slashless, nonempty, moves, down⟩

theorem Enters.segments (enters : Enters file.toList) : segments file = [file.toList] := by
  have said : (!file.toList.isEmpty && file.toList != ['.']) = true :=
    Bool.and_eq_true_iff.2 ⟨by simpa using enters.nonempty, bne_iff_ne.2 enters.moves⟩
  rw [Output.segments, Text.splitOn_eq_singleton enters.slashless]
  exact List.filter_eq_self.2 fun part mem => List.mem_singleton.1 mem ▸ said

theorem segments_join (before after : List Char) :
    segments (String.ofList (before ++ '/' :: after)) =
      segments (String.ofList before) ++ segments (String.ofList after) := by
  simp only [segments, String.toList_ofList, Text.splitOn_append_cons, List.filter_append]

theorem segments_dropSlashes (dir : String) : segments (dropSlashes dir) = segments dir := by
  have ended : ∀ n before, segments (String.ofList (before ++ List.replicate n '/')) =
      segments (String.ofList before) := by
    intro n
    induction n with
    | zero => simp
    | succ n ih =>
      intro before
      have nothing : segments (String.ofList []) = [] := by decide
      rw [List.replicate_succ', ← List.append_assoc, segments_join, nothing, List.append_nil, ih]
  have slashes : dir.toList = (dropSlashes dir).toList ++
      List.replicate (dir.toList.reverse.takeWhile (· == '/')).length '/' := by
    have all : dir.toList.reverse.takeWhile (· == '/') =
        List.replicate (dir.toList.reverse.takeWhile (· == '/')).length '/' :=
      List.eq_replicate_iff.2 ⟨rfl, fun c mem => by simpa using List.mem_takeWhile_imp mem⟩
    have whole := congrArg List.reverse
      (List.takeWhile_append_dropWhile (p := (· == '/')) (l := dir.toList.reverse))
    rw [List.reverse_append, List.reverse_reverse, all, List.reverse_replicate] at whole
    rw [dropSlashes, String.toList_ofList]
    exact whole.symm
  conv_rhs => rw [← String.ofList_toList (s := dir), slashes, ended, String.ofList_toList]

theorem segments_joinPath (dir : String) (enters : Enters file.toList) :
    segments (joinPath dir file) = segments dir ++ [file.toList] := by
  have written : joinPath dir file = if (dropSlashes dir).isEmpty || dropSlashes dir == "." then file
      else dropSlashes dir ++ "/" ++ file := rfl
  rw [← segments_dropSlashes dir, written]
  split
  · rename_i none
    have empty : segments (dropSlashes dir) = [] := by
      rcases Bool.or_eq_true_iff.1 none with empty | dot
      · rw [String.isEmpty_iff.1 empty]
        decide
      · rw [eq_of_beq dot]
        decide
    rw [empty, List.nil_append, enters.segments]
  · have joined := segments_join (dropSlashes dir).toList file.toList
    rw [String.ofList_toList, String.ofList_toList, enters.segments] at joined
    have same : dropSlashes dir ++ "/" ++ file =
        String.ofList ((dropSlashes dir).toList ++ '/' :: file.toList) :=
      String.toList_inj.1 (by simp)
    rw [same, joined]

end Segments

section Following

variable {dir way more : List (List Char)}

theorem follow?_append : follow? dir (way ++ more) = (follow? dir way).bind (follow? · more) :=
  List.foldlM_append

theorem follow?_here : follow? dir (here :: way) = follow? dir way :=
  rfl

theorem follow?_enter {piece : List Char} (moves : piece ≠ here) (down : piece ≠ parent) :
    follow? dir (piece :: way) = follow? (dir ++ [piece]) way := by
  have step : step? dir piece = some (dir ++ [piece]) := by rw [step?, if_neg moves, if_neg down]
  rw [follow?, List.foldlM_cons, step]
  rfl

theorem follow?_down (enters : ∀ piece ∈ way, Enters piece) : follow? dir way = some (dir ++ way) := by
  induction way generalizing dir with
  | nil => simp [follow?]
  | cons piece way ih =>
    have first := enters piece List.mem_cons_self
    rw [follow?_enter first.moves first.down, ih fun other mem => enters other (List.mem_cons_of_mem _ mem)]
    simp

/-- As many pieces up as there are segments to leave. By induction from the last segment on, which is the
first to be left. -/
theorem follow?_up (dir up : List (List Char)) :
    follow? (dir ++ up) (List.replicate up.length parent) = some dir := by
  induction up using List.reverseRecOn with
  | nil => simp [follow?]
  | append_singleton up last ih =>
    have left : step? (dir ++ (up ++ [last])) parent = some (dir ++ up) := by
      have moves : parent ≠ here := by decide
      rw [step?, if_neg moves, if_pos rfl, if_neg (by simp), ← List.append_assoc, List.dropLast_concat]
    rw [List.length_append, List.length_singleton, List.replicate_succ, follow?, List.foldlM_cons, left]
    exact ih

end Following

section Ways

theorem exists_dropCommon (source destination : List (List Char)) : ∃ common up down,
    dropCommon source destination = (up, down) ∧ source = common ++ up ∧ destination = common ++ down := by
  fun_induction dropCommon source destination with
  | case1 a source b destination same ih =>
    obtain ⟨common, up, down, found, first, second⟩ := ih
    obtain rfl := eq_of_beq same
    exact ⟨a :: common, up, down, found, by simp [first], by simp [second]⟩
  | case2 a source b destination => exact ⟨[], a :: source, b :: destination, rfl, rfl, rfl⟩
  | case3 source destination => exact ⟨[], source, destination, rfl, rfl, rfl⟩

def wayOf (source destination : String) : List (List Char) :=
  (dropCommon (segments source) (segments destination)).1.map (fun _ => parent) ++
    (dropCommon (segments source) (segments destination)).2

variable {source destination : String} {piece : List Char}

theorem exists_wayOf (source destination : String) : ∃ common up down,
    segments source = common ++ up ∧ segments destination = common ++ down ∧
      wayOf source destination = List.replicate up.length parent ++ down := by
  obtain ⟨common, up, down, found, first, second⟩ :=
    exists_dropCommon (segments source) (segments destination)
  exact ⟨common, up, down, first, second, by rw [wayOf, found, List.map_const']⟩

theorem slashless_of_mem_wayOf (mem : piece ∈ wayOf source destination) : '/' ∉ piece := by
  obtain ⟨common, up, down, -, second, way⟩ := exists_wayOf source destination
  rw [way] at mem
  rcases List.mem_append.1 mem with up | down
  · rw [List.eq_of_mem_replicate up]
    decide
  · exact (mem_segments (second ▸ List.mem_append_right common down)).1

theorem follow?_wayOf (plain : parent ∉ segments destination) :
    follow? (segments source) (wayOf source destination) = some (segments destination) := by
  obtain ⟨common, up, down, first, second, way⟩ := exists_wayOf source destination
  have enters : ∀ piece ∈ down, Enters piece := by
    intro piece mem
    have inside : piece ∈ segments destination := second ▸ List.mem_append_right common mem
    exact .of_mem_segments inside fun same => plain (same ▸ inside)
  rw [way, first, second, follow?_append, follow?_up, Option.bind_some, follow?_down enters]

theorem relativePath_of_nil (way : wayOf source destination = []) :
    relativePath source destination = "." := by
  rw [wayOf] at way
  simp only [relativePath, way]

theorem relativePath_of_cons {first : List Char} {rest : List (List Char)}
    (way : wayOf source destination = first :: rest) :
    relativePath source destination =
      if first = parent then slashed (first :: rest) else "./" ++ slashed (first :: rest) := by
  rw [wayOf] at way
  simp only [relativePath, way]

theorem splitOn_relativePath (source destination : String) :
    splitOn '/' (relativePath source destination).toList = here :: wayOf source destination ∨
      ∃ rest, wayOf source destination = parent :: rest ∧
        splitOn '/' (relativePath source destination).toList = wayOf source destination := by
  have slashless : ∀ piece ∈ wayOf source destination, '/' ∉ piece := fun _ mem => slashless_of_mem_wayOf mem
  cases way : wayOf source destination with
  | nil =>
    rw [relativePath_of_nil way]
    exact .inl (by decide)
  | cons first rest =>
    rw [way] at slashless
    have pieces := Text.splitOn_joinWith (List.cons_ne_nil first rest) slashless
    rw [relativePath_of_cons way]
    split
    · rename_i up
      subst up
      exact .inr ⟨rest, rfl, by rw [slashed, String.toList_ofList, pieces]⟩
    · left
      have dotted : ("./" ++ slashed (first :: rest)).toList = here ++ '/' :: joinWith ['/'] (first :: rest) := by
        simp [slashed, here]
      rw [dotted, Text.splitOn_append_cons, pieces]
      rfl

theorem follow?_relativePath (plain : parent ∉ segments destination) :
    follow? (segments source) (splitOn '/' (relativePath source destination).toList) =
      some (segments destination) := by
  rcases splitOn_relativePath source destination with dotted | ⟨-, -, bare⟩
  · rw [dotted, follow?_here, follow?_wayOf plain]
  · rw [bare, follow?_wayOf plain]

theorem follow?_file {file : String} (plain : parent ∉ segments destination) (enters : Enters file.toList) :
    follow? (segments source) (splitOn '/' (relativePath source destination ++ "/" ++ file).toList) =
      some (segments (joinPath destination file)) := by
  have written : (relativePath source destination ++ "/" ++ file).toList =
      (relativePath source destination).toList ++ '/' :: file.toList := by simp
  have last : follow? (segments destination) [file.toList] = some (segments destination ++ [file.toList]) :=
    follow?_down (by simpa using enters)
  rw [written, Text.splitOn_append_cons, Text.splitOn_eq_singleton enters.slashless, follow?_append,
    follow?_relativePath plain, Option.bind_some, last, segments_joinPath destination enters]

theorem isRelative_relativePath (source destination : String) :
    IsRelative (relativePath source destination) := by
  rcases splitOn_relativePath source destination with dotted | ⟨rest, up, bare⟩
  · exact ⟨_, .inl dotted⟩
  · exact ⟨rest, .inr (bare.trans up)⟩

theorem IsRelative.file {path : String} (relative : IsRelative path) (file : String) :
    IsRelative (path ++ "/" ++ file) := by
  have written : (path ++ "/" ++ file).toList = path.toList ++ '/' :: file.toList := by simp
  obtain ⟨rest, first⟩ := relative
  refine ⟨rest ++ splitOn '/' file.toList, ?_⟩
  rw [written, Text.splitOn_append_cons]
  exact first.imp (fun same => by rw [same]; rfl) fun same => by rw [same]; rfl

theorem IsRelative.begins {path : String} (relative : IsRelative path) : path.toList.head? = some '.' := by
  obtain ⟨rest, first⟩ := relative
  rw [← Text.joinWith_splitOn '/' path.toList]
  rcases first with same | same
  · rw [same]
    cases rest <;> rfl
  · rw [same]
    cases rest <;> rfl

/-- A relative path leads from its source to its destination, unless two dots in the latter lead elsewhere,
and a file name behind it leads to the file in the destination. Either way it begins with one dot or two. -/
theorem relativePath_leads (source destination : String) :
    (parent ∉ segments destination →
      follow? (segments source) (splitOn '/' (relativePath source destination).toList) =
          some (segments destination) ∧
        ∀ file : String, Enters file.toList →
          follow? (segments source) (splitOn '/' (relativePath source destination ++ "/" ++ file).toList) =
            some (segments (joinPath destination file))) ∧
    (relativePath source destination).toList.head? = some '.' ∧
    IsRelative (relativePath source destination) ∧
    ∀ file, IsRelative (relativePath source destination ++ "/" ++ file) := by
  have relative := isRelative_relativePath source destination
  refine ⟨fun plain => ⟨follow?_relativePath plain, ?_⟩, relative.begins, relative, relative.file⟩
  exact fun file enters => follow?_file plain enters

/-- Slashes and dots that say nothing make no difference. -/
theorem relativePath_leads_to_models :
    parent ∉ segments "lib/./model/" ∧ relativePath "./lib//api/v1" "lib/./model/" = "../../model" ∧
      follow? (segments "./lib//api/v1") (splitOn '/' (relativePath "./lib//api/v1" "lib/./model/").toList) =
        some (segments "lib/./model/") :=
  have plain : parent ∉ segments "lib/./model/" := by decide
  ⟨plain, by rfl, ((relativePath_leads "./lib//api/v1" "lib/./model/").1 plain).1⟩

end Ways

end OpenApiCodegen.Output
