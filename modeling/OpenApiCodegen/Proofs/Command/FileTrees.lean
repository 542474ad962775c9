import OpenApiCodegen.Command.FileTree
import OpenApiCodegen.Proofs.Text.Cuts

namespace OpenApiCodegen.Command

open Text (splitOn)

def Location.follow (location : Location) (pieces : List (List Char)) : Location :=
  pieces.foldl (fun place piece =>
    if Path.isVoid piece then place else place.enter (String.ofList piece)) location

namespace Path

def start (path : String) : Location :=
  ⟨if Text.beginsWith path "/" then .root else .working 0, []⟩

def place (path : String) : Location :=
  (start path).follow (splitOn '/' path.toList)

variable {path other : String} {location : Location} {pieces : List (List Char)}

def Plain (path : String) : Prop :=
  ∀ piece ∈ splitOn '/' path.toList, isVoid piece = false ∧ piece ≠ ['.', '.']

instance (path : String) : Decidable (Plain path) :=
  inferInstanceAs (Decidable (∀ piece ∈ splitOn '/' path.toList, _))

theorem solid_of_long {piece : List Char} (long : 2 < piece.length) :
    isVoid piece = false ∧ piece ≠ ['.', '.'] := by
  constructor
  · rw [Bool.eq_false_iff]
    intro void
    rcases Bool.or_eq_true_iff.1 void with empty | dot
    · rw [List.isEmpty_iff.1 empty] at long
      cases long
    · rw [eq_of_beq dot] at long
      exact absurd long (by decide)
  · rintro rfl
    exact absurd long (by decide)

theorem follow_plain (plain : ∀ piece ∈ pieces, isVoid piece = false ∧ piece ≠ ['.', '.']) :
    location.follow pieces =
      ⟨location.anchor, (pieces.map String.ofList).reverse ++ location.names⟩ := by
  induction pieces generalizing location with
  | nil => rfl
  | cons piece rest ih =>
    obtain ⟨solid, down⟩ := plain piece List.mem_cons_self
    have entered : location.enter (String.ofList piece) =
        ⟨location.anchor, String.ofList piece :: location.names⟩ := by
      unfold Location.enter
      rw [if_neg]
      intro up
      exact down (String.ofList_inj.1 up)
    have step : location.follow (piece :: rest) =
        (location.enter (String.ofList piece)).follow rest := by
      rw [Location.follow, List.foldl_cons, if_neg (by simp [solid])]
      rfl
    rw [step, entered, ih fun other mem => plain other (List.mem_cons_of_mem _ mem)]
    simp

theorem Plain.not_rooted (plain : Plain path) : Text.beginsWith path "/" = false := by
  rw [Bool.eq_false_iff]
  intro rooted
  obtain ⟨rest, same⟩ := List.isPrefixOf_iff_prefix.1 rooted
  have first : [] ∈ splitOn '/' path.toList := by
    rw [← same]
    exact Text.splitOn_cons_self '/' rest ▸ List.mem_cons_self
  exact absurd (plain [] first).1 (by decide)

theorem exists_front {dir : String} (named : dir.isEmpty = false) : ∃ front : List Char,
    ∀ path, Plain path → (join dir path).toList = front ++ '/' :: path.toList := by
  by_cases ends : dir.toList.getLast? = some '/'
  · obtain ⟨front, same⟩ := List.getLast?_eq_some_iff.1 ends
    refine ⟨front, fun path plain => ?_⟩
    simp [join, plain.not_rooted, named, same]
  · refine ⟨dir.toList, fun path plain => ?_⟩
    simp [join, plain.not_rooted, named, ends]

theorem exists_base (dir : String) : ∃ base : Location, ∀ path, Plain path →
    place (join dir path) = base.follow (splitOn '/' path.toList) := by
  cases named : dir.isEmpty with
  | true =>
    refine ⟨⟨.working 0, []⟩, fun path plain => ?_⟩
    have rooted := plain.not_rooted
    simp [place, start, join, named, rooted]
  | false =>
    obtain ⟨front, joined⟩ := exists_front named
    let anchor := if ['/'].isPrefixOf (front ++ ['/']) then Anchor.root else .working 0
    refine ⟨Location.follow ⟨anchor, []⟩ (splitOn '/' front), fun path plain => ?_⟩
    have begins : Text.beginsWith (join dir path) "/" = ['/'].isPrefixOf (front ++ ['/']) := by
      rw [Text.beginsWith, joined path plain]
      cases front <;> simp [List.isPrefixOf]
    rw [place, start, begins, joined path plain, Text.splitOn_append_cons]
    exact List.foldl_append

theorem place_join_inj {dir : String} (plain : Plain path) (plain' : Plain other)
    (same : place (join dir path) = place (join dir other)) : path = other := by
  obtain ⟨base, places⟩ := exists_base dir
  rw [places path plain, places other plain', follow_plain plain, follow_plain plain'] at same
  have names := List.append_cancel_right (Location.mk.inj same).2
  have split := List.map_injective_iff.2 (fun _ _ => String.ofList_inj.1) (List.reverse_inj.1 names)
  rw [← String.toList_inj, ← Text.joinWith_splitOn '/' path.toList, split, Text.joinWith_splitOn]

section Files

variable {out dir file : String}

theorem not_rooted_of_slashless (slashless : '/' ∉ file.toList) :
    Text.beginsWith file "/" = false := by
  rw [Bool.eq_false_iff]
  intro rooted
  obtain ⟨rest, same⟩ := List.isPrefixOf_iff_prefix.1 rooted
  exact slashless (same ▸ List.mem_append_left rest (List.mem_singleton.2 rfl))

theorem beginsWith_append (named : dir.isEmpty = false) (rest : String) :
    Text.beginsWith (dir ++ rest) "/" = Text.beginsWith dir "/" := by
  have some : dir.toList ≠ [] := by simpa using named
  obtain ⟨c, chars, same⟩ := List.exists_cons_of_ne_nil some
  simp [Text.beginsWith, same, List.isPrefixOf]

theorem start_append (named : dir.isEmpty = false) (rest : String) :
    start (dir ++ rest) = start dir := by
  rw [start, beginsWith_append named]
  rfl

theorem place_beside (named : dir.isEmpty = false) (slashless : '/' ∉ file.toList) :
    place (dir ++ "/" ++ file) = (place dir).follow [file.toList] := by
  have split : (dir ++ "/" ++ file).toList = dir.toList ++ '/' :: file.toList := by simp
  rw [place, String.append_assoc, start_append named, ← String.append_assoc, split,
    Text.splitOn_append_cons, Text.splitOn_eq_singleton slashless]
  exact List.foldl_append

theorem place_append (named : dir.isEmpty = false) (ends : dir.toList.getLast? = some '/')
    (slashless : '/' ∉ file.toList) : place (dir ++ file) = (place dir).follow [file.toList] := by
  obtain ⟨front, same⟩ := List.getLast?_eq_some_iff.1 ends
  have split : (dir ++ file).toList = front ++ '/' :: file.toList := by simp [same]
  -- the directory itself ends in an empty piece, which leads nowhere
  have here : place dir = (start dir).follow (splitOn '/' front) := by
    rw [place, same, Text.splitOn_append_cons]
    exact List.foldl_append
  rw [here, place, start_append named, split, Text.splitOn_append_cons,
    Text.splitOn_eq_singleton slashless]
  exact List.foldl_append

theorem place_join (slashless : '/' ∉ file.toList) :
    place (join out file) = (place out).follow [file.toList] := by
  have rooted := not_rooted_of_slashless slashless
  by_cases named : out.isEmpty
  · obtain rfl := String.isEmpty_iff.1 named
    have alone : join "" file = file := by simp [join]
    rw [alone, place, start, rooted, Text.splitOn_eq_singleton slashless]
    rfl
  · have named : out.isEmpty = false := by simpa using named
    by_cases ends : out.toList.getLast? = some '/'
    · have joined : join out file = out ++ file := by simp [join, rooted, named, ends]
      rw [joined, place_append named ends slashless]
    · have joined : join out file = out ++ "/" ++ file := by simp [join, rooted, named, ends]
      rw [joined, place_beside named slashless]

theorem join_beside (named : dir.isEmpty = false) (file : String) :
    join out (dir ++ "/" ++ file) = join out dir ++ "/" ++ file := by
  have same : Text.beginsWith (dir ++ "/" ++ file) "/" = Text.beginsWith dir "/" := by
    rw [String.append_assoc, beginsWith_append named]
  unfold join
  rw [same]
  split
  · rfl
  · split <;> simp only [String.append_assoc]

theorem join_named (named : dir.isEmpty = false) : (join out dir).isEmpty = false := by
  have some : dir ≠ "" := by simpa using named
  unfold join
  split
  · exact named
  · split <;> simp [some]

theorem place_join_beside (named : dir.isEmpty = false) (slashless : '/' ∉ file.toList) :
    place (join out (dir ++ "/" ++ file)) = (place (join out dir)).follow [file.toList] := by
  rw [join_beside named, place_beside (join_named named) slashless]

end Files

end Path

namespace FileTree

variable {tree before middle after : FileTree} {location place : Location} {entry : Entry}
  {written : Location → Prop} {path contents : String} {pieces : List (List Char)}

theorem entry?_put_self (named : location.names ≠ []) :
    FileTree.entry? (tree.put location entry) location = some entry := by
  simp [put, entry?, named]

theorem lookup_filter (other : place ≠ location) (entries : List (Location × Entry)) :
    (entries.filter fun (found, _) => found != location).lookup place = entries.lookup place := by
  induction entries with
  | nil => rfl
  | cons entry rest ih =>
    obtain ⟨found, entry⟩ := entry
    by_cases same : found = location
    · subst same
      have different : (place == found) = false := by simpa using other
      simp [List.lookup_cons, ih, different]
    · have stays : (found != location) = true := by simpa using same
      simp [stays, List.lookup_cons, ih]

theorem entry?_put_other (other : place ≠ location) :
    FileTree.entry? (tree.put location entry) place = tree.entry? place := by
  have different : (place == location) = false := by simpa using other
  simp only [put, entry?, List.lookup_cons, different, lookup_filter other]

def Keeps (written : Location → Prop) (before after : FileTree) : Prop :=
  ∀ location entry, before.entry? location = some entry →
    entry.isDirectory = true ∨ ¬written location → after.entry? location = some entry

theorem Keeps.refl (tree : FileTree) : Keeps written tree tree :=
  fun _ _ found _ => found

theorem Keeps.trans (first : Keeps written before middle) (second : Keeps written middle after) :
    Keeps written before after :=
  fun location entry found stays => second location entry (first location entry found stays) stays

theorem Keeps.mono {allowed : Location → Prop} (keeps : Keeps written before after)
    (wider : ∀ location, written location → allowed location) : Keeps allowed before after :=
  fun location entry found stays =>
    keeps location entry found (stays.imp_right fun forbidden used => forbidden (wider location used))

theorem keeps_put (free : ∀ entry, tree.entry? location = some entry →
    entry.isDirectory = false ∧ written location) : Keeps written tree (tree.put location entry) := by
  intro place found at_ stays
  have other : place ≠ location := by
    rintro rfl
    obtain ⟨file, allowed⟩ := free found at_
    rcases stays with directory | forbidden
    · rw [file] at directory
      cases directory
    · exact forbidden allowed
  rw [entry?_put_other other]
  exact at_

theorem follow_of_walk (walked : tree.walk location pieces = .ok place) :
    place = location.follow pieces := by
  induction pieces generalizing location with
  | nil => exact (Except.ok.inj walked).symm
  | cons piece rest ih =>
    unfold walk at walked
    split at walked
    · cases walked
    · cases walked
    · rw [Location.follow, List.foldl_cons]
      split at walked
      · rename_i void
        rw [if_pos void]
        exact ih walked
      · rename_i named
        dsimp only at walked
        split at walked
        · cases walked
        · rw [if_neg named]
          exact ih walked

theorem Keeps.walk (keeps : Keeps written before after)
    (walked : before.walk location pieces = .ok place) : after.walk location pieces = .ok place := by
  induction pieces generalizing location with
  | nil => exact walked
  | cons piece rest ih =>
    unfold FileTree.walk at walked ⊢
    -- only directories are walked through, and those stay
    split at walked
    · cases walked
    · cases walked
    · rename_i found
      rw [keeps _ _ found (.inl rfl)]
      dsimp only
      split at walked
      · rename_i void
        rw [if_pos void]
        exact ih walked
      · rename_i named
        rw [if_neg named]
        dsimp only at walked ⊢
        split at walked
        · cases walked
        · rename_i short
          rw [if_neg short]
          exact ih walked

structure Holds (tree : FileTree) (path contents : String) : Prop where
  located : tree.locate path = .ok (Path.place path)
  file : tree.entry? (Path.place path) = some (.file contents.toUTF8)

theorem Holds.readText (holds : tree.Holds path contents) : tree.readText path = .ok contents := by
  have decoded : String.fromUTF8? contents.toUTF8 = some contents := by
    simp [String.fromUTF8?, String.fromUTF8, String.toUTF8, contents.isValidUTF8]
  simp only [FileTree.readText, holds.located, holds.file, Bind.bind, Except.bind, decoded]

theorem Holds.keeps (holds : before.Holds path contents) (keeps : Keeps written before after)
    (apart : ¬written (Path.place path)) : after.Holds path contents :=
  ⟨keeps.walk holds.located, keeps _ _ holds.file (.inr apart)⟩

theorem write_eq_ok (wrote : before.write path contents.toUTF8 = .ok after) :
    after.Holds path contents ∧ Keeps (· = Path.place path) before after := by
  unfold write at wrote
  cases located : before.locate path with
  | error error => simp [located, Bind.bind, Except.bind] at wrote
  | ok place =>
    obtain rfl : place = Path.place path := follow_of_walk located
    simp only [located, Bind.bind, Except.bind] at wrote
    split at wrote
    · cases wrote
    · rename_i notDirectory
      cases wrote
      have keeps : Keeps (· = Path.place path) before
          (before.put (Path.place path) (.file contents.toUTF8)) := by
        apply keeps_put
        intro entry found
        cases entry with
        | directory => exact absurd found notDirectory
        | file contents => exact ⟨rfl, rfl⟩
      have named : (Path.place path).names ≠ [] := by
        intro empty
        apply notDirectory
        simp [empty, entry?]
      exact ⟨⟨keeps.walk located, entry?_put_self named⟩, keeps⟩

theorem createDirectory_eq_ok (created : before.createDirectory path = .ok after) :
    Keeps written before after := by
  unfold createDirectory at created
  cases located : before.locate path with
  | error error => simp [located, Bind.bind, Except.bind] at created
  | ok place =>
    simp only [located, Bind.bind, Except.bind] at created
    split at created
    · cases created
    · rename_i none
      cases created
      apply keeps_put
      intro entry found
      rw [none] at found
      cases found

end FileTree

end OpenApiCodegen.Command
