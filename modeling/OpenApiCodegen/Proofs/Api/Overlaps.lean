import OpenApiCodegen.Proofs.Api.RequestPaths

namespace OpenApiCodegen.Api.PathTemplate

/-- Whether two patterns match a common text. A character of the text that two segments take ends
either of them, or both, or neither; where it ends neither, it can be left out. -/
def overlap : List Atom → List Atom → Bool
  | [], [] => true
  | .char c :: left, .char d :: right => c == d && overlap left right
  | .char c :: left, .segment :: right =>
    c != '/' && (overlap left right || overlap left (.segment :: right))
  | .segment :: left, .char d :: right =>
    d != '/' && (overlap left right || overlap (.segment :: left) right)
  | .segment :: left, .segment :: right =>
    overlap left right || overlap left (.segment :: right) || overlap (.segment :: left) right
  | [], _ :: _ => false
  | _ :: _, [] => false
termination_by left right => left.length + right.length

def Shared (left right : List Atom) : Prop :=
  ∃ text, fits left text = true ∧ fits right text = true

section Shared

variable {c d : Char} {left right : List Atom}

theorem shared_nil : Shared [] [] :=
  ⟨[], rfl, rfl⟩

theorem not_shared_nil {atom : Atom} : ¬ Shared [] (atom :: right) := by
  rintro ⟨text, empty, fitsRight⟩
  rw [fits_nil.1 empty, fits_cons_nil] at fitsRight
  cases fitsRight

theorem Shared.symm (shared : Shared left right) : Shared right left := by
  obtain ⟨text, fitsLeft, fitsRight⟩ := shared
  exact ⟨text, fitsRight, fitsLeft⟩

theorem shared_chars :
    Shared (.char c :: left) (.char d :: right) ↔ c = d ∧ Shared left right := by
  constructor
  · rintro ⟨text, fitsLeft, fitsRight⟩
    obtain ⟨rest, rfl, fitsRest⟩ := fits_char.1 fitsLeft
    obtain ⟨same, fitsRight⟩ := fits_char_cons.1 fitsRight
    exact ⟨same, rest, fitsRest, fitsRight⟩
  · rintro ⟨rfl, text, fitsLeft, fitsRight⟩
    exact ⟨c :: text, by simpa using fitsLeft, by simpa using fitsRight⟩

theorem shared_char_segment : Shared (.char c :: left) (.segment :: right) ↔
    c ≠ '/' ∧ (Shared left right ∨ Shared left (.segment :: right)) := by
  constructor
  · rintro ⟨text, fitsLeft, fitsRight⟩
    obtain ⟨rest, rfl, fitsRest⟩ := fits_char.1 fitsLeft
    obtain ⟨slashless, ends | goesOn⟩ := fits_segment_cons.1 fitsRight
    · exact ⟨slashless, .inl ⟨rest, fitsRest, ends⟩⟩
    · exact ⟨slashless, .inr ⟨rest, fitsRest, goesOn⟩⟩
  · rintro ⟨slashless, ⟨text, fitsLeft, fitsRight⟩ | ⟨text, fitsLeft, fitsRight⟩⟩
    · exact ⟨c :: text, by simpa using fitsLeft, by simp [slashless, fitsRight]⟩
    · exact ⟨c :: text, by simpa using fitsLeft, by simp [slashless, fitsRight]⟩

theorem shared_segments : Shared (.segment :: left) (.segment :: right) ↔
    Shared left right ∨ Shared left (.segment :: right) ∨ Shared (.segment :: left) right := by
  constructor
  · rintro ⟨text, fitsLeft, fitsRight⟩
    -- a character that ends neither segment can be left out
    induction text with
    | nil => simp at fitsLeft
    | cons c rest ih =>
      obtain ⟨-, endsLeft | onLeft⟩ := fits_segment_cons.1 fitsLeft
      · obtain ⟨-, endsRight | onRight⟩ := fits_segment_cons.1 fitsRight
        · exact .inl ⟨rest, endsLeft, endsRight⟩
        · exact .inr (.inl ⟨rest, endsLeft, onRight⟩)
      · obtain ⟨-, endsRight | onRight⟩ := fits_segment_cons.1 fitsRight
        · exact .inr (.inr ⟨rest, onLeft, endsRight⟩)
        · exact ih onLeft onRight
  · -- any character but a slash can stand in front of what is shared
    have longer : ∀ {atoms text}, fits atoms text = true ∨ fits (.segment :: atoms) text = true →
        fits (.segment :: atoms) ('a' :: text) = true := fun fits =>
      fits_segment_cons.2 ⟨by decide, fits⟩
    rintro (⟨text, fitsLeft, fitsRight⟩ | ⟨text, fitsLeft, fitsRight⟩ | ⟨text, fitsLeft, fitsRight⟩)
    · exact ⟨'a' :: text, longer (.inl fitsLeft), longer (.inl fitsRight)⟩
    · exact ⟨'a' :: text, longer (.inl fitsLeft), longer (.inr fitsRight)⟩
    · exact ⟨'a' :: text, longer (.inr fitsLeft), longer (.inl fitsRight)⟩

end Shared

theorem shared_comm (left right : List Atom) : Shared left right ↔ Shared right left :=
  ⟨Shared.symm, Shared.symm⟩

theorem overlap_iff (left right : List Atom) : overlap left right = true ↔ Shared left right := by
  fun_induction overlap left right with
  | case1 => simp [shared_nil]
  | case2 c left d right ih => simp [shared_chars, ih]
  | case3 c left right ihEnd ihOn => simp [shared_char_segment, ihEnd, ihOn]
  | case4 left d right ihEnd ihOn =>
    rw [shared_comm (.segment :: left), shared_char_segment, shared_comm right left,
      shared_comm right (.segment :: left)]
    simp [ihEnd, ihOn]
  | case5 left right ihBoth ihLeft ihRight =>
    simp [shared_segments, ihBoth, ihLeft, ihRight, or_assoc]
  | case6 => simp [not_shared_nil]
  | case7 => simp [shared_comm _ [], not_shared_nil]

def Overlapping (path other : String) : Prop :=
  ∃ request : String, Requests path.toList request.toList ∧ Requests other.toList request.toList

theorem overlap_atomsOf (path other : String) :
    overlap (atomsOf path.toList) (atomsOf other.toList) = true ↔ Overlapping path other := by
  rw [overlap_iff]
  constructor
  · rintro ⟨text, fitsPath, fitsOther⟩
    refine ⟨String.ofList text, ?_, ?_⟩
    · rw [String.toList_ofList]
      exact (fits_atomsOf _ _).1 fitsPath
    · rw [String.toList_ofList]
      exact (fits_atomsOf _ _).1 fitsOther
  · rintro ⟨request, ofPath, ofOther⟩
    exact ⟨request.toList, (fits_atomsOf _ _).2 ofPath, (fits_atomsOf _ _).2 ofOther⟩

instance (path other : String) : Decidable (Overlapping path other) :=
  decidable_of_iff _ (overlap_atomsOf path other)

example : Overlapping "/users/{id}" "/users/me" ∧ ¬ Overlapping "/users/{id}" "/teams/{id}" := by
  decide +kernel

end OpenApiCodegen.Api.PathTemplate
