import Mathlib.Data.List.Nodup
import Mathlib.Data.List.Perm.Subperm
import OpenApiCodegen.Lowering.Names
import Std.Data.String.ToNat

namespace OpenApiCodegen.Lowering

theorem numbered_injective {base : String} {i j : Nat} (hi : 1 ≤ i) (hj : 1 ≤ j)
    (same : numbered base i = numbered base j) : i = j := by
  have nonempty : ∀ n : Nat, base ≠ base ++ toString n := by
    intro n equal
    have lengths := congrArg String.length equal
    have positive : 0 < (toString n).length := by
      rw [Nat.toString_eq_repr]
      exact Nat.length_repr_pos
    simp only [String.length_append] at lengths
    omega
  unfold numbered at same
  split at same <;> split at same
  · omega
  · exact absurd same (nonempty j)
  · exact absurd same.symm (nonempty i)
  · exact Nat.repr_injective (String.append_right_inj base |>.1 same)

theorem mem_of_freshFrom_mem {taken : List String} {base : String} {tries n : Nat}
    (mem : freshFrom taken base tries n ∈ taken) :
    ∀ k, n ≤ k → k ≤ n + tries → numbered base k ∈ taken := by
  induction tries generalizing n with
  | zero =>
    intro k low high
    obtain rfl : k = n := by omega
    exact mem
  | succ tries ih =>
    intro k low high
    unfold freshFrom at mem
    split at mem
    · rename_i found
      rcases Nat.eq_or_lt_of_le low with rfl | above
      · exact List.contains_iff_mem.1 found
      · exact ih mem k above (by omega)
    · rename_i free
      exact absurd (List.contains_iff_mem.2 mem) free

theorem freshName_not_mem (taken : List String) (base : String) : freshName taken base ∉ taken := by
  intro mem
  have tried := mem_of_freshFrom_mem mem
  let names := (List.range' 1 (taken.length + 1)).map (numbered base)
  have distinct : names.Nodup := by
    refine List.Nodup.map_on ?_ List.nodup_range'
    intro i hi j hj same
    simp only [List.mem_range'_1] at hi hj
    exact numbered_injective hi.1 hj.1 same
  have subset : names ⊆ taken := by
    intro name member
    obtain ⟨k, hk, rfl⟩ := List.mem_map.1 member
    simp only [List.mem_range'_1] at hk
    exact tried k hk.1 (by omega)
  have bound := (List.Nodup.subperm distinct subset).length_le
  simp only [names, List.length_map, List.length_range'] at bound
  omega

end OpenApiCodegen.Lowering
