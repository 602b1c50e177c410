import GraphFacade.Name
import Mathlib.Data.List.Nodup
import Mathlib.Data.List.Perm.Subperm

/-!
# Fresh names

Different candidates for a name are different texts, so among one more of them
than there are taken names one is free, and that is the name that is given.
-/

namespace GraphFacade

namespace Name

theorem toDigits_injective {m n : Nat} (same : Nat.toDigits 10 m = Nat.toDigits 10 n) : m = n := by
  have read := congrArg (fun digits => Nat.ofDigitChars 10 digits 0) same
  simpa [Nat.ofDigitChars_toDigits] using read

theorem candidate_injective {base : String} {m n : Nat} (hm : 1 ≤ m) (hn : 1 ≤ n)
    (same : candidate base m = candidate base n) : m = n := by
  have numbered : ∀ k, base ++ "_" ++ String.ofList (Nat.toDigits 10 k) ≠ base := by
    intro k equal
    have longer := congrArg String.length equal
    simp only [String.length_append, show "_".length = 1 from rfl] at longer
    omega
  unfold candidate at same
  split at same <;> split at same
  · omega
  · exact absurd same.symm (numbered n)
  · exact absurd same (numbered m)
  · have digits := congrArg String.toList same
    simp only [String.toList_append, List.append_cancel_left_eq, String.toList_ofList] at digits
    exact toDigits_injective digits

theorem taken_of_freshFrom {taken : List String} {base : String} {fuel n : Nat}
    (h : freshFrom taken base fuel n ∈ taken) {k : Nat} (bound : k ≤ fuel) :
    candidate base (n + k) ∈ taken := by
  induction fuel generalizing n k with
  | zero =>
      obtain rfl : k = 0 := by omega
      exact h
  | succ fuel ih =>
      by_cases used : candidate base n ∈ taken
      · rw [freshFrom, List.contains_iff_mem.mpr used, if_pos rfl] at h
        cases k with
        | zero => exact used
        | succ k =>
            rw [show n + (k + 1) = n + 1 + k by omega]
            exact ih h (by omega)
      · simp only [freshFrom, List.contains_eq_mem, used, decide_false, Bool.false_eq_true,
          ↓reduceIte] at h

theorem fresh_not_mem (taken : List String) (base : String) : fresh taken base ∉ taken := by
  intro used
  have all : (List.range (taken.length + 1)).map (fun k => candidate base (1 + k)) ⊆ taken := by
    intro name member
    obtain ⟨k, inside, rfl⟩ := List.mem_map.mp member
    exact taken_of_freshFrom used (Nat.lt_succ_iff.mp (List.mem_range.mp inside))
  have different : ((List.range (taken.length + 1)).map fun k => candidate base (1 + k)).Nodup := by
    refine List.Nodup.map_on ?_ List.nodup_range
    intro j _ k _ same
    have := candidate_injective (by omega) (by omega) same
    omega
  have bound := different.length_le_of_subset all
  rw [List.length_map, List.length_range] at bound
  omega

end Name

end GraphFacade
