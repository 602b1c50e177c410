import Mathlib.Data.List.Count

/-!
# What a search has not seen

A search that remembers what it has seen goes no deeper than there is left to
see: the number of unseen elements never grows, and falls at each new one.
-/

namespace GraphFacade

variable {α : Type} [BEq α] [LawfulBEq α] {all seen later : List α}

def unseen (all seen : List α) : Nat :=
  all.countP fun a => !seen.contains a

theorem unseen_le (kept : seen ⊆ later) : unseen all later ≤ unseen all seen := by
  refine List.countP_mono_left fun a _ absent => ?_
  simp only [Bool.not_eq_true', List.contains_eq_mem, decide_eq_false_iff_not] at *
  exact fun there => absent (kept there)

theorem unseen_lt {a : α} (member : a ∈ all) (new : a ∉ seen) (kept : seen ⊆ later)
    (found : a ∈ later) : unseen all later < unseen all seen := by
  obtain ⟨before, after, rfl⟩ := List.append_of_mem member
  have first : unseen before later ≤ unseen before seen := unseen_le kept
  have last : unseen after later ≤ unseen after seen := unseen_le kept
  have split : ∀ list : List α, unseen (before ++ a :: after) list =
      unseen before list + unseen [a] list + unseen after list := by
    intro list
    simp only [unseen, List.countP_append, List.countP_cons, List.countP_nil]
    omega
  have here : unseen [a] later = 0 := by simp [unseen, found]
  have there : unseen [a] seen = 1 := by simp [unseen, new]
  rw [split later, split seen]
  omega

end GraphFacade
