import Mathlib.Data.List.Forall2

/-!
# Lists related element by element

What is known of the elements of one list holds of those that they are related
to.
-/

namespace GraphFacade

variable {α β γ : Type} {R : α -> β -> Prop} {as : List α} {bs : List β}

theorem exists_of_forall₂ (related : List.Forall₂ R as bs) {a : α} (member : a ∈ as) :
    ∃ b ∈ bs, R a b := by
  induction related with
  | nil => simp at member
  | cons first _ ih =>
      rcases List.mem_cons.mp member with rfl | later
      · exact ⟨_, List.mem_cons_self, first⟩
      · obtain ⟨b, among, found⟩ := ih later
        exact ⟨b, List.mem_cons_of_mem _ among, found⟩

theorem map_eq_of_forall₂ {f : α -> γ} {g : β -> γ} (related : List.Forall₂ R as bs)
    (same : ∀ a b, R a b -> f a = g b) : as.map f = bs.map g := by
  induction related with
  | nil => rfl
  | cons first _ ih => rw [List.map_cons, List.map_cons, same _ _ first, ih]

theorem forall_iff_of_forall₂ {p : α -> Prop} {q : β -> Prop} (related : List.Forall₂ R as bs)
    (same : ∀ a b, R a b -> (p a ↔ q b)) : (∀ a ∈ as, p a) ↔ ∀ b ∈ bs, q b := by
  induction related with
  | nil => simp
  | cons first _ ih => rw [List.forall_mem_cons, List.forall_mem_cons, same _ _ first, ih]

end GraphFacade
