import GraphFacade.Text.CodePoint

/-!
# The order of texts

Texts are in the order of their code points, which is a linear one: texts that
come neither before nor after each other are of the same code points.
-/

namespace GraphFacade

namespace Text

variable {s t u : String}

theorem not_before_trans (h : before t s = false) (h' : before u t = false) :
    before u s = false := by
  simp only [before, decide_eq_false_iff_not, List.not_lt] at h h' ⊢
  exact List.le_trans h h'

theorem not_before_total (s t : String) : before t s = false ∨ before s t = false := by
  simp only [before, decide_eq_false_iff_not, List.not_lt]
  exact List.le_total _ _

theorem codes_eq_of_not_before (h : before t s = false) (h' : before s t = false) :
    codes s.toList = codes t.toList := by
  simp only [before, decide_eq_false_iff_not, List.not_lt] at h h'
  exact List.le_antisymm h h'

end Text

end GraphFacade
