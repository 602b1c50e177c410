/-!
# Ranking by insertion

Items put in order by a comparison that need not be an order.  The longest run
at the start that is in order already is kept, one that falls all the way is
turned round, and every further item is inserted at a place found by halving.
-/

namespace GraphFacade

namespace Ranking

variable {α : Type}

/-- The items that continue a run behind its last item, and the items after them. -/
def run (continues : α -> α -> Bool) : α -> List α -> List α × List α
  | _, [] => ([], [])
  | last, item :: rest =>
      if continues last item then
        let (more, left) := run continues item rest
        (item :: more, left)
      else
        ([], item :: rest)

/-- Put an item into a ranked list, behind the items that it is not before. -/
def insert (before : α -> α -> Bool) (item : α) (ranked : List α) : List α :=
  let middle := ranked.length / 2
  if inside : middle < ranked.length then
    if before item ranked[middle] then
      insert before item (ranked.take middle) ++ ranked.drop middle
    else
      ranked.take (middle + 1) ++ insert before item (ranked.drop (middle + 1))
  else
    [item]
termination_by ranked.length
decreasing_by
  all_goals
    simp only [List.length_take, List.length_drop]
    omega

def sort (before : α -> α -> Bool) : List α -> List α
  | [] => []
  | [item] => [item]
  | first :: second :: rest =>
      if before second first then
        let (more, left) := run (fun last item => before item last) first (second :: rest)
        left.foldl (fun ranked item => insert before item ranked) (first :: more).reverse
      else
        let (more, left) := run (fun last item => !before item last) first (second :: rest)
        left.foldl (fun ranked item => insert before item ranked) (first :: more)

theorem run_append (continues : α -> α -> Bool) (last : α) (items : List α) :
    (run continues last items).1 ++ (run continues last items).2 = items := by
  induction items generalizing last with
  | nil => rfl
  | cons item rest ih =>
      by_cases h : continues last item
      · simp [run, h, ih]
      · simp [run, h]

theorem insert_perm (before : α -> α -> Bool) (item : α) (ranked : List α) :
    (insert before item ranked).Perm (item :: ranked) := by
  fun_induction insert before item ranked with
  | case1 ranked middle inside earlier ih =>
      simpa using ih.append_right (ranked.drop middle)
  | case2 ranked middle inside later ih =>
      refine (ih.append_left _).trans (List.perm_middle.trans ?_)
      simp
  | case3 ranked middle outside =>
      have empty : ranked = [] := List.eq_nil_of_length_eq_zero (by omega)
      simp [empty]

theorem foldl_insert_perm (before : α -> α -> Bool) (items ranked : List α) :
    (items.foldl (fun ranked item => insert before item ranked) ranked).Perm
      (ranked ++ items) := by
  induction items generalizing ranked with
  | nil => simp
  | cons item rest ih =>
      refine (ih _).trans (((insert_perm before item ranked).append_right rest).trans ?_)
      exact List.perm_middle.symm

theorem sort_perm (before : α -> α -> Bool) (items : List α) :
    (sort before items).Perm items := by
  match items with
  | [] => exact .refl _
  | [_] => exact .refl _
  | first :: second :: rest =>
      by_cases h : before second first
      · simp only [sort, h, if_true]
        refine (foldl_insert_perm before _ _).trans ?_
        refine ((List.reverse_perm _).append_right _).trans ?_
        rw [List.cons_append, run_append]
      · simp only [sort, h]
        refine (foldl_insert_perm before _ _).trans ?_
        rw [List.cons_append, run_append]

end Ranking

end GraphFacade
