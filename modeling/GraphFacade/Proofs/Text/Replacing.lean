import GraphFacade.Text.Split
import Mathlib.Data.List.Infix

/-!
# Replacing and cutting, piece by piece

A text is put in place of another one wherever that is met from the left.  Where
no occurrence starts, the text stays as it is, so a text that is made of pieces
is replaced piece by piece, and pieces between marks that are replaced as wholes
stay pieces between marks.  Cutting at a character is the library's.
-/

namespace GraphFacade

namespace Text

variable {old new piece rest : List Char}

/-! ## Replacing -/

theorem replaceFrom_skip (skipped rest : List Char) :
    replaceFrom old new skipped.length (skipped ++ rest) = replaceFrom old new 0 rest := by
  induction skipped with
  | nil => rfl
  | cons c skipped ih => exact ih

theorem replaceAll_self_append (nonempty : old ≠ []) (new rest : List Char) :
    replaceAll old new (old ++ rest) = new ++ replaceAll old new rest := by
  cases old with
  | nil => exact absurd rfl nonempty
  | cons c later =>
      have here : (c :: later).isPrefixOf (c :: (later ++ rest)) = true :=
        List.isPrefixOf_iff_prefix.mpr (List.prefix_append (c :: later) rest)
      rw [replaceAll, List.cons_append, replaceFrom, if_pos here]
      exact congrArg (new ++ ·) (replaceFrom_skip later rest)

theorem replaceAll_cons {c : Char} (free : ¬ old <+: c :: rest) :
    replaceAll old new (c :: rest) = c :: replaceAll old new rest := by
  rw [replaceAll, replaceFrom, if_neg (List.isPrefixOf_iff_prefix.not.mpr free)]
  rfl

theorem replaceAll_append
    (free : ∀ later, later <:+ piece -> later ≠ [] -> ¬ old <+: later ++ rest) :
    replaceAll old new (piece ++ rest) = piece ++ replaceAll old new rest := by
  induction piece with
  | nil => rfl
  | cons c piece ih =>
      have here : ¬ old <+: c :: (piece ++ rest) :=
        free (c :: piece) List.suffix_rfl (List.cons_ne_nil c piece)
      rw [List.cons_append, replaceAll_cons here, List.cons_append]
      exact congrArg (c :: ·) (ih fun later behind =>
        free later (behind.trans (List.suffix_cons c piece)))

/-! ## Cutting -/

theorem splitBy_eq_splitOnP (isMark : Char -> Bool) (cs : List Char) :
    splitBy isMark cs = cs.splitOnP isMark := by
  induction cs with
  | nil => rfl
  | cons c rest ih =>
      rw [List.splitOnP_cons_eq_if_modifyHead, splitBy, ih]
      split
      · rfl
      · cases pieces : rest.splitOnP isMark with
        | nil => exact absurd pieces (List.splitOnP_ne_nil isMark rest)
        | cons first others => rfl

theorem splitAt_eq_splitOn (mark : Char) (cs : List Char) :
    splitAt mark cs = cs.splitOn mark :=
  splitBy_eq_splitOnP _ cs

variable {mark : Char} {before behind : List Char}

theorem not_mem_of_mem_splitOn {cs : List Char} (h : piece ∈ cs.splitOn mark) : mark ∉ piece := by
  induction cs generalizing piece with
  | nil =>
      rw [List.splitOn_nil, List.mem_singleton] at h
      exact h ▸ List.not_mem_nil
  | cons c rest ih =>
      rw [List.splitOn_cons_eq_if_modifyHead] at h
      split at h
      · rcases List.mem_cons.mp h with rfl | later
        · exact List.not_mem_nil
        · exact ih later
      · rename_i other
        obtain ⟨first, others, pieces⟩ :=
          List.exists_cons_of_ne_nil (List.splitOn_ne_nil mark rest)
        rw [pieces, List.modifyHead_cons] at h
        rcases List.mem_cons.mp h with rfl | later
        · have inFirst : mark ∉ first := ih (pieces ▸ List.mem_cons_self)
          rw [List.mem_cons, not_or]
          exact ⟨fun same => other (beq_iff_eq.mpr same.symm), inFirst⟩
        · exact ih (pieces ▸ List.mem_cons_of_mem first later)

/-! ## Occurrences beside a mark -/

theorem prefix_of_prefix_append (free : mark ∉ old) (ends : ∀ c ∈ rest.head?, c = mark)
    (h : old <+: before ++ rest) : old <+: before := by
  induction before generalizing old with
  | nil =>
      cases old with
      | nil => exact List.nil_prefix
      | cons c later =>
          obtain ⟨more, rfl⟩ := h
          exact absurd (ends c rfl ▸ List.mem_cons_self) free
  | cons d before ih =>
      cases old with
      | nil => exact List.nil_prefix
      | cons c later =>
          obtain ⟨same, h⟩ := List.cons_prefix_cons.mp h
          have inside := ih (fun member => free (List.mem_cons_of_mem _ member)) h
          exact List.cons_prefix_cons.mpr ⟨same, inside⟩

theorem infix_append_cons_iff (nonempty : old ≠ []) (free : mark ∉ old) :
    old <:+: before ++ mark :: behind ↔ old <:+: before ∨ old <:+: behind := by
  have ends : ∀ c ∈ (mark :: behind).head?, c = mark := fun c first => by simpa using first.symm
  constructor
  · intro h
    induction before with
    | nil =>
        rcases List.infix_cons_iff.mp h with here | later
        · obtain ⟨c, more, rfl⟩ := List.exists_cons_of_ne_nil nonempty
          exact absurd ((List.cons_prefix_cons.mp here).1 ▸ List.mem_cons_self) free
        · exact .inr later
    | cons c before ih =>
        rcases List.infix_cons_iff.mp h with here | later
        · have first : old <+: c :: before := prefix_of_prefix_append free ends here
          exact .inl first.isInfix
        · exact (ih later).imp_left List.infix_cons
  · rintro (first | last)
    · exact List.infix_append_of_infix_left first
    · exact (List.infix_cons last).trans List.infix_append_right

/-! ## Replacing whole pieces -/

/-- A piece of which a text is all or nothing is replaced as a whole, or stays as it is. -/
theorem replaceAll_whole (nonempty : old ≠ []) (free : mark ∉ old)
    (whole : old <:+: piece -> piece = old) (ends : ∀ c ∈ rest.head?, c = mark) :
    replaceAll old new (piece ++ rest) =
      (if piece = old then new else piece) ++ replaceAll old new rest := by
  split
  · rename_i same
    rw [same, replaceAll_self_append nonempty]
  · rename_i other
    refine replaceAll_append fun later behind _ here => other (whole ?_)
    exact (prefix_of_prefix_append free ends here).isInfix.trans behind.isInfix

theorem replaceAll_intercalate {pieces : List (List Char)} (nonempty : old ≠ [])
    (free : mark ∉ old) (whole : ∀ piece ∈ pieces, old <:+: piece -> piece = old) :
    replaceAll old new ([mark].intercalate pieces) =
      [mark].intercalate (pieces.map fun piece => if piece = old then new else piece) := by
  induction pieces with
  | nil => rfl
  | cons piece pieces ih =>
      rw [List.forall_mem_cons] at whole
      cases pieces with
      | nil =>
          have alone : replaceAll old new (piece ++ []) =
              (if piece = old then new else piece) ++ replaceAll old new [] :=
            replaceAll_whole nonempty free whole.1 (by simp)
          simpa [replaceAll, replaceFrom] using alone
      | cons next others =>
          -- What is replaced has no mark, so the mark behind a piece is passed over.
          have starts : ¬ old <+: mark :: [mark].intercalate (next :: others) := by
            obtain ⟨c, more, rfl⟩ := List.exists_cons_of_ne_nil nonempty
            exact fun here =>
              free ((List.cons_prefix_cons.mp here).1 ▸ List.mem_cons_self)
          rw [List.intercalate_cons_cons, List.append_assoc, List.singleton_append,
            replaceAll_whole nonempty free whole.1 (by simp), replaceAll_cons starts,
            ih whole.2, List.map_cons, List.map_cons, List.map_cons, List.intercalate_cons_cons,
            List.append_assoc, List.singleton_append]

/-- Pieces that are replaced as a whole are the pieces of the text with replacements. -/
theorem splitOn_replaceAll {cs : List Char} (nonempty : old ≠ []) (free : mark ∉ old)
    (free' : mark ∉ new) (whole : ∀ piece ∈ cs.splitOn mark, old <:+: piece -> piece = old) :
    (replaceAll old new cs).splitOn mark =
      (cs.splitOn mark).map fun piece => if piece = old then new else piece := by
  have replaced : replaceAll old new ([mark].intercalate (cs.splitOn mark)) = _ :=
    replaceAll_intercalate nonempty free whole
  rw [List.intercalate_splitOn] at replaced
  rw [replaced]
  refine List.splitOn_intercalate mark (fun piece among => ?_) (by simp)
  obtain ⟨old', there, rfl⟩ := List.mem_map.mp among
  split
  · exact free'
  · exact not_mem_of_mem_splitOn there

end Text

end GraphFacade
